import TecEngine.Physics.Bodies
import TecEngine.Physics.RayCast

/-!
# The physics update and its event queues

`PhysicsSystem::Update` (`physics-system.cpp`) starts by draining its event queues, one kind
after another: every queued `MouseBtnEvent`, then every queued `EntityCreated`, then every
queued `EntityDestroyed`. The order in which events of different kinds were queued is lost: a
destruction queued before a creation of the same entity in one frame is handled after it.

The event queues' class is outside the sources; its `ProcessEventQueue` is modelled as calling
`On` for each event of its kind queued since its last call, in order. A mouse button's click
event is emitted to other systems, so it is an output here.

## Main definitions

* `PhysicsQueues`: the events queued between two updates, by kind
* `PhysicsSystem.updateFrame`: `Update` with its queues
* `PhysicsSystem.Gone`: an entity with no rigid body and no collision body

## Main results

* `Safe.updateFrame`: a frame whose creations bring collision bodies with shapes keeps the
  bodies live and does not fault
* `updateFrame_destroyed_gone`: an entity destroyed in a frame has no body after it, whatever
  creation of it was queued in the same frame, and is not reported as updated
-/

namespace TecEngine

/-- The events queued for the physics system since its last `Update`, by kind, each in the
order queued. -/
structure PhysicsQueues where
  mouseBtn : List MouseBtnEvent
  entityCreated : List EntityCreated
  entityDestroyed : List Eid

namespace PhysicsSystem

/-- `Update` with its event queues: the click events of the mouse-button events, then every
queued `EntityCreated`, then every queued `EntityDestroyed`, then the update proper. Returns the
system, the updated entities, and the clicks emitted. -/
def updateFrame (s : PhysicsSystem) (q : PhysicsQueues) (state : GameState) (moved : List Eid) :
    Option (PhysicsSystem × List Eid × List (Eid × MouseClickEvent)) := do
  let clicks := q.mouseBtn.filterMap s.onMouseBtn
  let s ← q.entityCreated.foldlM onEntityCreated s
  let s ← q.entityDestroyed.foldlM onEntityDestroyed s
  let r ← s.update state moved
  pure (r.1, r.2, clicks)

/-- The entity `e` has neither a rigid body entry nor a collision body. -/
def Gone (e : Eid) (s : PhysicsSystem) : Prop :=
  s.bodies.find e = none ∧ s.collisionBodies.find e = none

/-- `On(EntityDestroyed)` of `e` leaves `e` gone, and of another entity keeps it gone. -/
theorem Gone.onEntityDestroyed {s s' : PhysicsSystem} {e e' : Eid} (hg : e = e' ∨ Gone e s)
    (h : s.onEntityDestroyed e' = some s') : Gone e s' := by
  obtain ⟨t, ht, rfl⟩ := Option.map_eq_some'.mp h
  obtain ⟨htb, htc⟩ : t.bodies = s.bodies ∧ t.collisionBodies = s.collisionBodies.erase e' := by
    rcases removeRigidBody_eq_some ht with ⟨rfl, -⟩ | ⟨a, -, -, rfl⟩ <;> exact ⟨rfl, rfl⟩
  simp only [Gone, htb, htc, StdMap.find_erase]
  rcases hg with rfl | ⟨hb, hc⟩
  · simp
  · simp [hb, hc]

/-- A run of `On(EntityDestroyed)` over a list holding `e` leaves `e` gone. -/
theorem Gone.foldlM_onEntityDestroyed {e : Eid} :
    ∀ (es : List Eid) {s s' : PhysicsSystem}, (e ∈ es ∨ Gone e s) →
      es.foldlM PhysicsSystem.onEntityDestroyed s = some s' → Gone e s'
  | [], _, _, hg, h => by
    cases h
    exact hg.resolve_left (List.not_mem_nil e)
  | e' :: es, s, _, hg, h => by
    obtain ⟨t, ht, hrest⟩ := Option.bind_eq_some.mp (by simpa [List.foldlM_cons] using h)
    by_cases hes : e ∈ es
    · exact foldlM_onEntityDestroyed es (.inl hes) hrest
    · refine foldlM_onEntityDestroyed es (.inr (Gone.onEntityDestroyed ?_ ht)) hrest
      rcases hg with hmem | hg
      · exact .inl ((List.mem_cons.mp hmem).resolve_right hes)
      · exact .inr hg

/-- One pass of `Update`'s loop over another entity keeps `e` gone. -/
theorem Gone.updateCollidable {s s' : PhysicsSystem} {e k : Eid} (hg : Gone e s) (hk : k ≠ e)
    {state : GameState} {cb : CollisionBody} (h : s.updateCollidable state k cb = some s') :
    Gone e s' := by
  have hsub : (s.bodies.subscript k BodyPtr.null).2.find e = none := by
    unfold StdMap.subscript
    split
    · exact hg.1
    · rw [StdMap.find_set_of_ne (Ne.symm hk)]; exact hg.1
  unfold PhysicsSystem.updateCollidable at h
  by_cases hpos : state.positions.find k = none
  · rw [if_pos hpos] at h
    cases h; exact hg
  rw [if_neg hpos] at h
  dsimp only at h
  split at h
  · cases h; exact ⟨hsub, hg.2⟩
  · obtain ⟨b, -, rfl⟩ := Option.map_eq_some'.mp h
    split
    · exact ⟨hsub, hg.2⟩
    · exact ⟨hsub, by rw [StdMap.find_set_of_ne (Ne.symm hk)]; exact hg.2⟩

/-- `Update`'s loop over collision bodies of other entities keeps `e` gone. -/
theorem Gone.updateCollidables {e : Eid} {state : GameState} :
    ∀ (l : StdMap CollisionBody) {s s' : PhysicsSystem}, Gone e s → (∀ k cb, (k, cb) ∈ l → k ≠ e) →
      updateCollidables state s l = some s' → Gone e s'
  | [], _, _, hg, _, h => by cases h; exact hg
  | (k, cb) :: l, _, _, hg, hl, h => by
    obtain ⟨t, ht, hrest⟩ := Option.bind_eq_some.mp h
    exact updateCollidables l (hg.updateCollidable (hl k cb (List.mem_cons_self _ _)) ht)
      (fun k' cb' h' => hl k' cb' (List.mem_cons_of_mem _ h')) hrest

/-- `Update` keeps `e` gone and does not report it. -/
theorem Gone.update {s s' : PhysicsSystem} {e : Eid} (hg : Gone e s) {state : GameState}
    {moved updated : List Eid} (h : s.update state moved = some (s', updated)) :
    Gone e s' ∧ e ∉ updated := by
  have hkeys : ∀ (m : StdMap CollisionBody), m.find e = none → ∀ k cb, (k, cb) ∈ m → k ≠ e :=
    fun m hm k cb hk hke => by
      subst hke
      simpa [hm] using StdMap.find_isSome_of_mem hk
  obtain ⟨t, ht, he⟩ := Option.map_eq_some'.mp h
  obtain ⟨hb, hc⟩ := hg.updateCollidables s.collisionBodies (hkeys _ hg.2) ht
  cases he
  refine ⟨⟨hb, ?_⟩, ?_⟩
  · cases hf : StdMap.find e (t.collisionBodies.map fun p => (p.1, { p.2 with transformUpdated := false })) with
    | none => rfl
    | some cb =>
      obtain ⟨⟨k, c⟩, hk, hkc⟩ := List.mem_map.mp (StdMap.mem_of_find_eq_some hf)
      exact (hkeys _ hc k c hk (Prod.mk.inj_iff.mp hkc).1).elim
  · simp only [List.mem_map, List.mem_filter, not_exists, not_and]
    intro p hp hpe
    exact hkeys _ hc p.1 p.2 hp.1 hpe

/-- Every entity `Update` reports has a collision body after it. -/
theorem update_reported {s s' : PhysicsSystem} {state : GameState} {moved updated : List Eid}
    (h : s.update state moved = some (s', updated)) {k : Eid} (hk : k ∈ updated) :
    (s'.collisionBodies.find k).isSome := by
  obtain ⟨t, -, he⟩ := Option.map_eq_some'.mp h
  cases he
  obtain ⟨⟨k', c⟩, hc, rfl⟩ := List.mem_map.mp hk
  exact StdMap.find_isSome_of_mem (List.mem_map.mpr ⟨(k', c), (List.mem_filter.mp hc).1, rfl⟩)

/-- Every entity a frame of `Update` reports has a collision body after it. -/
theorem updateFrame_reported {s s' : PhysicsSystem} {q : PhysicsQueues} {state : GameState}
    {moved updated : List Eid} {clicks : List (Eid × MouseClickEvent)}
    (h : s.updateFrame q state moved = some (s', updated, clicks)) {k : Eid} (hk : k ∈ updated) :
    (s'.collisionBodies.find k).isSome := by
  simp only [updateFrame, Option.bind_eq_bind, Option.bind_eq_some, Option.pure_def,
    Option.some.injEq] at h
  obtain ⟨t, -, u, -, ⟨r, updated'⟩, hr, hres⟩ := h
  obtain ⟨rfl, rfl, -⟩ := Prod.mk.inj_iff.mp hres |>.imp id Prod.mk.inj_iff.mp
  exact update_reported hr hk

/-- **A destroyed entity is gone after the frame**: when `Update` drains a queue holding an
`EntityDestroyed` of `e`, the entity ends with no rigid body and no collision body, even if an
`EntityCreated` of it was queued after the destruction, and `Update` does not report it as
updated. -/
theorem updateFrame_destroyed_gone {s s' : PhysicsSystem} {q : PhysicsQueues} {state : GameState}
    {moved updated : List Eid} {clicks : List (Eid × MouseClickEvent)}
    (h : s.updateFrame q state moved = some (s', updated, clicks)) {e : Eid}
    (he : e ∈ q.entityDestroyed) :
    s'.bodies.find e = none ∧ s'.collisionBodies.find e = none ∧ e ∉ updated := by
  simp only [updateFrame, Option.bind_eq_bind, Option.bind_eq_some, Option.pure_def,
    Option.some.injEq] at h
  obtain ⟨t, -, u, hu, ⟨r, updated'⟩, hr, hres⟩ := h
  obtain ⟨rfl, rfl, -⟩ := Prod.mk.inj_iff.mp hres |>.imp id Prod.mk.inj_iff.mp
  obtain ⟨⟨hb, hc⟩, hup⟩ := (Gone.foldlM_onEntityDestroyed _ (.inl he) hu).update hr
  exact ⟨hb, hc, hup⟩

/-- An entity whose creation and destruction are both queued for one frame, as a respawn queues
them, ends with no body. -/
theorem updateFrame_respawn_gone :
    ∃ s, new.updateFrame ⟨[], [⟨⟨1, [.collisionBody ⟨1, some (.capsule (1/2) (8/5)), 10, false,
          false, false, false⟩]⟩, 1⟩], [1]⟩ ⟨[(1, ⟨⟨0, 0, 0⟩⟩)]⟩ [] = some (s, [], []) ∧
      (1 : Eid) ∈ [1] ∧ s.bodies.find 1 = none ∧ s.collisionBodies.find 1 = none ∧
      (1 : Eid) ∉ ([] : List Eid) := by
  obtain ⟨s, hs⟩ : ∃ s, new.updateFrame ⟨[], [⟨⟨1, [.collisionBody ⟨1, some (.capsule (1/2) (8/5)),
      10, false, false, false, false⟩]⟩, 1⟩], [1]⟩ ⟨[(1, ⟨⟨0, 0, 0⟩⟩)]⟩ [] = some (s, [], []) :=
    ⟨_, rfl⟩
  exact ⟨s, hs, by decide, updateFrame_destroyed_gone hs (by decide)⟩

/-- A run of `On(EntityCreated)` over events whose collision bodies have shapes keeps `Safe`. -/
theorem Safe.foldlM_onEntityCreated :
    ∀ (ds : List EntityCreated) {s : PhysicsSystem}, s.Safe →
      (∀ data ∈ ds, (PhysicsOp.entityCreated data).Shaped) →
      ∃ s', ds.foldlM PhysicsSystem.onEntityCreated s = some s' ∧ s'.Safe
  | [], s, hs, _ => ⟨s, rfl, hs⟩
  | data :: ds, _, hs, hds => by
    obtain ⟨t, ht, hts⟩ := hs.onEntityCreated data (hds data (List.mem_cons_self _ _))
    obtain ⟨u, hu, hus⟩ := foldlM_onEntityCreated ds hts fun d h => hds d (List.mem_cons_of_mem _ h)
    exact ⟨u, by rw [List.foldlM_cons, ht]; exact hu, hus⟩

/-- A run of `On(EntityDestroyed)` keeps `Safe`. -/
theorem Safe.foldlM_onEntityDestroyed :
    ∀ (es : List Eid) {s : PhysicsSystem}, s.Safe →
      ∃ s', es.foldlM PhysicsSystem.onEntityDestroyed s = some s' ∧ s'.Safe
  | [], s, hs => ⟨s, rfl, hs⟩
  | e :: es, _, hs => by
    obtain ⟨t, ht, hts⟩ := hs.onEntityDestroyed e
    obtain ⟨u, hu, hus⟩ := foldlM_onEntityDestroyed es hts
    exact ⟨u, by rw [List.foldlM_cons, ht]; exact hu, hus⟩

/-- **A frame whose creations are shaped keeps `Safe`** and does not fault. -/
theorem Safe.updateFrame {s : PhysicsSystem} (hs : s.Safe) {q : PhysicsQueues}
    (hq : ∀ data ∈ q.entityCreated, (PhysicsOp.entityCreated data).Shaped) (state : GameState)
    (moved : List Eid) :
    ∃ s' updated, s.updateFrame q state moved = some (s', updated, q.mouseBtn.filterMap s.onMouseBtn) ∧
      s'.Safe := by
  obtain ⟨t, ht, hts⟩ := Safe.foldlM_onEntityCreated q.entityCreated hs hq
  obtain ⟨u, hu, hus⟩ := Safe.foldlM_onEntityDestroyed q.entityDestroyed hts
  obtain ⟨v, hv, hvs⟩ := hus.update state moved
  obtain ⟨⟨v', updated⟩, hv', rfl⟩ := Option.map_eq_some'.mp hv
  exact ⟨v', updated, by simp [PhysicsSystem.updateFrame, ht, hu, hv'], hvs⟩

end PhysicsSystem

end TecEngine
