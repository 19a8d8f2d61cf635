import TecEngine.Physics.System

/-!
# Live rigid bodies

`RayCastMousePick`, `SetGravity` and `SetNormalGravity` dereference `bodies[e]` after only a
`find`, and `Update` dereferences the body it reads with `bodies[e]`: each is safe when every
entry of `bodies` holds a live rigid body (`BodiesLive`). The code does not keep that. Two of
its paths leave a bad entry:

* `Update` reads `this->bodies[entity_id]` for every collision body with a position; when the
  collision body has no rigid body (its shape was null, so `AddRigidBody` refused it) the read
  inserts a null entry, which `SetGravity` then dereferences;
* `RemoveRigidBody` deletes the body but leaves its pointer in `bodies`; `On(EntityDestroyed)`
  erases the entry right after, but `AddRigidBody` of a collision body with no shape returns
  with the deleted pointer still there, which the next `Update` uses and the next
  `RemoveRigidBody` deletes again.

Without those two ingredients the invariant holds: on every run of `On(EntityCreated)` with
collision bodies that have a shape, `On(EntityDestroyed)`, `AddRigidBody` of a body with a
shape, `Update`, `SetGravity` and `SetNormalGravity`, every entry stays live and no call faults.
The invariant that carries it (`Safe`) adds that distinct entities hold distinct bodies, that
fresh addresses are fresh, and that every collision body has an entry in `bodies`.

## Main definitions

* `BodiesLive`: every entry of `bodies` holds a live rigid body
* `Safe`: the invariant of the runs that keep it
* `PhysicsOp.Shaped`: the calls those runs are made of

## Main results

* `run_safe`: the runs of shaped calls keep `Safe` and never fault
* `bodies_entry_null_or_deleted`: the two runs that break `BodiesLive`, and the faults that
  follow
-/

namespace TecEngine

namespace PhysicsSystem

/-- **Live bodies**: every entry of `bodies` holds a non-null pointer to a live rigid body. -/
def BodiesLive (s : PhysicsSystem) : Prop :=
  ∀ e p, s.bodies.find e = some p → ∃ a, p = .addr a ∧ (s.heap.find a).isSome

/-- The heap half of the invariant, on the fields it reads: entries hold live bodies, distinct
entities hold distinct bodies, and every live address is below the next one `new` hands out. -/
structure HeapSafe (bodies : StdMap BodyPtr) (heap : StdMap RigidBody) (nextAddress : Nat) :
    Prop where
  live : ∀ e p, bodies.find e = some p → ∃ a, p = .addr a ∧ (heap.find a).isSome
  unique : ∀ e e' a, bodies.find e = some (.addr a) → bodies.find e' = some (.addr a) → e = e'
  fresh : ∀ a, (heap.find a).isSome → a < nextAddress

/-- The invariant of the runs that keep the bodies live, on the fields it reads: the heap half,
and every collision body has an entry in `bodies`. -/
structure SafeFields (collisionBodies : StdMap CollisionBody) (bodies : StdMap BodyPtr)
    (heap : StdMap RigidBody) (nextAddress : Nat) extends HeapSafe bodies heap nextAddress : Prop where
  covered : ∀ e cb, (e, cb) ∈ collisionBodies → (bodies.find e).isSome

/-- The invariant of the runs that keep the bodies live. -/
def Safe (s : PhysicsSystem) : Prop :=
  SafeFields s.collisionBodies s.bodies s.heap s.nextAddress

/-- Writing a live body keeps `Safe`. -/
theorem Safe.setHeap {s : PhysicsSystem} (hs : s.Safe) {a : Nat} (ha : (s.heap.find a).isSome)
    (b : RigidBody) : { s with heap := s.heap.set a b }.Safe := by
  refine ⟨⟨fun e p he => ?_, hs.unique, fun a' h' => ?_⟩, hs.covered⟩
  · obtain ⟨a', rfl, h'⟩ := hs.live e p he
    exact ⟨a', rfl, by by_cases h : a' = a <;> simp [h, h']⟩
  · by_cases h : a' = a
    · subst h; exact hs.fresh a' ha
    · exact hs.fresh a' (by simpa [h] using h')

/-- Storing a collision body for an entity with a body keeps `Safe`. -/
theorem Safe.setCollisionBody {s : PhysicsSystem} (hs : s.Safe) {e : Eid}
    (he : (s.bodies.find e).isSome) (cb : CollisionBody) :
    { s with collisionBodies := s.collisionBodies.set e cb }.Safe := by
  refine ⟨hs.toHeapSafe, fun k c hk => ?_⟩
  rcases StdMap.mem_set hk with h | h
  · cases h; exact he
  · exact hs.covered k c h

/-- Under live bodies `RemoveRigidBody` does not fault: it frees the entity's body, if any. -/
theorem removeRigidBody_of_live {s : PhysicsSystem} (hl : s.BodiesLive) (e : Eid) :
    ∃ s', s.removeRigidBody e = some s' ∧ s'.bodies = s.bodies ∧
      s'.collisionBodies = s.collisionBodies ∧ s'.nextAddress = s.nextAddress ∧
      ∀ a, (s'.heap.find a).isSome ↔ (s.heap.find a).isSome ∧ s.bodies.find e ≠ some (.addr a) := by
  unfold removeRigidBody
  cases hf : s.bodies.find e with
  | none => exact ⟨s, rfl, rfl, rfl, rfl, by simp⟩
  | some p =>
    obtain ⟨a, rfl, ha⟩ := hl e p hf
    obtain ⟨b, hb⟩ := Option.isSome_iff_exists.mp ha
    refine ⟨{ s with world := s.world.erase a, heap := s.heap.erase a }, by simp [hb], rfl, rfl, rfl,
      fun a' => ?_⟩
    by_cases h : a' = a
    · subst h; simp [hf]
    · simp [h, hf, Ne.symm h]

/-- `On(EntityDestroyed)` keeps `Safe`. -/
theorem Safe.onEntityDestroyed {s : PhysicsSystem} (hs : s.Safe) (e : Eid) :
    ∃ s', s.onEntityDestroyed e = some s' ∧ s'.Safe := by
  obtain ⟨t, ht, hb, hc, hn, hh⟩ :=
    removeRigidBody_of_live (s := { s with collisionBodies := s.collisionBodies.erase e }) hs.live e
  refine ⟨{ t with bodies := t.bodies.erase e, positions := t.positions.erase e,
                   orientations := t.orientations.erase e },
    by simp [PhysicsSystem.onEntityDestroyed, ht], ?_⟩
  dsimp only at hb hc hn hh
  refine ⟨⟨?_, ?_, ?_⟩, ?_⟩
  · intro k p hk
    simp only [hb, StdMap.find_erase] at hk
    split_ifs at hk with hke
    obtain ⟨a, rfl, ha⟩ := hs.live k p hk
    refine ⟨a, rfl, (hh a).2 ⟨ha, fun he => hke ?_⟩⟩
    exact hs.unique k e a hk he
  · intro k k' a hk hk'
    simp only [hb, StdMap.find_erase] at hk hk'
    split_ifs at hk hk'
    exact hs.unique k k' a hk hk'
  · intro a ha
    rw [hn]
    exact hs.fresh a ((hh a).1 ha).1
  · intro k cb hk
    rw [hc, StdMap.mem_erase] at hk
    simp only [hb, StdMap.find_erase, hk.2, if_false]
    exact hs.covered k cb hk.1

/-- `AddRigidBody` of a collision body with a shape gives the entity a fresh live body and leaves
every other entry alone. -/
theorem HeapSafe.addRigidBody {s : PhysicsSystem} (hs : HeapSafe s.bodies s.heap s.nextAddress)
    (cb : CollisionBody) (hcb : cb.shape.isSome) :
    ∃ s', (s.addRigidBody cb).map Prod.fst = some s' ∧ HeapSafe s'.bodies s'.heap s'.nextAddress ∧
      s'.collisionBodies = s.collisionBodies ∧ (s'.bodies.find cb.entityId).isSome ∧
      ∀ k, k ≠ cb.entityId → s'.bodies.find k = s.bodies.find k := by
  obtain ⟨t, ht, hb, hc, hn, hh⟩ := removeRigidBody_of_live hs.live cb.entityId
  obtain ⟨sh, hsh⟩ := Option.isSome_iff_exists.mp hcb
  refine ⟨{ t with heap := t.heap.set t.nextAddress RigidBody.new, nextAddress := t.nextAddress + 1,
                   bodies := t.bodies.set cb.entityId (.addr t.nextAddress) },
    by simp [PhysicsSystem.addRigidBody, ht, hsh], ⟨?_, ?_, ?_⟩, hc, by simp, ?_⟩
  · intro k p hk
    simp only [StdMap.find_set, hb] at hk
    split_ifs at hk with hke
    · cases hk; exact ⟨_, rfl, by simp⟩
    · obtain ⟨a, rfl, ha⟩ := hs.live k p hk
      refine ⟨a, rfl, ?_⟩
      by_cases han : a = t.nextAddress
      · simp [han]
      · simpa [han] using (hh a).2 ⟨ha, fun he => hke (hs.unique k _ a hk he)⟩
  · intro k k' a hk hk'
    simp only [StdMap.find_set, hb] at hk hk'
    have hstale : ∀ j, s.bodies.find j ≠ some (.addr t.nextAddress) := fun j hj => by
      obtain ⟨_, he, ha⟩ := hs.live j _ hj
      cases he
      exact absurd (hs.fresh _ ha) (by omega)
    split_ifs at hk hk' with h₁ h₂ h₂
    · rw [h₁, h₂]
    · cases hk; exact absurd hk' (hstale k')
    · cases hk'; exact absurd hk (hstale k)
    · exact hs.unique k k' a hk hk'
  · intro a ha
    dsimp only at ha ⊢
    by_cases han : a = t.nextAddress
    · omega
    · have := hs.fresh a ((hh a).1 (by simpa [han] using ha)).1
      omega
  · intro k hk
    simp [hk, hb]

/-- One component of `On(EntityCreated)` keeps `Safe` when a collision body it carries has a
shape. -/
theorem Safe.onEntityCreatedComponent {s : PhysicsSystem} (hs : s.Safe) (id : Eid) (c : Component)
    (hc : ∀ cb, c = .collisionBody cb → cb.shape.isSome) :
    ∃ s', s.onEntityCreatedComponent id c = some s' ∧ s'.Safe := by
  cases c with
  | collisionBody cb =>
    obtain ⟨t, ht, hts, htc, hti, hto⟩ :=
      HeapSafe.addRigidBody (s := { s with collisionBodies :=
        (s.collisionBodies.set id { cb with entityId := id }) }) hs.toHeapSafe
        { cb with entityId := id } (hc cb rfl)
    refine ⟨t, ht, hts, fun k c hk => ?_⟩
    rw [htc] at hk
    rcases StdMap.mem_set hk with h | h
    · cases h; exact hti
    · by_cases hk : k = id
      · subst hk; exact hti
      · rw [hto k hk]; exact hs.covered k c h
  | position p => exact ⟨_, rfl, hs⟩
  | orientation o => exact ⟨_, rfl, hs⟩
  | velocity v => exact ⟨_, rfl, hs⟩
  | renderable r => exact ⟨_, rfl, hs⟩
  | animation a => exact ⟨_, rfl, hs⟩
  | other => exact ⟨_, rfl, hs⟩

/-- The components of an `EntityCreated` event, one after another, keep `Safe`. -/
theorem Safe.foldlM_onEntityCreatedComponent (id : Eid) :
    ∀ (cs : List Component) {s : PhysicsSystem}, s.Safe →
      (∀ cb, .collisionBody cb ∈ cs → cb.shape.isSome) →
      ∃ s', cs.foldlM (PhysicsSystem.onEntityCreatedComponent id) s = some s' ∧ s'.Safe
  | [], s, hs, _ => ⟨s, rfl, hs⟩
  | c :: cs, _, hs, hc => by
    obtain ⟨t, ht, hts⟩ := hs.onEntityCreatedComponent id c fun cb h => hc cb (by simp [← h])
    simpa [List.foldlM_cons, ht] using
      foldlM_onEntityCreatedComponent id cs hts fun cb h => hc cb (List.mem_cons_of_mem _ h)

/-- `On(EntityCreated)` keeps `Safe` when its collision bodies have shapes. -/
theorem Safe.onEntityCreated {s : PhysicsSystem} (hs : s.Safe) (data : EntityCreated)
    (hc : ∀ cb, .collisionBody cb ∈ data.entity.components → cb.shape.isSome) :
    ∃ s', s.onEntityCreated data = some s' ∧ s'.Safe :=
  foldlM_onEntityCreatedComponent data.entity.id _ hs hc

/-- One pass of `Update`'s loop keeps `Safe` and `bodies` when the entity has a body. -/
theorem Safe.updateCollidable {s : PhysicsSystem} (hs : s.Safe) (state : GameState) {e : Eid}
    (he : (s.bodies.find e).isSome) (cb : CollisionBody) :
    ∃ s', s.updateCollidable state e cb = some s' ∧ s'.Safe ∧ s'.bodies = s.bodies := by
  obtain ⟨p, hp⟩ := Option.isSome_iff_exists.mp he
  obtain ⟨a, rfl, ha⟩ := hs.live e _ hp
  obtain ⟨b, hb⟩ := Option.isSome_iff_exists.mp ha
  by_cases hpos : state.positions.find e = none
  · exact ⟨s, by simp [PhysicsSystem.updateCollidable, hpos], hs, rfl⟩
  · simp only [PhysicsSystem.updateCollidable, if_neg hpos, StdMap.subscript_of_find_eq_some _ hp,
      hb, Option.map_some']
    split_ifs
    · exact ⟨_, rfl, hs.setHeap ha _, rfl⟩
    · exact ⟨_, rfl, (hs.setHeap ha _).setCollisionBody he _, rfl⟩

/-- `Update`'s loop keeps `Safe` and `bodies` over collision bodies whose entities have
bodies. -/
theorem Safe.updateCollidables (state : GameState) :
    ∀ (l : StdMap CollisionBody) {s : PhysicsSystem}, s.Safe →
      (∀ e cb, (e, cb) ∈ l → (s.bodies.find e).isSome) →
      ∃ s', updateCollidables state s l = some s' ∧ s'.Safe ∧ s'.bodies = s.bodies
  | [], s, hs, _ => ⟨s, rfl, hs, rfl⟩
  | (e, cb) :: l, _, hs, hl => by
    obtain ⟨t, ht, hts, htb⟩ := hs.updateCollidable state (hl e cb (List.mem_cons_self _ _)) cb
    obtain ⟨u, hu, hus, hub⟩ := updateCollidables state l hts
      fun k c h => htb ▸ hl k c (List.mem_cons_of_mem _ h)
    exact ⟨u, by simp [PhysicsSystem.updateCollidables, ht, hu], hus, hub.trans htb⟩

/-- `Update` keeps `Safe`. -/
theorem Safe.update {s : PhysicsSystem} (hs : s.Safe) (state : GameState) (moved : List Eid) :
    ∃ s', (s.update state moved).map Prod.fst = some s' ∧ s'.Safe := by
  obtain ⟨t, ht, hts, -⟩ := updateCollidables state s.collisionBodies hs hs.covered
  refine ⟨{ t with collisionBodies :=
      t.collisionBodies.map fun p => (p.1, { p.2 with transformUpdated := false }) },
    by simp [PhysicsSystem.update, ht], hts.toHeapSafe, fun k c hk => ?_⟩
  obtain ⟨⟨k', c'⟩, hk', he⟩ := List.mem_map.mp hk
  cases he
  exact hts.covered k' c' hk'

/-- `SetGravity` and `SetNormalGravity` keep `Safe` and do not fault. -/
theorem Safe.setBodyGravity {s : PhysicsSystem} (hs : s.Safe) (e : Eid) (g : Vec3) :
    ∃ s', s.setBodyGravity e g = some s' ∧ s'.Safe := by
  unfold PhysicsSystem.setBodyGravity
  cases hp : s.bodies.find e with
  | none => exact ⟨s, rfl, hs⟩
  | some p =>
    obtain ⟨a, rfl, ha⟩ := hs.live e p hp
    obtain ⟨b, hb⟩ := Option.isSome_iff_exists.mp ha
    exact ⟨_, by simp [hb], hs.setHeap ha { b with gravity := g }⟩

end PhysicsSystem

/-- The calls of the runs that keep the bodies live: every collision body they bring has a
shape, and `RemoveRigidBody` is not called on its own. -/
def PhysicsOp.Shaped : PhysicsOp → Prop
  | .entityCreated data => ∀ cb, .collisionBody cb ∈ data.entity.components → cb.shape.isSome
  | .addRigidBody cb => cb.shape.isSome
  | .removeRigidBody _ => False
  | _ => True

namespace PhysicsSystem

/-- A shaped call keeps `Safe` and does not fault. -/
theorem Safe.step {s : PhysicsSystem} (hs : s.Safe) {op : PhysicsOp} (hop : op.Shaped) :
    ∃ s', s.step op = some s' ∧ s'.Safe := by
  cases op with
  | entityCreated data => exact hs.onEntityCreated data hop
  | entityDestroyed e => exact hs.onEntityDestroyed e
  | addRigidBody cb =>
    obtain ⟨t, ht, hts, htc, hti, hto⟩ := hs.toHeapSafe.addRigidBody cb hop
    refine ⟨t, ht, hts, fun k c hk => ?_⟩
    by_cases hkc : k = cb.entityId
    · subst hkc; exact hti
    · rw [hto k hkc]; exact hs.covered k c (htc ▸ hk)
  | removeRigidBody e => exact hop.elim
  | update state moved => exact hs.update state moved
  | setGravity e f => exact hs.setBodyGravity e f
  | setNormalGravity e => exact hs.setBodyGravity e s.gravity

/-- **Shaped runs keep the bodies live**: from a state satisfying `Safe`, every run of shaped
calls completes, without a fault, in a state satisfying `Safe`, whose `bodies` entries all hold
live rigid bodies. -/
theorem run_safe {s : PhysicsSystem} (hs : s.Safe) (ops : List PhysicsOp)
    (hops : ∀ op ∈ ops, op.Shaped) : ∃ s', s.run ops = some s' ∧ s'.Safe := by
  induction ops generalizing s with
  | nil => exact ⟨s, rfl, hs⟩
  | cons op ops ih =>
    obtain ⟨t, ht, hts⟩ := hs.step (hops op (List.mem_cons_self _ _))
    simpa [ht] using ih hts fun op h => hops op (List.mem_cons_of_mem _ h)

theorem new_safe : new.Safe where
  live _ _ h := by cases h
  unique _ _ _ h := by cases h
  fresh _ h := by cases h
  covered _ _ h := by cases h

/-- **Shaped runs from the constructed system keep the bodies live**: every run of shaped calls
completes without a fault, and every entry of `bodies` holds a live rigid body. -/
theorem new_run_bodiesLive (ops : List PhysicsOp) (hops : ∀ op ∈ ops, op.Shaped) :
    ∃ s, new.run ops = some s ∧ s.BodiesLive :=
  let ⟨s, hs, hsafe⟩ := run_safe new_safe ops hops
  ⟨s, hs, hsafe.live⟩

theorem new_run_bodiesLive_capsule :
    (∀ op ∈ [PhysicsOp.entityCreated ⟨⟨1, [.collisionBody ⟨1, some (.capsule (1/2) (8/5)), 10, true,
        true, false, false⟩]⟩, 1⟩, .update ⟨[(1, ⟨⟨0, 0, 0⟩⟩)]⟩ [1], .entityDestroyed 1], op.Shaped) ∧
    ∃ s, new.run [.entityCreated ⟨⟨1, [.collisionBody ⟨1, some (.capsule (1/2) (8/5)), 10, true,
        true, false, false⟩]⟩, 1⟩, .update ⟨[(1, ⟨⟨0, 0, 0⟩⟩)]⟩ [1], .entityDestroyed 1] = some s ∧
      s.BodiesLive := by
  refine ⟨?_, new_run_bodiesLive _ ?_⟩ <;>
  · intro op hop
    simp only [List.mem_cons, List.mem_singleton, List.not_mem_nil, or_false] at hop
    rcases hop with rfl | rfl | rfl <;> simp [PhysicsOp.Shaped]

theorem not_bodiesLive_of_null {s : PhysicsSystem} {e : Eid} (h : s.bodies.find e = some .null) :
    ¬ s.BodiesLive := fun hl => by
  obtain ⟨_, h', _⟩ := hl e _ h
  cases h'

theorem not_bodiesLive_of_dead {s : PhysicsSystem} {e : Eid} {a : Nat}
    (h : s.bodies.find e = some (.addr a)) (ha : s.heap.find a = none) : ¬ s.BodiesLive := fun hl => by
  obtain ⟨_, h', ha'⟩ := hl e _ h
  cases h'
  simp [ha] at ha'

/-- **The bodies do not stay live.** A collision body with no shape, given a position, makes
`Update` insert a null entry, which `SetGravity` dereferences; an entity re-created with a
collision body with no shape keeps its deleted body, which `Update` dereferences and
`On(EntityDestroyed)` deletes again. -/
theorem bodies_entry_null_or_deleted :
    (∃ s, new.run [.entityCreated ⟨⟨1, [.collisionBody ⟨1, none, 10, false, false, false, false⟩]⟩, 1⟩,
        .update ⟨[(1, ⟨⟨0, 0, 0⟩⟩)]⟩ []] = some s ∧
      s.bodies.find 1 = some .null ∧ ¬ s.BodiesLive ∧ s.setGravity 1 ⟨0, 1, 0⟩ = none) ∧
    (∃ s, new.run [.entityCreated ⟨⟨1, [.collisionBody ⟨1, some (.capsule (1/2) (8/5)), 10, false,
          false, false, false⟩]⟩, 1⟩,
        .entityCreated ⟨⟨1, [.collisionBody ⟨1, none, 10, false, false, false, false⟩]⟩, 1⟩] = some s ∧
      s.bodies.find 1 = some (.addr 0) ∧ s.heap.find 0 = none ∧ ¬ s.BodiesLive ∧
      s.update ⟨[(1, ⟨⟨0, 0, 0⟩⟩)]⟩ [] = none ∧ s.onEntityDestroyed 1 = none) :=
  ⟨⟨_, rfl, rfl, not_bodiesLive_of_null (e := 1) rfl, rfl⟩,
   ⟨_, rfl, rfl, rfl, not_bodiesLive_of_dead (e := 1) (a := 0) rfl rfl, rfl, rfl⟩⟩

end PhysicsSystem

end TecEngine
