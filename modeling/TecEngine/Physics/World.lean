import TecEngine.Physics.Frame
import Mathlib.Data.List.Nodup

/-!
# The dynamics world

`Update` adds an entity's rigid body to `dynamicsWorld` the first time it meets the entity's
collision body with a position in the game state, and marks the collision body `in_world`;
`RemoveRigidBody` takes the body out of the world before it deletes it. Bullet steps every body
of its world in `stepSimulation`, so a deleted body left in the world would be used after it is
freed, and a body added twice would be stepped twice.

On the runs that keep the bodies live (`run_safe`), the world stays sound (`WorldSafe`): each of
its bodies is live, is there once, and is the body of an entity whose collision body is marked
`in_world`. The argument:

* the address a new rigid body gets is past every live allocation, so it is not in the world;
* `RemoveRigidBody` erases the one occurrence of the body it deletes;
* `Update` adds a body only for a collision body not marked `in_world`, which by `marked` is
  not in the world, and marks it; since `CollisionBodyMap` is in key order, its loop meets each
  entity once, with the collision body the map still holds.

When the collision bodies that `On(EntityCreated)` decodes are not marked `in_world` (as
`CollisionBody()` leaves them), the converse holds too (`Synced`): every collision body marked
`in_world` has its body in the world. Since `Update` marks every collision body whose entity has
a position, after every `Update` each such entity's body is in the world, and Bullet steps it.

## Main definitions

* `PhysicsSystem.WorldSafe`: the dynamics world holds live bodies, once each, of entities
  marked `in_world`
* `PhysicsSystem.Synced`: the collision bodies marked `in_world` have their bodies in the world
* `PhysicsSystem.InWorld`: every entity with a collision body and a position has its body in
  the world
* `PhysicsOp.Unmarked`: the calls the engine sends, with collision bodies not yet in the world

## Main results

* `run_worldSafe`: shaped runs keep the dynamics world sound
* `run_update_in_world`: after every `Update` of a run of the events the physics system
  receives, every entity with a collision body and a position has its live body in the world
* `WorldSafe.updateFrame`: the same for a frame of `Update` with its event queues
-/

namespace TecEngine

namespace PhysicsSystem

/-- The dynamics world's invariant, on the fields it reads. -/
structure WorldFields (collisionBodies : StdMap CollisionBody) (bodies : StdMap BodyPtr)
    (heap : StdMap RigidBody) (world : List Nat) : Prop where
  /-- `CollisionBodyMap` is in key order, so a loop over it meets each entity once -/
  sorted : collisionBodies.Pairwise (·.1 < ·.1)
  /-- no body is in the world twice -/
  nodup : world.Nodup
  /-- every body in the world is a live allocation -/
  live : ∀ a ∈ world, (heap.find a).isSome
  /-- every body in the world is the body of an entity -/
  owned : ∀ a ∈ world, ∃ e, bodies.find e = some (.addr a)
  /-- an entity's body is in the world only when its collision body is marked `in_world` -/
  marked : ∀ e cb a, collisionBodies.find e = some cb → bodies.find e = some (.addr a) →
    a ∈ world → cb.inWorld = true

/-- **The dynamics world is sound**: its bodies are live, each there once, and each the body of
an entity whose collision body is marked `in_world`. -/
def WorldSafe (s : PhysicsSystem) : Prop :=
  WorldFields s.collisionBodies s.bodies s.heap s.world

/-- Every collision body marked `in_world` has its entity's body in the world. -/
def Synced (s : PhysicsSystem) : Prop :=
  ∀ e cb a, s.collisionBodies.find e = some cb → s.bodies.find e = some (.addr a) →
    cb.inWorld = true → a ∈ s.world

/-- Every entity with a collision body and a position in `state` has a live rigid body in the
dynamics world, which Bullet steps. -/
def InWorld (state : GameState) (s : PhysicsSystem) : Prop :=
  ∀ e cb, s.collisionBodies.find e = some cb → state.positions.find e ≠ none →
    ∃ a, s.bodies.find e = some (.addr a) ∧ a ∈ s.world ∧ (s.heap.find a).isSome

theorem new_worldSafe : new.WorldSafe where
  sorted := .nil
  nodup := .nil
  live _ h := by cases h
  owned _ h := by cases h
  marked _ _ _ h := by cases h

theorem new_synced : new.Synced := fun _ _ _ h => by cases h

/-- The address `new` hands out next is not in a sound world. -/
theorem WorldSafe.nextAddress_not_mem {s : PhysicsSystem} (hs : s.Safe) (hw : s.WorldSafe) :
    s.nextAddress ∉ s.world := fun h => lt_irrefl _ (hs.fresh _ (hw.live _ h))

/-! ## Removing and adding a rigid body -/

/-- `RemoveRigidBody` takes the entity's body, and only it, out of a world with no body twice,
and frees it. -/
theorem removeRigidBody_world {s t : PhysicsSystem} {e : Eid} (hnd : s.world.Nodup)
    (h : s.removeRigidBody e = some t) :
    t.bodies = s.bodies ∧ t.collisionBodies = s.collisionBodies ∧ t.nextAddress = s.nextAddress ∧
      t.world.Nodup ∧ (∀ x, x ∈ t.world ↔ x ∈ s.world ∧ s.bodies.find e ≠ some (.addr x)) ∧
      ∀ x, s.bodies.find e ≠ some (.addr x) → t.heap.find x = s.heap.find x := by
  rcases removeRigidBody_eq_some h with ⟨rfl, hne⟩ | ⟨a, ha, -, rfl⟩
  · exact ⟨rfl, rfl, rfl, hnd, fun x => ⟨fun hx => ⟨hx, hne x⟩, And.left⟩, fun _ _ => rfl⟩
  · refine ⟨rfl, rfl, rfl, hnd.erase a, fun x => ?_, fun x hx => ?_⟩
    · rw [hnd.mem_erase_iff, ha]
      simp [and_comm, eq_comm]
    · rw [ha] at hx
      simp [Ne.symm (fun h : a = x => hx (h ▸ rfl))]

/-- `AddRigidBody` of a collision body with a shape takes the entity's old body out of the world
and gives the entity the next address, which is not in the world. -/
theorem addRigidBody_world {s s' : PhysicsSystem} {cb : CollisionBody} (hnd : s.world.Nodup)
    (hfresh : s.nextAddress ∉ s.world) (hcb : cb.shape.isSome)
    (h : (s.addRigidBody cb).map Prod.fst = some s') :
    s'.bodies = s.bodies.set cb.entityId (.addr s.nextAddress) ∧
      s'.collisionBodies = s.collisionBodies ∧ s'.world.Nodup ∧
      (∀ x, x ∈ s'.world ↔ x ∈ s.world ∧ s.bodies.find cb.entityId ≠ some (.addr x)) ∧
      ∀ x ∈ s'.world, s'.heap.find x = s.heap.find x := by
  obtain ⟨⟨s'', r⟩, hadd, rfl⟩ := Option.map_eq_some'.mp h
  obtain ⟨t, ht, (⟨hnone, -⟩ | ⟨-, -, rfl⟩)⟩ := addRigidBody_eq_some hadd
  · simp [hnone] at hcb
  obtain ⟨htb, htc, htn, htnd, htw, hth⟩ := removeRigidBody_world hnd ht
  refine ⟨by rw [htb, htn], htc, htnd, htw, fun x hx => ?_⟩
  obtain ⟨hxs, hxe⟩ := (htw x).mp hx
  have hxn : x ≠ t.nextAddress := fun hxn => hfresh (htn ▸ hxn ▸ hxs)
  simp only [StdMap.find_set, hxn, if_false]
  exact hth x hxe

/-- **`AddRigidBody` keeps the world sound**, on collision bodies `cbs` that differ from the
system's at most at the entity; it keeps it synced too when the entity's collision body in
`cbs` is not marked `in_world`. -/
theorem WorldSafe.addRigidBody {s s' : PhysicsSystem} (hs : s.Safe) (hw : s.WorldSafe)
    {cbs : StdMap CollisionBody} (hsorted : cbs.Pairwise (·.1 < ·.1)) {cb : CollisionBody}
    (hcb : cb.shape.isSome) (hcbs : ∀ e, e ≠ cb.entityId → cbs.find e = s.collisionBodies.find e)
    (h : ({ s with collisionBodies := cbs }.addRigidBody cb).map Prod.fst = some s') :
    s'.WorldSafe ∧
      (s.Synced → (∀ c, cbs.find cb.entityId = some c → c.inWorld = false) → s'.Synced) := by
  have hfresh := hw.nextAddress_not_mem hs
  obtain ⟨hb, hc, hnd, hmem, hh⟩ :=
    addRigidBody_world (s := { s with collisionBodies := cbs }) hw.nodup hfresh hcb h
  dsimp only at hb hmem
  have hkey : ∀ e x, s'.bodies.find e = some (.addr x) → x ∈ s'.world →
      e ≠ cb.entityId ∧ s.bodies.find e = some (.addr x) := by
    intro e x he hx
    have hne : e ≠ cb.entityId := by
      rintro rfl
      rw [hb, StdMap.find_set_self, Option.some.injEq, BodyPtr.addr.injEq] at he
      exact hfresh (he ▸ ((hmem x).mp hx).1)
    rw [hb, StdMap.find_set_of_ne hne] at he
    exact ⟨hne, he⟩
  refine ⟨⟨hc ▸ hsorted, hnd, fun x hx => ?_, fun x hx => ?_, fun e c x hce hbe hx => ?_⟩, ?_⟩
  · rw [hh x hx]
    exact hw.live x ((hmem x).mp hx).1
  · obtain ⟨hxs, hxe⟩ := (hmem x).mp hx
    obtain ⟨e, he⟩ := hw.owned x hxs
    have hne : e ≠ cb.entityId := fun h => hxe (h ▸ he)
    exact ⟨e, by rw [hb, StdMap.find_set_of_ne hne]; exact he⟩
  · obtain ⟨hne, hbe⟩ := hkey e x hbe hx
    rw [hc, hcbs e hne] at hce
    exact hw.marked e c x hce hbe ((hmem x).mp hx).1
  · intro hsync hunm e c x hce hbe hin
    rw [hc] at hce
    by_cases hne : e = cb.entityId
    · subst hne
      simp [hunm c hce] at hin
    · rw [hb, StdMap.find_set_of_ne hne] at hbe
      rw [hcbs e hne] at hce
      exact (hmem x).mpr ⟨hsync e c x hce hbe hin, fun h => hne (hs.unique e _ x hbe h)⟩

/-! ## Entity events -/

/-- One component of `On(EntityCreated)` with a collision body that has a shape keeps the world
sound, and synced when the collision body is not marked `in_world`. -/
theorem WorldSafe.onEntityCreatedComponent {s s' : PhysicsSystem} (hs : s.Safe)
    (hw : s.WorldSafe) {id : Eid} {c : Component} (hc : ∀ cb, c = .collisionBody cb → cb.shape.isSome)
    (h : s.onEntityCreatedComponent id c = some s') :
    s'.WorldSafe ∧ (s.Synced → (∀ cb, c = .collisionBody cb → cb.inWorld = false) → s'.Synced) := by
  cases c with
  | collisionBody cb =>
    have h' : ({ s with collisionBodies := s.collisionBodies.set id { cb with entityId := id } }.addRigidBody
        { cb with entityId := id }).map Prod.fst = some s' := h
    obtain ⟨hw', hsync⟩ := hw.addRigidBody hs (StdMap.pairwise_set hw.sorted)
      (show ({ cb with entityId := id } : CollisionBody).shape.isSome from hc cb rfl)
      (fun e hne => StdMap.find_set_of_ne hne _ _) h'
    refine ⟨hw', fun hs' hunm => hsync hs' fun c' hc' => ?_⟩
    rw [StdMap.find_set_self, Option.some.injEq] at hc'
    exact hc' ▸ hunm cb rfl
  | position | orientation | velocity | renderable | animation | other =>
    cases h
    exact ⟨hw, fun h _ => h⟩

/-- `On(EntityCreated)` with collision bodies that have shapes keeps the world sound, and synced
when they are not marked `in_world`. -/
theorem WorldSafe.foldlM_onEntityCreatedComponent (id : Eid) :
    ∀ (cs : List Component) {s s' : PhysicsSystem}, s.Safe → s.WorldSafe →
      (∀ cb, .collisionBody cb ∈ cs → cb.shape.isSome) →
      cs.foldlM (PhysicsSystem.onEntityCreatedComponent id) s = some s' →
      s'.WorldSafe ∧ (s.Synced → (∀ cb, .collisionBody cb ∈ cs → cb.inWorld = false) → s'.Synced)
  | [], _, _, _, hw, _, h => by cases h; exact ⟨hw, fun h _ => h⟩
  | c :: cs, s, _, hs, hw, hc, h => by
    obtain ⟨t, ht, hrest⟩ := Option.bind_eq_some.mp (by simpa [List.foldlM_cons] using h)
    have hhead : ∀ cb, c = .collisionBody cb → .collisionBody cb ∈ c :: cs := fun cb h => h ▸ List.mem_cons_self _ _
    obtain ⟨t', ht', hts⟩ := hs.onEntityCreatedComponent id c fun cb h => hc cb (hhead cb h)
    obtain rfl := Option.some.inj (ht.symm.trans ht')
    obtain ⟨htw, htsync⟩ := hw.onEntityCreatedComponent hs (fun cb h => hc cb (hhead cb h)) ht
    obtain ⟨hw', hsync'⟩ := foldlM_onEntityCreatedComponent id cs hts htw
      (fun cb h => hc cb (List.mem_cons_of_mem _ h)) hrest
    exact ⟨hw', fun hsy hun => hsync' (htsync hsy fun cb h => hun cb (hhead cb h))
      fun cb h => hun cb (List.mem_cons_of_mem _ h)⟩

/-- **`On(EntityDestroyed)` keeps the world sound and synced**: the entity's body leaves the
world as it is deleted. -/
theorem WorldSafe.onEntityDestroyed {s s' : PhysicsSystem} (hs : s.Safe) (hw : s.WorldSafe) {e : Eid}
    (h : s.onEntityDestroyed e = some s') : s'.WorldSafe ∧ (s.Synced → s'.Synced) := by
  obtain ⟨t, ht, rfl⟩ := Option.map_eq_some'.mp h
  obtain ⟨htb, htc, -, hnd, hmem, hh⟩ :=
    removeRigidBody_world (s := { s with collisionBodies := s.collisionBodies.erase e }) hw.nodup ht
  dsimp only at htb htc hmem hh
  have hbody : ∀ k x, (t.bodies.erase e).find k = some (.addr x) →
      k ≠ e ∧ s.bodies.find k = some (.addr x) := fun k x hk => htb ▸ StdMap.find_erase_eq_some hk
  refine ⟨⟨?_, hnd, fun x hx => ?_, fun x hx => ?_, fun k c x hkc hkb hx => ?_⟩,
    fun hsync k c x hkc hkb hin => ?_⟩
  · rw [htc]; exact hw.sorted.filter _
  · rw [hh x ((hmem x).mp hx).2]; exact hw.live x ((hmem x).mp hx).1
  · obtain ⟨hxs, hxe⟩ := (hmem x).mp hx
    obtain ⟨k, hk⟩ := hw.owned x hxs
    have hke : k ≠ e := fun h => hxe (h ▸ hk)
    exact ⟨k, by rw [StdMap.find_erase_of_ne hke, htb]; exact hk⟩
  · rw [htc] at hkc
    exact hw.marked k c x (StdMap.find_erase_eq_some hkc).2 (hbody k x hkb).2 ((hmem x).mp hx).1
  · rw [htc] at hkc
    obtain ⟨hke, hkb⟩ := hbody k x hkb
    exact (hmem x).mpr ⟨hsync k c x (StdMap.find_erase_eq_some hkc).2 hkb hin,
      fun h => hke (hs.unique k e x hkb h)⟩

/-! ## `Update` -/

/-- Overwriting a body keeps the world sound. -/
theorem WorldSafe.setHeap {s : PhysicsSystem} (hw : s.WorldSafe) (a : Nat) (b : RigidBody) :
    { s with heap := s.heap.set a b }.WorldSafe :=
  ⟨hw.sorted, hw.nodup, fun x hx => by by_cases hxa : x = a <;> simp [hxa, hw.live x hx], hw.owned,
    hw.marked⟩

/-- Adding an entity's live body, not yet in the world, at its end and marking the entity's
collision body `in_world` keeps the world sound and synced. -/
theorem WorldSafe.addToWorld {s : PhysicsSystem} (hs : s.Safe) (hw : s.WorldSafe) {e a : Nat}
    {cb : CollisionBody} (hp : s.bodies.find e = some (.addr a)) (ha : (s.heap.find a).isSome)
    (hout : a ∉ s.world) (hin : cb.inWorld = true) :
    { s with world := s.world ++ [a], collisionBodies := s.collisionBodies.set e cb }.WorldSafe ∧
      (s.Synced →
        { s with world := s.world ++ [a], collisionBodies := s.collisionBodies.set e cb }.Synced) := by
  have hother : ∀ k x, s.bodies.find k = some (.addr x) → x ∈ s.world ++ [a] → k ≠ e →
      x ∈ s.world := fun k x hk hx hke => (List.mem_append.mp hx).resolve_right fun hx =>
    hke (hs.unique k e x hk (List.mem_singleton.mp hx ▸ hp))
  refine ⟨⟨StdMap.pairwise_set hw.sorted, hw.nodup.append (List.nodup_singleton a)
      (List.disjoint_singleton.mpr hout), fun x hx => ?_, fun x hx => ?_, fun k c x hkc hkb hx => ?_⟩,
    fun hsync k c x hkc hkb hin' => ?_⟩
  · exact (List.mem_append.mp hx).elim (hw.live x) fun hx => List.mem_singleton.mp hx ▸ ha
  · exact (List.mem_append.mp hx).elim (hw.owned x) fun hx => ⟨e, List.mem_singleton.mp hx ▸ hp⟩
  · dsimp only at hkc hkb hx
    by_cases hke : k = e
    · subst hke
      rw [StdMap.find_set_self, Option.some.injEq] at hkc
      exact hkc ▸ hin
    · rw [StdMap.find_set_of_ne hke] at hkc
      exact hw.marked k c x hkc hkb (hother k x hkb hx hke)
  · dsimp only at hkc hkb ⊢
    by_cases hke : k = e
    · subst hke
      exact List.mem_append_right _ (List.mem_singleton.mpr (BodyPtr.addr.inj (Option.some.inj (hkb.symm.trans hp))))
    · rw [StdMap.find_set_of_ne hke] at hkc
      exact List.mem_append_left _ (hsync k c x hkc hkb hin')

/-- **One pass of `Update`'s loop** over an entity's collision body, as the map holds it, keeps
the world sound and synced and changes no other collision body; when the entity has a position,
its collision body ends marked `in_world`. -/
theorem WorldSafe.updateCollidable {s s' : PhysicsSystem} (hs : s.Safe) (hw : s.WorldSafe)
    {state : GameState} {e : Eid} {cb : CollisionBody} (hcb : s.collisionBodies.find e = some cb)
    (h : s.updateCollidable state e cb = some s') :
    s'.WorldSafe ∧ (s.Synced → s'.Synced) ∧
      (∀ k, k ≠ e → s'.collisionBodies.find k = s.collisionBodies.find k) ∧
      (state.positions.find e ≠ none → ∃ c, s'.collisionBodies.find e = some c ∧ c.inWorld = true) := by
  by_cases hpos : state.positions.find e = none
  · rw [PhysicsSystem.updateCollidable, if_pos hpos] at h
    cases h
    exact ⟨hw, id, fun _ _ => rfl, fun h => absurd hpos h⟩
  obtain ⟨p, hp⟩ := Option.isSome_iff_exists.mp (hs.covered e cb (StdMap.mem_of_find_eq_some hcb))
  obtain ⟨a, rfl, ha⟩ := hs.live e p hp
  obtain ⟨b, hb⟩ := Option.isSome_iff_exists.mp ha
  simp only [PhysicsSystem.updateCollidable, if_neg hpos, StdMap.subscript_of_find_eq_some _ hp,
    hb, Option.map_some', Option.some.injEq] at h
  split_ifs at h with hin <;> subst h
  · exact ⟨hw.setHeap a _, id, fun _ _ => rfl, fun _ => ⟨cb, hcb, hin⟩⟩
  · have hout : a ∉ s.world := fun h => by simp [hw.marked e cb a hcb hp h] at hin
    obtain ⟨hw', hsync⟩ := WorldSafe.addToWorld (hs.setHeap ha _) (hw.setHeap a _) hp (by simp) hout
      (show ({ cb with inWorld := true } : CollisionBody).inWorld = true from rfl)
    exact ⟨hw', hsync, fun k hke => StdMap.find_set_of_ne hke _ _,
      fun _ => ⟨_, StdMap.find_set_self _ _ _, rfl⟩⟩

/-- **`Update`'s loop** over the entries of the collision-body map it started from keeps the world
sound and synced; it ends with every collision body of an entity with a position marked
`in_world`, when the ones not yet met were all still to be met. -/
theorem WorldSafe.updateCollidables (state : GameState) :
    ∀ (l : StdMap CollisionBody) {s s' : PhysicsSystem}, s.Safe → s.WorldSafe →
      l.Pairwise (·.1 < ·.1) → (∀ p ∈ l, s.collisionBodies.find p.1 = some p.2) →
      (∀ k c, s.collisionBodies.find k = some c → state.positions.find k ≠ none →
        c.inWorld = true ∨ ∃ c', (k, c') ∈ l) →
      updateCollidables state s l = some s' →
      s'.WorldSafe ∧ (s.Synced → s'.Synced) ∧
        ∀ k c, s'.collisionBodies.find k = some c → state.positions.find k ≠ none → c.inWorld = true
  | [], _, _, _, hw, _, _, hmarks, h => by
    cases h
    exact ⟨hw, id, fun k c hk hp => (hmarks k c hk hp).resolve_right fun ⟨_, h⟩ => by cases h⟩
  | (e, cb) :: l, s, _, hs, hw, hl, hfind, hmarks, h => by
    obtain ⟨t, ht, hrest⟩ := Option.bind_eq_some.mp h
    have hcb := hfind (e, cb) (List.mem_cons_self _ _)
    obtain ⟨t', ht', hts, -⟩ :=
      hs.updateCollidable state (hs.covered e cb (StdMap.mem_of_find_eq_some hcb)) cb
    obtain rfl := Option.some.inj (ht.symm.trans ht')
    obtain ⟨htw, htsync, hto, hte⟩ := hw.updateCollidable hs hcb ht
    have hlt : ∀ p ∈ l, e < p.1 := fun p hp => List.rel_of_pairwise_cons hl hp
    obtain ⟨hw', hsync', hmarks'⟩ := updateCollidables state l hts htw hl.of_cons
      (fun p hp => by rw [hto p.1 (ne_of_gt (hlt p hp))]; exact hfind p (List.mem_cons_of_mem _ hp))
      (fun k c hk hp => by
        by_cases hke : k = e
        · subst hke
          obtain ⟨c', hc', hin⟩ := hte hp
          exact .inl (Option.some.inj (hk.symm.trans hc') ▸ hin)
        · rw [hto k hke] at hk
          refine (hmarks k c hk hp).imp_right fun ⟨c', hc'⟩ => ⟨c', ?_⟩
          exact (List.mem_cons.mp hc').resolve_left fun h => hke (Prod.mk.inj h).1)
      hrest
    exact ⟨hw', hsync' ∘ htsync, hmarks'⟩

/-- **`Update` keeps the world sound and synced**, and marks `in_world` every collision body of an
entity with a position. -/
theorem WorldSafe.update {s s' : PhysicsSystem} (hs : s.Safe) (hw : s.WorldSafe) {state : GameState}
    {moved updated : List Eid} (h : s.update state moved = some (s', updated)) :
    s'.WorldSafe ∧ (s.Synced → s'.Synced) ∧
      ∀ e cb, s'.collisionBodies.find e = some cb → state.positions.find e ≠ none → cb.inWorld = true := by
  obtain ⟨t, ht, he⟩ := Option.map_eq_some'.mp h
  cases he
  obtain ⟨htw, htsync, hmarks⟩ := WorldSafe.updateCollidables state s.collisionBodies hs hw hw.sorted
    (fun p hp => StdMap.find_of_mem hw.sorted hp)
    (fun k c hk _ => .inr ⟨c, StdMap.mem_of_find_eq_some hk⟩) ht
  have hfind : ∀ e (cb : CollisionBody), StdMap.find e (t.collisionBodies.map fun (p : Eid × CollisionBody) =>
      (p.1, { p.2 with transformUpdated := false })) = some cb →
      ∃ c, t.collisionBodies.find e = some c ∧ cb.inWorld = c.inWorld := fun e cb h => by
    obtain ⟨⟨k, c⟩, hk, hkc⟩ := List.mem_map.mp (StdMap.mem_of_find_eq_some h)
    obtain ⟨rfl, rfl⟩ := Prod.mk.inj_iff.mp hkc
    exact ⟨c, StdMap.find_of_mem htw.sorted hk, rfl⟩
  refine ⟨⟨List.pairwise_map.mpr htw.sorted, htw.nodup, htw.live, htw.owned, fun e cb x he hb hx => ?_⟩,
    fun hsync e cb x he hb hin => ?_, fun e cb he hp => ?_⟩
  · obtain ⟨c, hc, hin⟩ := hfind e cb he
    rw [hin]; exact htw.marked e c x hc hb hx
  · obtain ⟨c, hc, hin'⟩ := hfind e cb he
    exact htsync hsync e c x hc hb (hin' ▸ hin)
  · obtain ⟨c, hc, hin⟩ := hfind e cb he
    rw [hin]; exact hmarks e c hc hp

/-- `SetGravity` and `SetNormalGravity` keep the world sound and synced. -/
theorem WorldSafe.setBodyGravity {s s' : PhysicsSystem} (hw : s.WorldSafe) {e : Eid} {g : Vec3}
    (h : s.setBodyGravity e g = some s') : s'.WorldSafe ∧ (s.Synced → s'.Synced) := by
  unfold PhysicsSystem.setBodyGravity at h
  split at h
  · cases h; exact ⟨hw, id⟩
  · cases h
  · rename_i a _
    obtain ⟨b, -, rfl⟩ := Option.map_eq_some'.mp h
    exact ⟨hw.setHeap a _, id⟩

/-! ## Runs -/

end PhysicsSystem

/-- The calls the engine sends the physics system, with collision bodies not yet marked
`in_world`, as `CollisionBody()` leaves them: `AddRigidBody` and `RemoveRigidBody` are called
only from within the system. -/
def PhysicsOp.Unmarked : PhysicsOp → Prop
  | .entityCreated data => ∀ cb, .collisionBody cb ∈ data.entity.components → cb.inWorld = false
  | .addRigidBody _ | .removeRigidBody _ => False
  | _ => True

namespace PhysicsSystem

/-- **A shaped call keeps the world sound**, and synced when its collision bodies are not marked
`in_world`. -/
theorem WorldSafe.step {s s' : PhysicsSystem} (hs : s.Safe) (hw : s.WorldSafe) {op : PhysicsOp}
    (hop : op.Shaped) (h : s.step op = some s') :
    s'.WorldSafe ∧ (s.Synced → op.Unmarked → s'.Synced) := by
  cases op with
  | entityCreated data => exact hw.foldlM_onEntityCreatedComponent data.entity.id _ hs hop h
  | entityDestroyed e => exact (hw.onEntityDestroyed hs h).imp_right fun hsync hsy _ => hsync hsy
  | addRigidBody cb =>
    exact ⟨(hw.addRigidBody hs hw.sorted hop (fun _ _ => rfl) h).1, fun _ hun => hun.elim⟩
  | removeRigidBody e => exact hop.elim
  | update state moved =>
    obtain ⟨⟨t, u⟩, hu, rfl⟩ := Option.map_eq_some'.mp h
    exact (hw.update hs hu).imp_right fun hsync hsy _ => hsync.1 hsy
  | setGravity e f | setNormalGravity e =>
    exact (hw.setBodyGravity h).imp_right fun hsync hsy _ => hsync hsy

/-- A run of shaped calls from a safe state with a sound world completes and keeps both, and the
world synced when the calls' collision bodies are not marked `in_world`. -/
theorem WorldSafe.run {s : PhysicsSystem} (hs : s.Safe) (hw : s.WorldSafe) (ops : List PhysicsOp)
    (hops : ∀ op ∈ ops, op.Shaped) :
    ∃ s', s.run ops = some s' ∧ s'.Safe ∧ s'.WorldSafe ∧
      (s.Synced → (∀ op ∈ ops, op.Unmarked) → s'.Synced) := by
  induction ops generalizing s with
  | nil => exact ⟨s, rfl, hs, hw, fun h _ => h⟩
  | cons op ops ih =>
    obtain ⟨t, ht, hts⟩ := hs.step (hops op (List.mem_cons_self _ _))
    obtain ⟨htw, htsync⟩ := hw.step hs (hops op (List.mem_cons_self _ _)) ht
    obtain ⟨u, hu, hus, huw, husync⟩ := ih hts htw fun op h => hops op (List.mem_cons_of_mem _ h)
    exact ⟨u, by simp [ht, hu], hus, huw, fun hsy hun =>
      husync (htsync hsy (hun op (List.mem_cons_self _ _))) fun op h => hun op (List.mem_cons_of_mem _ h)⟩

/-- **Shaped runs keep the dynamics world sound**: from the constructed system, every run of
shaped calls completes, and its dynamics world then holds no body twice, and only live bodies,
each the body of an entity. -/
theorem run_worldSafe (ops : List PhysicsOp) (hops : ∀ op ∈ ops, op.Shaped) :
    ∃ s, new.run ops = some s ∧ s.world.Nodup ∧
      ∀ a ∈ s.world, (s.heap.find a).isSome ∧ ∃ e, s.bodies.find e = some (.addr a) := by
  obtain ⟨s, hs, -, hw, -⟩ := WorldSafe.run new_safe new_worldSafe ops hops
  exact ⟨s, hs, hw.nodup, fun a ha => ⟨hw.live a ha, hw.owned a ha⟩⟩

/-- A body added to the world and then replaced by a re-creation leaves the world with the new
body only. -/
theorem run_worldSafe_recreated :
    (∀ op ∈ [PhysicsOp.entityCreated ⟨⟨1, [.collisionBody ⟨1, some (.capsule (1/2) (8/5)), 10, true,
          true, false, false⟩]⟩, 1⟩, .update ⟨[(1, ⟨⟨0, 0, 0⟩⟩)]⟩ [],
        .entityCreated ⟨⟨1, [.collisionBody ⟨1, some (.capsule (1/2) (8/5)), 10, true, true, false,
          false⟩]⟩, 1⟩, .update ⟨[(1, ⟨⟨0, 0, 0⟩⟩)]⟩ []], op.Shaped) ∧
    ∃ s, new.run [.entityCreated ⟨⟨1, [.collisionBody ⟨1, some (.capsule (1/2) (8/5)), 10, true,
          true, false, false⟩]⟩, 1⟩, .update ⟨[(1, ⟨⟨0, 0, 0⟩⟩)]⟩ [],
        .entityCreated ⟨⟨1, [.collisionBody ⟨1, some (.capsule (1/2) (8/5)), 10, true, true, false,
          false⟩]⟩, 1⟩, .update ⟨[(1, ⟨⟨0, 0, 0⟩⟩)]⟩ []] = some s ∧ s.world.Nodup ∧
      ∀ a ∈ s.world, (s.heap.find a).isSome ∧ ∃ e, s.bodies.find e = some (.addr a) := by
  exact ⟨by simp [PhysicsOp.Shaped], run_worldSafe _ (by simp [PhysicsOp.Shaped])⟩

/-- `Update` from a safe state with a sound, synced world completes, keeps all three, and leaves
every entity with a collision body and a position with a live rigid body in the world. -/
theorem WorldSafe.update_in_world {s : PhysicsSystem} (hs : s.Safe) (hw : s.WorldSafe)
    (hsync : s.Synced) (state : GameState) (moved : List Eid) :
    ∃ s' updated, s.update state moved = some (s', updated) ∧ s'.Safe ∧ s'.WorldSafe ∧ s'.Synced ∧
      s'.InWorld state := by
  obtain ⟨s', hs', hss⟩ := hs.update state moved
  obtain ⟨⟨s', updated⟩, hu, rfl⟩ := Option.map_eq_some'.mp hs'
  obtain ⟨hw', hsync', hmarks⟩ := hw.update hs hu
  refine ⟨s', updated, hu, hss, hw', hsync' hsync, fun e cb he hp => ?_⟩
  obtain ⟨p, hp'⟩ := Option.isSome_iff_exists.mp (hss.covered e cb (StdMap.mem_of_find_eq_some he))
  obtain ⟨a, rfl, ha⟩ := hss.live e p hp'
  exact ⟨a, hp', hsync' hsync e cb a he hp' (hmarks e cb he hp), ha⟩

/-- **After every `Update`, each entity with a collision body and a position is in the world**:
from the constructed system, on every run of the calls the engine sends (creations whose
collision bodies have shapes and are not marked `in_world`, destructions, updates and gravity
changes), the `Update` that ends it completes, and then every entity with a collision body and
a position in the game state has a live rigid body in the dynamics world. -/
theorem run_update_in_world (ops : List PhysicsOp) (hops : ∀ op ∈ ops, op.Shaped ∧ op.Unmarked)
    (state : GameState) (moved : List Eid) :
    ∃ s, new.run (ops ++ [.update state moved]) = some s ∧
      s.InWorld state := by
  obtain ⟨t, ht, hts, htw, htsync⟩ := WorldSafe.run new_safe new_worldSafe ops fun op h => (hops op h).1
  obtain ⟨s, u, hu, -, -, -, hin⟩ :=
    htw.update_in_world hts (htsync new_synced fun op h => (hops op h).2) state moved
  refine ⟨s, ?_, hin⟩
  rw [PhysicsSystem.run, List.foldlM_append, ← PhysicsSystem.run, ht]
  simp [PhysicsSystem.step, hu]

/-- The user's capsule, created, updated and re-created, is in the world after the next
`Update`. -/
theorem run_update_in_world_recreated :
    (∀ op ∈ [PhysicsOp.entityCreated ⟨⟨1, [.collisionBody ⟨1, some (.capsule (1/2) (8/5)), 10, true,
          true, false, false⟩]⟩, 1⟩, .update ⟨[(1, ⟨⟨0, 0, 0⟩⟩)]⟩ [],
        .entityCreated ⟨⟨1, [.collisionBody ⟨1, some (.capsule (1/2) (8/5)), 10, true, true, false,
          false⟩]⟩, 1⟩], op.Shaped ∧ op.Unmarked) ∧
    ∃ s, new.run ([.entityCreated ⟨⟨1, [.collisionBody ⟨1, some (.capsule (1/2) (8/5)), 10, true,
          true, false, false⟩]⟩, 1⟩, .update ⟨[(1, ⟨⟨0, 0, 0⟩⟩)]⟩ [],
        .entityCreated ⟨⟨1, [.collisionBody ⟨1, some (.capsule (1/2) (8/5)), 10, true, true, false,
          false⟩]⟩, 1⟩] ++ [.update ⟨[(1, ⟨⟨0, 0, 0⟩⟩)]⟩ []]) = some s ∧
      s.InWorld ⟨[(1, ⟨⟨0, 0, 0⟩⟩)]⟩ := by
  exact ⟨by simp [PhysicsOp.Shaped, PhysicsOp.Unmarked],
    run_update_in_world _ (by simp [PhysicsOp.Shaped, PhysicsOp.Unmarked]) _ _⟩

/-! ## A frame -/

/-- **A frame of `Update` keeps the world sound and synced** when the creations it drains bring
collision bodies with shapes, not marked `in_world`: it completes, and after it every entity with
a collision body and a position in the game state has a live body in the world. -/
theorem WorldSafe.updateFrame {s : PhysicsSystem} (hs : s.Safe) (hw : s.WorldSafe) (hsync : s.Synced)
    {q : PhysicsQueues} (hq : ∀ data ∈ q.entityCreated,
      (PhysicsOp.entityCreated data).Shaped ∧ (PhysicsOp.entityCreated data).Unmarked)
    (state : GameState) (moved : List Eid) :
    ∃ s' updated, s.updateFrame q state moved = some (s', updated, q.mouseBtn.filterMap s.onMouseBtn) ∧
      s'.Safe ∧ s'.WorldSafe ∧ s'.Synced ∧
      s'.InWorld state := by
  obtain ⟨t, ht, hts, htw, htsync⟩ :=
    WorldSafe.run hs hw (q.entityCreated.map .entityCreated) (by simpa using fun d hd => (hq d hd).1)
  obtain ⟨u, hu, hus, huw, husync⟩ :=
    WorldSafe.run hts htw (q.entityDestroyed.map .entityDestroyed) (by simp [PhysicsOp.Shaped])
  obtain ⟨v, updated, hv, hvs, hvw, hvsync, hin⟩ := huw.update_in_world hus
    (husync (htsync hsync (by simpa using fun d hd => (hq d hd).2)) (by simp [PhysicsOp.Unmarked]))
    state moved
  refine ⟨v, updated, ?_, hvs, hvw, hvsync, hin⟩
  rw [PhysicsSystem.run, List.foldlM_map] at ht hu
  have ht' : q.entityCreated.foldlM onEntityCreated s = some t := ht
  have hu' : q.entityDestroyed.foldlM PhysicsSystem.onEntityDestroyed t = some u := hu
  simp [PhysicsSystem.updateFrame, ht', hu', hv]

end PhysicsSystem

end TecEngine
