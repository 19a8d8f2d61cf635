import TecEngine.Components

/-!
# The physics system

`PhysicsSystem` (`physics-system.cpp`) keeps one Bullet rigid body per entity with a
collision body, in `bodies : std::map<eid, btRigidBody*>`. Rigid bodies are heap objects:
`AddRigidBody` allocates one, `RemoveRigidBody` deletes one, and the other operations
dereference the pointer they find in `bodies`. The model makes the heap explicit: a pointer is
null or an address, the live allocations are a map from addresses, and an operation that
dereferences or deletes a null or dead pointer is undefined behaviour, a fault (`none`).

Bullet's numeric state (transforms, velocities, mass and inertia, the angular factor) and the
collision bodies' motion-state transforms are not modelled: no modelled result depends on
them. What is modelled of a rigid body is what the code sets and tests of it: its activation
state and gravity, and whether it is in the dynamics world.

## Main definitions

* `PhysicsSystem`: the system's state, with the collision-body, position and orientation
  multitons it writes
* `removeRigidBody`, `addRigidBody`, `onEntityCreated`, `onEntityDestroyed`, `setGravity`,
  `setNormalGravity`, `update`: the operations
* `PhysicsOp`, `PhysicsSystem.run`: runs of operations

## Main results

* `removeRigidBody_eq_some`, `removeRigidBody_eq_none`: what `RemoveRigidBody` does, and when
  it faults
* `addRigidBody_eq_some`: what `AddRigidBody` does
-/

namespace TecEngine

/-- A `btRigidBody*`: null, or the address of an allocation. -/
inductive BodyPtr
  | null
  | addr (a : Nat)
  deriving DecidableEq, Repr

/-- Bullet's `ACTIVE_TAG` activation state. -/
def ACTIVE_TAG : Nat := 1

/-- Bullet's `ISLAND_SLEEPING` activation state. -/
def ISLAND_SLEEPING : Nat := 2

/-- Bullet's `DISABLE_DEACTIVATION` activation state. -/
def DISABLE_DEACTIVATION : Nat := 4

/-- Bullet's `DISABLE_SIMULATION` activation state. -/
def DISABLE_SIMULATION : Nat := 5

/-- The state of a `btRigidBody` the physics system sets and tests. -/
structure RigidBody where
  activationState : Nat
  gravity : Vec3
  deriving DecidableEq, Repr

/-- The `btRigidBody` of `new btRigidBody(...)`: active, with no gravity yet. -/
def RigidBody.new : RigidBody := ⟨ACTIVE_TAG, ⟨0, 0, 0⟩⟩

/-- Bullet's `btCollisionObject::setActivationState`: a forced state (`DISABLE_DEACTIVATION`,
`DISABLE_SIMULATION`) stays. -/
def RigidBody.setActivationState (b : RigidBody) (newState : Nat) : RigidBody :=
  if b.activationState = DISABLE_DEACTIVATION ∨ b.activationState = DISABLE_SIMULATION then b
  else { b with activationState := newState }

/-- Bullet's `btDiscreteDynamicsWorld::addRigidBody` of a body whose mass is `mass`: a dynamic
body takes the world's gravity `g`; a static one, of mass 0, keeps its gravity and is put to
sleep. (`Update` calls `setMassProps(collidable->mass, ...)` just before whenever the mass
differs from the body's inverse mass, so the body is static exactly when `mass` is 0.) -/
def RigidBody.addedToWorld (b : RigidBody) (mass : ℚ) (g : Vec3) : RigidBody :=
  if mass = 0 then b.setActivationState ISLAND_SLEEPING else { b with gravity := g }

/-- The part of a `GameState` that `Update` reads into the model: which entities have a
position. -/
structure GameState where
  positions : StdMap Position
  deriving DecidableEq, Repr

/-- The physics system's state. -/
structure PhysicsSystem where
  /-- `CollisionBodyMap`, the `Multiton<eid, CollisionBody*>` -/
  collisionBodies : StdMap CollisionBody
  /-- `PositionMap` -/
  positions : StdMap Position
  /-- `OrientationMap` -/
  orientations : StdMap Orientation
  bodies : StdMap BodyPtr
  /-- the live `btRigidBody` allocations, by address -/
  heap : StdMap RigidBody
  /-- the address the next `new btRigidBody` returns -/
  nextAddress : Nat
  /-- the bodies added to `dynamicsWorld` -/
  world : List Nat
  /-- `dynamicsWorld->getGravity()` -/
  gravity : Vec3
  lastRayFrom : Vec3
  lastRayPos : Vec3
  lastRayNorm : Vec3
  lastRayDist : ℚ
  lastRayValid : Bool
  lastEntityHit : Eid
  deriving DecidableEq, Repr

namespace PhysicsSystem

/-- `PhysicsSystem()`: no bodies, a world with gravity `(0, -10, 0)`, no valid ray. The header
that initialises the other ray fields is outside the sources; they start at zero here. -/
def new : PhysicsSystem where
  collisionBodies := []
  positions := []
  orientations := []
  bodies := []
  heap := []
  nextAddress := 0
  world := []
  gravity := ⟨0, -10, 0⟩
  lastRayFrom := ⟨0, 0, 0⟩
  lastRayPos := ⟨0, 0, 0⟩
  lastRayNorm := ⟨0, 0, 0⟩
  lastRayDist := 0
  lastRayValid := false
  lastEntityHit := 0

/-- Dereferencing a `btRigidBody*`: the live body it points to; a null or dead pointer
faults. -/
def deref (s : PhysicsSystem) : BodyPtr → Option RigidBody
  | .null => none
  | .addr a => s.heap.find a

/-! ## Rigid bodies -/

/-- `RemoveRigidBody`: when `bodies` holds a non-null pointer for the entity, remove the body
from the world and delete it. The entry itself stays in `bodies`. -/
def removeRigidBody (s : PhysicsSystem) (e : Eid) : Option PhysicsSystem :=
  match s.bodies.find e with
  | some (.addr a) =>
    (s.heap.find a).map fun _ => { s with world := s.world.erase a, heap := s.heap.erase a }
  | _ => some s

/-- `AddRigidBody`: remove the entity's old body, then, when the collision body has a shape,
allocate a rigid body and store it in `bodies`. (`new` does not return null, so the code's
null test after it never fires.) -/
def addRigidBody (s : PhysicsSystem) (cb : CollisionBody) : Option (PhysicsSystem × Bool) :=
  (s.removeRigidBody cb.entityId).map fun (s : PhysicsSystem) =>
    match cb.shape with
    | none => (s, false)
    | some _ =>
      ({ s with heap := s.heap.set s.nextAddress RigidBody.new, nextAddress := s.nextAddress + 1,
                bodies := s.bodies.set cb.entityId (.addr s.nextAddress) }, true)

theorem removeRigidBody_eq_none {s : PhysicsSystem} {e : Eid} :
    s.removeRigidBody e = none ↔ ∃ a, s.bodies.find e = some (.addr a) ∧ s.heap.find a = none := by
  unfold removeRigidBody
  split <;> simp_all

theorem removeRigidBody_eq_some {s s' : PhysicsSystem} {e : Eid}
    (h : s.removeRigidBody e = some s') :
    (s' = s ∧ ∀ a, s.bodies.find e ≠ some (.addr a)) ∨
      ∃ a, s.bodies.find e = some (.addr a) ∧ (s.heap.find a).isSome ∧
        s' = { s with world := s.world.erase a, heap := s.heap.erase a } := by
  unfold removeRigidBody at h
  split at h
  · rename_i a hf
    obtain ⟨b, hb, rfl⟩ := Option.map_eq_some'.mp h
    exact .inr ⟨a, hf, by simp [hb], rfl⟩
  · rename_i hf
    exact .inl ⟨(Option.some.inj h).symm, fun a ha => hf a ha⟩

theorem addRigidBody_eq_some {s s' : PhysicsSystem} {cb : CollisionBody} {r : Bool}
    (h : s.addRigidBody cb = some (s', r)) :
    ∃ s₁, s.removeRigidBody cb.entityId = some s₁ ∧
      ((cb.shape = none ∧ s' = s₁ ∧ r = false) ∨
       (cb.shape.isSome ∧ r = true ∧
        s' = { s₁ with heap := s₁.heap.set s₁.nextAddress RigidBody.new,
                       nextAddress := s₁.nextAddress + 1,
                       bodies := s₁.bodies.set cb.entityId (.addr s₁.nextAddress) })) := by
  obtain ⟨s₁, h₁, h⟩ := Option.map_eq_some'.mp h
  refine ⟨s₁, h₁, ?_⟩
  cases hs : cb.shape <;> simp_all [eq_comm]

/-! ## Entity events -/

/-- One component of an `EntityCreated` event: a collision body is stored under the entity
and given a rigid body; positions and orientations go to their multitons. -/
def onEntityCreatedComponent (id : Eid) (s : PhysicsSystem) : Component → Option PhysicsSystem
  | .collisionBody cb =>
    ({ s with collisionBodies := s.collisionBodies.set id { cb with entityId := id } }.addRigidBody
      { cb with entityId := id }).map Prod.fst
  | .position p => some { s with positions := s.positions.set id p }
  | .orientation o => some { s with orientations := s.orientations.set id o }
  | _ => some s

/-- `On(EntityCreated)`. -/
def onEntityCreated (s : PhysicsSystem) (data : EntityCreated) : Option PhysicsSystem :=
  data.entity.components.foldlM (onEntityCreatedComponent data.entity.id) s

/-- `On(EntityDestroyed)`: drop the collision body, delete the rigid body, then erase the
entity's entries. -/
def onEntityDestroyed (s : PhysicsSystem) (e : Eid) : Option PhysicsSystem :=
  ({ s with collisionBodies := s.collisionBodies.erase e }.removeRigidBody e).map
    fun (s : PhysicsSystem) =>
    { s with bodies := s.bodies.erase e, positions := s.positions.erase e,
             orientations := s.orientations.erase e }

/-! ## Gravity -/

/-- `this->bodies[entity_id]->setGravity(g)` after a successful `find`: dereference the entry,
which faults on a null or dead pointer. -/
def setBodyGravity (s : PhysicsSystem) (e : Eid) (g : Vec3) : Option PhysicsSystem :=
  match s.bodies.find e with
  | none => some s
  | some .null => none
  | some (.addr a) =>
    (s.heap.find a).map fun (b : RigidBody) => { s with heap := s.heap.set a { b with gravity := g } }

/-- `SetGravity`. -/
def setGravity (s : PhysicsSystem) (e : Eid) (f : Vec3) : Option PhysicsSystem :=
  s.setBodyGravity e f

/-- `SetNormalGravity`: the world's gravity. -/
def setNormalGravity (s : PhysicsSystem) (e : Eid) : Option PhysicsSystem :=
  s.setBodyGravity e s.gravity

/-! ## `Update` -/

/-- The activation state `Update` forces on a body. -/
def activationAfter (cb : CollisionBody) (state : Nat) : Nat :=
  if cb.disableDeactivation then DISABLE_DEACTIVATION
  else if state = DISABLE_DEACTIVATION then ACTIVE_TAG else state

/-- One pass of `Update`'s first loop, over the collision body `cb` of entity `e`: skip an
entity with no position; read `this->bodies[entity_id]`, which inserts a null entry when there
is none; skip a null body; otherwise set its activation state and, the first time, add it to
the world (`RigidBody.addedToWorld`). -/
def updateCollidable (state : GameState) (s : PhysicsSystem) (e : Eid) (cb : CollisionBody) :
    Option PhysicsSystem :=
  if state.positions.find e = none then some s
  else
    let r := s.bodies.subscript e BodyPtr.null
    let s := { s with bodies := r.2 }
    match r.1 with
    | .null => some s
    | .addr a => (s.heap.find a).map fun (b : RigidBody) =>
      let b := { b with activationState := activationAfter cb b.activationState }
      if cb.inWorld then { s with heap := s.heap.set a b }
      else { s with heap := s.heap.set a (b.addedToWorld cb.mass s.gravity),
                    world := s.world ++ [a], collisionBodies := s.collisionBodies.set e { cb with inWorld := true } }

/-- `Update`'s first loop, over the collision bodies in key order. -/
def updateCollidables (state : GameState) : PhysicsSystem → StdMap CollisionBody →
    Option PhysicsSystem
  | s, [] => some s
  | s, (e, cb) :: rest => (s.updateCollidable state e cb).bind fun s => updateCollidables state s rest

/-- `Update`: the first loop, then `stepSimulation`, whose motion-state callbacks mark the
entities of `moved` as updated, then the set of updated entities, whose marks are cleared. -/
def update (s : PhysicsSystem) (state : GameState) (moved : List Eid) :
    Option (PhysicsSystem × List Eid) :=
  (updateCollidables state s s.collisionBodies).map fun (s : PhysicsSystem) =>
    let updated := fun (p : Eid × CollisionBody) => p.2.transformUpdated || p.1 ∈ moved
    ({ s with collisionBodies := s.collisionBodies.map fun p => (p.1, { p.2 with transformUpdated := false }) },
     (s.collisionBodies.filter updated).map Prod.fst)

end PhysicsSystem

/-! ## Runs -/

/-- A call on the physics system. -/
inductive PhysicsOp
  | entityCreated (data : EntityCreated)
  | entityDestroyed (e : Eid)
  | addRigidBody (cb : CollisionBody)
  | removeRigidBody (e : Eid)
  | update (state : GameState) (moved : List Eid)
  | setGravity (e : Eid) (f : Vec3)
  | setNormalGravity (e : Eid)

namespace PhysicsSystem

/-- One call, or a fault. -/
def step (s : PhysicsSystem) : PhysicsOp → Option PhysicsSystem
  | .entityCreated data => s.onEntityCreated data
  | .entityDestroyed e => s.onEntityDestroyed e
  | .addRigidBody cb => (s.addRigidBody cb).map Prod.fst
  | .removeRigidBody e => s.removeRigidBody e
  | .update state moved => (s.update state moved).map Prod.fst
  | .setGravity e f => s.setGravity e f
  | .setNormalGravity e => s.setNormalGravity e

/-- A run of calls, stopped by the first fault. -/
def run (s : PhysicsSystem) (ops : List PhysicsOp) : Option PhysicsSystem :=
  ops.foldlM step s

@[simp] theorem run_nil (s : PhysicsSystem) : s.run [] = some s := rfl

@[simp] theorem run_cons (s : PhysicsSystem) (op : PhysicsOp) (ops : List PhysicsOp) :
    s.run (op :: ops) = (s.step op).bind fun s => s.run ops := rfl

end PhysicsSystem

end TecEngine
