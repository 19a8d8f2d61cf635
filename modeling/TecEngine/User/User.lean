import TecEngine.Physics.Bodies
import Mathlib.Data.Multiset.Basic
import Mathlib.Tactic.Abel

/-!
# The user's entity and controller

`User::AddEntityToWorld` (`user.cpp`) takes a fresh entity id from `GetNextEntityId`, gives the
entity the user's position and orientation, a velocity at rest and a capsule collision body,
announces it with an `EntityCreated` event, and makes an `FPSController` for it, announced with
a `ControllerAddedEvent`. `User::RemoveEntityFromWorld` announces the entity's destruction
(`EntityDestroyed`) and the controller's removal (`ControllerRemovedEvent`), each when there is
one, and forgets them. The id `GetNextEntityId` returns is the call's argument; the controller
is the allocation `std::make_shared` returns, fresh at every call. The writes of `Entity::Add`
to the component multitons are not modelled: no modelled function reads them back.

The events balance when every `AddEntityToWorld` is made while the user holds no entity and no
controller: the entities announced as created are those announced as destroyed and the one the
user holds, and so for the controllers. A second `AddEntityToWorld` overwrites the entity and
the controller without announcing their removal, and the earlier ones are never removed.

## Main definitions

* `User`, `UserEvent`: the user's state and the events it emits
* `addEntityToWorld`, `removeEntityFromWorld`, `User.run`: the calls and their runs
* `announced`: what a run announces of one kind; `createdIds`, `destroyedIds`,
  `addedControllers`, `removedControllers`: its four kinds
* `AddsWhenEmpty`: every `AddEntityToWorld` of a run is made while the user holds nothing

## Main results

* `run_events_balanced`: the announced entities and controllers balance with those the user
  holds
* `run_events_unbalanced`: two `AddEntityToWorld` calls in a row leave the first entity and
  controller announced and never removed
* `physics_of_user_run_bodiesLive`: the physics system that receives a user's entity events
  never faults, and its bodies stay live
-/

namespace TecEngine

/-- An `FPSController`: the allocation `std::make_shared<FPSController>` returned, and the
entity it controls. Controllers are compared by allocation, as the events' shared pointers
are. -/
structure FPSController where
  addr : Nat
  entityId : Eid
  deriving DecidableEq, Repr

/-- The user's `entity_data`. -/
structure EntityData where
  position : Position
  orientation : Orientation
  deriving DecidableEq, Repr

/-- The user's `credentials`. -/
structure Credentials where
  userId : String
  username : String
  deriving DecidableEq, Repr

/-- A `User`. -/
structure User where
  entityId : Eid
  /-- `controller`, a `std::shared_ptr<FPSController>` that may be null -/
  controller : Option FPSController
  entityData : EntityData
  credentials : Credentials
  /-- the allocation the next `std::make_shared<FPSController>` returns -/
  nextController : Nat
  deriving DecidableEq, Repr

/-- An event a user emits. -/
inductive UserEvent
  | entityCreated (data : EntityCreated)
  | controllerAdded (controller : FPSController)
  | entityDestroyed (entityId : Eid)
  | controllerRemoved (controller : FPSController)
  deriving DecidableEq, Repr

namespace User

/-- The collision body of the user's entity: mass 10, never deactivated, never rotated, the
capsule `SetCapsuleShape(0.5f, 1.6f)`. -/
def body (id : Eid) : CollisionBody :=
  ⟨id, some (.capsule (1 / 2) (8 / 5)), 10, true, true, false, false⟩

/-- `AddEntityToWorld`, with the id `GetNextEntityId` returns. -/
def addEntityToWorld (u : User) (id : Eid) : User × List UserEvent :=
  let controller : FPSController := ⟨u.nextController, id⟩
  ({ u with entityId := id, controller := some controller, nextController := u.nextController + 1 },
   [.entityCreated ⟨⟨id, [.position u.entityData.position, .orientation u.entityData.orientation,
      .velocity Velocity.rest, .collisionBody (body id)]⟩, id⟩,
    .controllerAdded controller])

/-- `RemoveEntityFromWorld`. -/
def removeEntityFromWorld (u : User) : User × List UserEvent :=
  let destroyed : User × List UserEvent :=
    if u.entityId ≠ 0 then ({ u with entityId := 0 }, [.entityDestroyed u.entityId]) else (u, [])
  match u.controller with
  | some c => ({ destroyed.1 with controller := none }, destroyed.2 ++ [.controllerRemoved c])
  | none => destroyed

end User

/-- A call on a user. -/
inductive UserOp
  | addEntityToWorld (id : Eid)
  | removeEntityFromWorld
  deriving DecidableEq, Repr

namespace User

/-- One call, with the events it emits. -/
def step (u : User) : UserOp → User × List UserEvent
  | .addEntityToWorld id => u.addEntityToWorld id
  | .removeEntityFromWorld => u.removeEntityFromWorld

/-- A run of calls, with the events it emits in order. -/
def run (u : User) : List UserOp → User × List UserEvent
  | [] => (u, [])
  | op :: ops => (((u.step op).1.run ops).1, (u.step op).2 ++ ((u.step op).1.run ops).2)

@[simp] theorem run_nil (u : User) : u.run [] = (u, []) := rfl

@[simp] theorem run_cons (u : User) (op : UserOp) (ops : List UserOp) :
    u.run (op :: ops) = (((u.step op).1.run ops).1, (u.step op).2 ++ ((u.step op).1.run ops).2) :=
  rfl

/-- Every `AddEntityToWorld` of the run `ops` from `u` is made while the user holds no entity
and no controller. -/
def AddsWhenEmpty (u : User) : List UserOp → Prop
  | [] => True
  | op :: ops =>
    (∀ id, op = .addEntityToWorld id → u.entityId = 0 ∧ u.controller = none) ∧
      AddsWhenEmpty (u.step op).1 ops

/-- The entity the user holds: none for the id 0. -/
def heldEntity (u : User) : Multiset Eid :=
  if u.entityId = 0 then 0 else {u.entityId}

/-- The controller the user holds. -/
def heldController (u : User) : Multiset FPSController :=
  (u.controller.toList : Multiset FPSController)

end User

/-! ## What a run announces -/

/-- What the events `evs` announce of one kind: the value `sel` reads from each event of that
kind, in order. -/
def announced {α : Type} (sel : UserEvent → Option α) (evs : List UserEvent) : Multiset α :=
  (evs.filterMap sel : List α)

/-- The entity ids `EntityCreated` events announce. -/
def createdIds : List UserEvent → Multiset Eid :=
  announced fun | .entityCreated data => some data.entityId | _ => none

/-- The entity ids `EntityDestroyed` events announce. -/
def destroyedIds : List UserEvent → Multiset Eid :=
  announced fun | .entityDestroyed e => some e | _ => none

/-- The controllers `ControllerAddedEvent`s announce. -/
def addedControllers : List UserEvent → Multiset FPSController :=
  announced fun | .controllerAdded c => some c | _ => none

/-- The controllers `ControllerRemovedEvent`s announce. -/
def removedControllers : List UserEvent → Multiset FPSController :=
  announced fun | .controllerRemoved c => some c | _ => none

@[simp] theorem announced_append {α : Type} (sel : UserEvent → Option α) (evs evs' : List UserEvent) :
    announced sel (evs ++ evs') = announced sel evs + announced sel evs' := by
  simp [announced]

/-- Books of one kind that balance over two stretches of a run balance over both. -/
theorem announced_balance_trans {α : Type} {sel sel' : UserEvent → Option α}
    {evs evs' : List UserEvent} {a b c : Multiset α}
    (h : announced sel evs + a = announced sel' evs + b)
    (h' : announced sel evs' + b = announced sel' evs' + c) :
    announced sel (evs ++ evs') + a = announced sel' (evs ++ evs') + c :=
  calc announced sel (evs ++ evs') + a = announced sel evs' + (announced sel evs + a) := by
        rw [announced_append]; abel
    _ = announced sel' evs + (announced sel evs' + b) := by rw [h]; abel
    _ = announced sel' (evs ++ evs') + c := by rw [h', announced_append]; abel

namespace User

/-- The books of one call balance: what it announces as created, with what the user held,
is what it announces as destroyed, with what the user holds after. -/
def Balances (u u' : User) (evs : List UserEvent) : Prop :=
  createdIds evs + u.heldEntity = destroyedIds evs + u'.heldEntity ∧
    addedControllers evs + u.heldController = removedControllers evs + u'.heldController

theorem balances_removeEntityFromWorld (u : User) :
    Balances u u.removeEntityFromWorld.1 u.removeEntityFromWorld.2 := by
  unfold removeEntityFromWorld
  by_cases he : u.entityId = 0 <;> cases hc : u.controller <;>
    simp [Balances, heldEntity, heldController, he, hc, createdIds, destroyedIds,
      addedControllers, removedControllers, announced]

theorem balances_addEntityToWorld {u : User} {id : Eid} (hid : id ≠ 0) (he : u.entityId = 0)
    (hc : u.controller = none) :
    Balances u (u.addEntityToWorld id).1 (u.addEntityToWorld id).2 := by
  simp [Balances, addEntityToWorld, heldEntity, heldController, he, hc, hid, createdIds,
    destroyedIds, addedControllers, removedControllers, announced]

/-- Books that balance over two stretches of a run balance over both. -/
theorem Balances.trans {u u' u'' : User} {evs evs' : List UserEvent} (h : Balances u u' evs)
    (h' : Balances u' u'' evs') : Balances u u'' (evs ++ evs') :=
  ⟨announced_balance_trans h.1 h'.1, announced_balance_trans h.2 h'.2⟩

/-- **The user's events balance** over every run whose `AddEntityToWorld` calls get non-zero ids
and are made while the user holds no entity and no controller: the entities announced as
created, with the one held at the start, are those announced as destroyed and the one held at
the end; and so for the controllers. From a user that holds nothing, the entities created and
not destroyed are exactly the one the user holds, and the controllers added and not removed
are exactly its controller. -/
theorem run_events_balanced (u : User) (ops : List UserOp)
    (hid : ∀ id, .addEntityToWorld id ∈ ops → id ≠ 0) (hadds : u.AddsWhenEmpty ops) :
    createdIds (u.run ops).2 + u.heldEntity = destroyedIds (u.run ops).2 + (u.run ops).1.heldEntity ∧
      addedControllers (u.run ops).2 + u.heldController =
        removedControllers (u.run ops).2 + (u.run ops).1.heldController := by
  induction ops generalizing u with
  | nil => exact ⟨rfl, rfl⟩
  | cons op ops ih =>
    have hstep : Balances u (u.step op).1 (u.step op).2 := by
      cases op with
      | addEntityToWorld id =>
        exact balances_addEntityToWorld (hid id (List.mem_cons_self _ _))
          (hadds.1 id rfl).1 (hadds.1 id rfl).2
      | removeEntityFromWorld => exact balances_removeEntityFromWorld u
    exact hstep.trans (ih _ (fun id h => hid id (List.mem_cons_of_mem _ h)) hadds.2)

/-- A login, a logout and a second login of a user that holds nothing. -/
theorem run_events_balanced_relogin :
    let u : User := ⟨0, none, ⟨⟨⟨0, 0, 0⟩⟩, ⟨⟨1, 0, 0, 0⟩⟩⟩, ⟨"1", "player"⟩, 0⟩
    let ops := [UserOp.addEntityToWorld 1, .removeEntityFromWorld, .addEntityToWorld 2]
    ((∀ id, .addEntityToWorld id ∈ ops → id ≠ 0) ∧ u.AddsWhenEmpty ops) ∧
    createdIds (u.run ops).2 + u.heldEntity = destroyedIds (u.run ops).2 + (u.run ops).1.heldEntity ∧
      addedControllers (u.run ops).2 + u.heldController =
        removedControllers (u.run ops).2 + (u.run ops).1.heldController := by
  intro u ops
  have hid : ∀ id, .addEntityToWorld id ∈ ops → id ≠ 0 := by simp [ops]
  have hadds : u.AddsWhenEmpty ops := by
    simp [u, ops, AddsWhenEmpty, step, addEntityToWorld, removeEntityFromWorld]
  exact ⟨⟨hid, hadds⟩, run_events_balanced u ops hid hadds⟩

/-- **Two logins in a row** announce entities 1 and 2 and their controllers, and remove none:
the user holds only entity 2 and the second controller. -/
theorem run_events_unbalanced :
    let u : User := ⟨0, none, ⟨⟨⟨0, 0, 0⟩⟩, ⟨⟨1, 0, 0, 0⟩⟩⟩, ⟨"1", "player"⟩, 0⟩
    let r := u.run [.addEntityToWorld 1, .addEntityToWorld 2]
    createdIds r.2 = {1, 2} ∧ destroyedIds r.2 = 0 ∧ r.1.heldEntity = {2} ∧
      addedControllers r.2 = {⟨0, 1⟩, ⟨1, 2⟩} ∧ removedControllers r.2 = 0 ∧
      r.1.heldController = {⟨1, 2⟩} := by
  decide

end User

/-! ## The physics system the user's events feed -/

/-- The physics operation a user event is, for the physics system: `On(EntityCreated)` and
`On(EntityDestroyed)`; the controller events go to other systems. `On(eid, EntityDestroyed)`
removes the `eid` that `Emit` passes, and the user emits `Emit(data)` with only the event, whose
`entity_id` is its own: the event system (`event-system.hpp`) is outside the sources, and the
model takes the `eid` it passes to be the event's `entity_id`. -/
def UserEvent.physicsOp : UserEvent → Option PhysicsOp
  | .entityCreated data => some (.entityCreated data)
  | .entityDestroyed e => some (.entityDestroyed e)
  | _ => none

namespace User

/-- Every physics operation a call's events make is shaped: the only collision body the user
announces is its capsule. -/
theorem physicsOp_shaped_step (u : User) (op : UserOp) :
    ∀ p ∈ (u.step op).2.filterMap UserEvent.physicsOp, p.Shaped := by
  cases op with
  | addEntityToWorld id =>
    simp [step, addEntityToWorld, UserEvent.physicsOp, PhysicsOp.Shaped, body]
  | removeEntityFromWorld =>
    unfold step removeEntityFromWorld
    by_cases he : u.entityId = 0 <;> cases u.controller <;>
      simp [he, UserEvent.physicsOp, PhysicsOp.Shaped]

theorem physicsOp_shaped_run (u : User) (ops : List UserOp) :
    ∀ p ∈ (u.run ops).2.filterMap UserEvent.physicsOp, p.Shaped := by
  induction ops generalizing u with
  | nil => simp
  | cons op ops ih =>
    intro p hp
    rw [run_cons, List.filterMap_append, List.mem_append] at hp
    exact hp.elim (physicsOp_shaped_step u op p) (ih _ p)

/-- **A user's events never fault the physics system**: the physics system constructed and then
fed the entity events of any run of a user's calls completes every call, and every entry of
`bodies` holds a live rigid body. -/
theorem physics_of_user_run_bodiesLive (u : User) (ops : List UserOp) :
    ∃ s, PhysicsSystem.new.run ((u.run ops).2.filterMap UserEvent.physicsOp) = some s ∧
      s.BodiesLive :=
  let ⟨s, hs, hsafe⟩ := PhysicsSystem.run_safe PhysicsSystem.new_safe _ (physicsOp_shaped_run u ops)
  ⟨s, hs, hsafe.live⟩

end User

end TecEngine
