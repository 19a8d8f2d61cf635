import TecEngine.Physics.World

/-!
# The simulation step

`Simulation::Simulate` (`simulation.cpp`) first lets its event queues deliver the input events
queued since its last call: its `On` handlers append each one to `current_command_list`, by
kind. It then calls `Update` of every controller with that command list and clears the list.
It runs the physics system's `Update` (with the physics system's own queues) on the
interpolated state, and returns the interpolated state with the position of each entity the
physics update reports read back from the physics system.

The event queues' class is outside the sources: its `ProcessEventQueue` is modelled as calling
`On` for each event of its kind queued since its last call, in order. An event is emitted to
every queue of its type, so a mouse button's event reaches the physics system's queue as well;
the clicks the physics update emits are handed out, and come back to the simulation's queue as
input events of the run.
The keyboard and mouse-move events' headers are outside the sources too: their types are
parameters. `GetPosition` reads the origin of the body's world transform, Bullet state the model
does not track: it is the parameter `bodyOrigin`. `GetOrientation` makes the same dereference,
and the velocity the code copies is the one the client state already holds, so the client
state's positions carry what the merge does.

## Main definitions

* `InputEvent`, `CommandList`: the controllers' input
* `Simulation`, `Simulation.simulate`, `Simulation.run`: the simulation and its runs
* `controllersAtSimulates`: the controllers each `Simulate` of a run finds, from the calls alone

## Main results

* `run_calls`: each `Simulate` of a run calls every controller added before it
* `run_delivers`: from the constructed simulation, a run whose physics events are shaped
  completes, the command lists its steps hand to the controllers are, kind by kind and in
  order, exactly the input events emitted, up to those still queued, and each `Simulate` calls
  every controller added before it with its list
* `run_simulate_positions`: every position `Simulate` returns is the interpolated one, or the
  origin of the live body of an entity with a collision body
* `run_simulate_in_world`: when the creations also bring collision bodies not marked
  `in_world`, after every `Simulate` each entity with a collision body and a position in the
  interpolated state has its live body in the dynamics world
-/

namespace TecEngine

/-- An input event of a kind the simulation passes to its controllers. -/
inductive InputEvent (K M : Type)
  /-- a `KeyboardEvent` -/
  | keyboard (e : K)
  | mouseBtn (e : MouseBtnEvent)
  /-- a `MouseMoveEvent` -/
  | mouseMove (e : M)
  | mouseClick (e : MouseClickEvent)

/-- A `CommandList`: the input events of each kind, in the order delivered. -/
structure CommandList (K M : Type) where
  keyboardEvents : List K
  mouseButtonEvents : List MouseBtnEvent
  mouseMoveEvents : List M
  mouseClickEvents : List MouseClickEvent

namespace CommandList

variable {K M : Type}

/-- The empty command list, which `Simulate` leaves after the controllers' updates. -/
def empty : CommandList K M := ⟨[], [], [], []⟩

/-- `On(...)`: append the event to the list of its kind. -/
def push (l : CommandList K M) : InputEvent K M → CommandList K M
  | .keyboard e => { l with keyboardEvents := l.keyboardEvents ++ [e] }
  | .mouseBtn e => { l with mouseButtonEvents := l.mouseButtonEvents ++ [e] }
  | .mouseMove e => { l with mouseMoveEvents := l.mouseMoveEvents ++ [e] }
  | .mouseClick e => { l with mouseClickEvents := l.mouseClickEvents ++ [e] }

/-- Two command lists one after the other, kind by kind. -/
def append (l l' : CommandList K M) : CommandList K M :=
  ⟨l.keyboardEvents ++ l'.keyboardEvents, l.mouseButtonEvents ++ l'.mouseButtonEvents,
    l.mouseMoveEvents ++ l'.mouseMoveEvents, l.mouseClickEvents ++ l'.mouseClickEvents⟩

instance : Append (CommandList K M) := ⟨append⟩

/-- The events `evs` delivered, in order, to an empty command list. -/
def ofEvents (evs : List (InputEvent K M)) : CommandList K M :=
  evs.foldl push empty

@[simp] theorem empty_append (l : CommandList K M) : empty ++ l = l := rfl

@[simp] theorem append_empty (l : CommandList K M) : l ++ empty = l := by
  show append l empty = l
  simp [append, empty]

theorem append_assoc (l l' l'' : CommandList K M) : l ++ l' ++ l'' = l ++ (l' ++ l'') := by
  show append (append l l') l'' = append l (append l' l'')
  simp [append]

theorem push_eq_append (l : CommandList K M) (e : InputEvent K M) :
    l.push e = l ++ empty.push e := by
  show _ = append _ _
  cases e <;> simp [push, append, empty]

/-- Delivering events to a command list appends their own command list. -/
theorem foldl_push (evs : List (InputEvent K M)) (l : CommandList K M) :
    evs.foldl push l = l ++ ofEvents evs := by
  induction evs generalizing l with
  | nil => exact (append_empty l).symm
  | cons e evs ih =>
    have hcons : ofEvents (e :: evs) = empty.push e ++ ofEvents evs := ih (empty.push e)
    rw [List.foldl_cons, ih, hcons, push_eq_append, append_assoc]

theorem ofEvents_append (evs evs' : List (InputEvent K M)) :
    ofEvents (evs ++ evs') = ofEvents evs ++ ofEvents evs' := by
  rw [ofEvents, List.foldl_append, foldl_push, ← ofEvents]

end CommandList

/-- The simulation's state. -/
structure Simulation (K M : Type) where
  physSys : PhysicsSystem
  /-- the physics system's event queues -/
  physQueues : PhysicsQueues
  /-- the controllers, in the order `AddController` added them -/
  controllers : List Nat
  currentCommandList : CommandList K M
  /-- the input events queued for the simulation, in the order queued -/
  queued : List (InputEvent K M)

/-- What one `Simulate` hands out: the command list the controllers get, their `Update` calls,
the client state, and the clicks the physics update emitted. -/
structure SimulateOut (K M : Type) where
  commandList : CommandList K M
  calls : List (Nat × CommandList K M)
  clientState : GameState
  clicks : List (Eid × MouseClickEvent)

namespace PhysicsSystem

/-- `GetPosition`: the origin of the entity's body, and the zero vector for an entity with no
body or a null one; a dead body faults. -/
def getPosition (bodyOrigin : Nat → Vec3) (s : PhysicsSystem) (e : Eid) : Option Position :=
  match s.bodies.find e with
  | some (.addr a) => (s.heap.find a).map fun _ => ⟨bodyOrigin a⟩
  | _ => some ⟨⟨0, 0, 0⟩⟩

end PhysicsSystem

/-- A call on the simulation, or an event emitted to it. -/
inductive SimOp (K M : Type)
  /-- an input event emitted to the simulation's queues -/
  | input (e : InputEvent K M)
  /-- an `EntityCreated` emitted to the physics system's queue -/
  | entityCreated (data : EntityCreated)
  /-- an `EntityDestroyed` emitted to the physics system's queue -/
  | entityDestroyed (e : Eid)
  /-- `AddController(controller)` -/
  | addController (c : Nat)
  /-- `Simulate(delta_time, interpolated_state)`, the physics step moving the bodies `moved` -/
  | simulate (interpolated : GameState) (moved : List Eid)

namespace Simulation

variable {K M : Type} (bodyOrigin : Nat → Vec3)

/-- A simulation with no controllers, nothing queued, and the constructed physics system. -/
def new : Simulation K M :=
  ⟨PhysicsSystem.new, ⟨[], [], []⟩, [], .empty, []⟩

/-- `Simulate`: deliver the queued input events, call every controller's `Update` with the
command list, clear it, run the physics update, and set the position of every entity it
reports from its body. -/
def simulate (sim : Simulation K M) (interpolated : GameState) (moved : List Eid) :
    Option (Simulation K M × SimulateOut K M) := do
  let commandList := sim.queued.foldl CommandList.push sim.currentCommandList
  let calls := sim.controllers.map fun c => (c, commandList)
  let (physSys, updated, clicks) ← sim.physSys.updateFrame sim.physQueues interpolated moved
  let positions ← updated.foldlM (fun positions e =>
    (physSys.getPosition bodyOrigin e).map fun p => positions.set e p) interpolated.positions
  pure ({ sim with physSys, physQueues := ⟨[], [], []⟩, currentCommandList := .empty, queued := [] },
    ⟨commandList, calls, ⟨positions⟩, clicks⟩)

/-- One call or emitted event, with what a `Simulate` hands out. -/
def step (sim : Simulation K M) : SimOp K M → Option (Simulation K M × Option (SimulateOut K M))
  | .input e =>
    let physQueues := match e with
      | .mouseBtn b => { sim.physQueues with mouseBtn := sim.physQueues.mouseBtn ++ [b] }
      | _ => sim.physQueues
    some ({ sim with queued := sim.queued ++ [e], physQueues }, none)
  | .entityCreated data =>
    some ({ sim with physQueues :=
      { sim.physQueues with entityCreated := sim.physQueues.entityCreated ++ [data] } }, none)
  | .entityDestroyed e =>
    some ({ sim with physQueues :=
      { sim.physQueues with entityDestroyed := sim.physQueues.entityDestroyed ++ [e] } }, none)
  | .addController c => some ({ sim with controllers := sim.controllers ++ [c] }, none)
  | .simulate interpolated moved => (sim.simulate bodyOrigin interpolated moved).map fun r => (r.1, some r.2)

/-- A run, stopped by a fault, with what its `Simulate` calls hand out, in order. -/
def run (sim : Simulation K M) : List (SimOp K M) → Option (Simulation K M × List (SimulateOut K M))
  | [] => some (sim, [])
  | op :: ops =>
    (sim.step bodyOrigin op).bind fun r =>
      (r.1.run ops).map fun r' => (r'.1, r.2.toList ++ r'.2)

end Simulation

/-- The input event a call emits to the simulation's queues. -/
def SimOp.input? {K M : Type} : SimOp K M → Option (InputEvent K M)
  | .input e => some e
  | _ => none

/-- The calls whose physics events keep the bodies live: every collision body an
`EntityCreated` brings has a shape. -/
def SimOp.Shaped {K M : Type} : SimOp K M → Prop
  | .entityCreated data => (PhysicsOp.entityCreated data).Shaped
  | _ => True

/-- The controller an `AddController` call adds. -/
def SimOp.addedController? {K M : Type} : SimOp K M → Option Nat
  | .addController c => some c
  | _ => none

/-- Whether a call is a `Simulate`. -/
def SimOp.isSimulate {K M : Type} : SimOp K M → Bool
  | .simulate _ _ => true
  | _ => false

/-- The controllers each `Simulate` of `ops` finds, from the controllers `cs` on: `cs` and those
of the `AddController` calls before it, in order. -/
def controllersAtSimulates {K M : Type} (cs : List Nat) : List (SimOp K M) → List (List Nat)
  | [] => []
  | op :: ops =>
    (if op.isSimulate then [cs] else []) ++ controllersAtSimulates (cs ++ op.addedController?.toList) ops

/-- A fold of steps that each succeed succeeds. -/
theorem exists_foldlM_eq_some {α β : Type} {f : β → α → Option β} (hf : ∀ b a, (f b a).isSome) :
    ∀ (l : List α) (b : β), ∃ b', l.foldlM f b = some b'
  | [], b => ⟨b, rfl⟩
  | a :: l, b => by
    obtain ⟨c, hc⟩ := Option.isSome_iff_exists.mp (hf b a)
    obtain ⟨b', hb'⟩ := exists_foldlM_eq_some hf l c
    exact ⟨b', by rw [List.foldlM_cons, hc]; exact hb'⟩

namespace Simulation

variable {K M : Type} (bodyOrigin : Nat → Vec3)

/-- The invariant of the runs: the physics system is `Safe`, the command list is clear between
steps, and the queued creations are shaped. -/
structure Inv (sim : Simulation K M) : Prop where
  safe : sim.physSys.Safe
  cleared : sim.currentCommandList = .empty
  shaped : ∀ data ∈ sim.physQueues.entityCreated, (PhysicsOp.entityCreated data).Shaped

theorem new_inv : (new : Simulation K M).Inv :=
  ⟨PhysicsSystem.new_safe, rfl, fun _ h => by cases h⟩

/-- Under live bodies `GetPosition` does not fault. -/
theorem getPosition_isSome {s : PhysicsSystem} (hl : s.BodiesLive) (e : Eid) :
    (s.getPosition bodyOrigin e).isSome := by
  unfold PhysicsSystem.getPosition
  split
  · rename_i a hf
    obtain ⟨_, ha, hlive⟩ := hl e _ hf
    cases ha
    simpa using hlive
  · rfl

/-- **`Simulate`** on the invariant completes and keeps it, hands every controller the command
list of the events queued, and leaves nothing queued. -/
theorem Inv.simulate {sim : Simulation K M} (hinv : sim.Inv) (interpolated : GameState)
    (moved : List Eid) :
    ∃ sim' out, sim.simulate bodyOrigin interpolated moved = some (sim', out) ∧ sim'.Inv ∧
      sim'.queued = [] ∧ out.commandList = CommandList.ofEvents sim.queued ∧
      out.calls = sim.controllers.map fun c => (c, out.commandList) := by
  obtain ⟨s', updated, hframe, hs'⟩ := hinv.safe.updateFrame hinv.shaped interpolated moved
  obtain ⟨positions, hpos⟩ := exists_foldlM_eq_some
    (f := fun (positions : StdMap Position) e =>
      (s'.getPosition bodyOrigin e).map fun p => positions.set e p)
    (fun _ e => by simpa using getPosition_isSome bodyOrigin hs'.live e) updated interpolated.positions
  refine ⟨{ sim with physSys := s', physQueues := ⟨[], [], []⟩, currentCommandList := .empty, queued := [] },
    ⟨CommandList.ofEvents sim.queued, sim.controllers.map fun c => (c, CommandList.ofEvents sim.queued),
      ⟨positions⟩, sim.physQueues.mouseBtn.filterMap sim.physSys.onMouseBtn⟩, ?_,
    ⟨hs', rfl, fun _ h => by cases h⟩, rfl, rfl, rfl⟩
  simp [Simulation.simulate, hframe, hpos, hinv.cleared, CommandList.ofEvents]

/-- One call or event on the invariant completes and keeps it, and the events queued, with the
one it emits, are the command list it hands out followed by the events still queued. -/
theorem Inv.step {sim : Simulation K M} (hinv : sim.Inv) {op : SimOp K M} (hop : op.Shaped) :
    ∃ sim' o, sim.step bodyOrigin op = some (sim', o) ∧ sim'.Inv ∧
      CommandList.ofEvents (sim.queued ++ op.input?.toList) =
        (o.toList.map (·.commandList)).foldr (· ++ ·) .empty ++ CommandList.ofEvents sim'.queued := by
  cases op with
  | input e =>
    refine ⟨_, none, rfl, ⟨hinv.safe, hinv.cleared, ?_⟩, by simp [SimOp.input?]⟩
    cases e <;> exact hinv.shaped
  | entityCreated data =>
    refine ⟨_, none, rfl, ⟨hinv.safe, hinv.cleared, fun d hd => ?_⟩, by simp [SimOp.input?]⟩
    rcases List.mem_append.mp hd with hd | hd
    · exact hinv.shaped d hd
    · rw [List.mem_singleton.mp hd]; exact hop
  | entityDestroyed _ | addController _ =>
    exact ⟨_, none, rfl, ⟨hinv.safe, hinv.cleared, hinv.shaped⟩, by simp [SimOp.input?]⟩
  | simulate interpolated moved =>
    obtain ⟨sim', out, hsim, hinv', hq, hcl, -⟩ := hinv.simulate bodyOrigin interpolated moved
    refine ⟨sim', some out, by simp [Simulation.step, hsim], hinv', ?_⟩
    simp [SimOp.input?, hq, hcl, CommandList.ofEvents]

/-- A run on the invariant completes and keeps it, and the events queued, with those it emits,
are the command lists it hands out followed by the events still queued. -/
theorem Inv.run {sim : Simulation K M} (hinv : sim.Inv) (ops : List (SimOp K M))
    (hops : ∀ op ∈ ops, op.Shaped) :
    ∃ sim' outs, sim.run bodyOrigin ops = some (sim', outs) ∧
      CommandList.ofEvents (sim.queued ++ ops.filterMap SimOp.input?) =
        (outs.map (·.commandList)).foldr (· ++ ·) .empty ++ CommandList.ofEvents sim'.queued := by
  induction ops generalizing sim with
  | nil => exact ⟨sim, [], rfl, by simp⟩
  | cons op ops ih =>
    obtain ⟨sim₁, o, hstep, hinv₁, hacc₁⟩ := hinv.step bodyOrigin (hops op (List.mem_cons_self _ _))
    obtain ⟨sim', outs, hrun, hacc⟩ := ih hinv₁ fun op h => hops op (List.mem_cons_of_mem _ h)
    refine ⟨sim', o.toList ++ outs, by simp [Simulation.run, hstep, hrun], ?_⟩
    have hsplit : sim.queued ++ (op :: ops).filterMap SimOp.input? =
          (sim.queued ++ op.input?.toList) ++ ops.filterMap SimOp.input? := by
        cases op <;> simp [SimOp.input?]
    rw [hsplit, CommandList.ofEvents_append, hacc₁, CommandList.append_assoc,
      ← CommandList.ofEvents_append, hacc, ← CommandList.append_assoc, List.map_append,
      List.foldr_append]
    cases o <;> simp [CommandList.append_assoc]

/-- One `Simulate` keeps the controllers and calls every one of them, in order, with the command
list it hands out. -/
theorem simulate_calls {sim sim' : Simulation K M} {out : SimulateOut K M} {interpolated : GameState}
    {moved : List Eid} (h : sim.simulate bodyOrigin interpolated moved = some (sim', out)) :
    sim'.controllers = sim.controllers ∧ out.calls = sim.controllers.map fun c => (c, out.commandList) := by
  unfold Simulation.simulate at h
  obtain ⟨⟨physSys, updated, clicks⟩, -, h⟩ := Option.bind_eq_some.mp h
  obtain ⟨positions, -, h⟩ := Option.bind_eq_some.mp h
  cases h
  exact ⟨rfl, rfl⟩

/-- One call adds its controller, if it is an `AddController`, and a `Simulate` calls every
controller added so far. -/
theorem step_calls {sim sim' : Simulation K M} {op : SimOp K M} {o : Option (SimulateOut K M)}
    (h : sim.step bodyOrigin op = some (sim', o)) :
    sim'.controllers = sim.controllers ++ op.addedController?.toList ∧
      List.Forall₂ (fun out cs => out.calls = cs.map fun c => (c, out.commandList)) o.toList
        (if op.isSimulate then [sim.controllers] else []) := by
  cases op with
  | input | entityCreated | entityDestroyed | addController =>
    cases h; exact ⟨by simp [SimOp.addedController?], by simp [SimOp.isSimulate]⟩
  | simulate interpolated moved =>
    obtain ⟨⟨sim'', out⟩, hsim, he⟩ := Option.map_eq_some'.mp h
    cases he
    obtain ⟨hc, hcalls⟩ := simulate_calls bodyOrigin hsim
    exact ⟨by simpa [SimOp.addedController?] using hc, by simpa [SimOp.isSimulate] using hcalls⟩

/-- **Each `Simulate` of a run calls every controller added before it**, in the order added, each
with the command list that `Simulate` hands out. -/
theorem run_calls (ops : List (SimOp K M)) {sim sim' : Simulation K M} {outs : List (SimulateOut K M)}
    (h : sim.run bodyOrigin ops = some (sim', outs)) :
    List.Forall₂ (fun out cs => out.calls = cs.map fun c => (c, out.commandList)) outs
      (controllersAtSimulates sim.controllers ops) := by
  induction ops generalizing sim outs with
  | nil => cases h; exact .nil
  | cons op ops ih =>
    obtain ⟨⟨sim₁, o⟩, hstep, hrest⟩ := Option.bind_eq_some.mp h
    obtain ⟨⟨sim₂, outs₂⟩, hrun, he⟩ := Option.map_eq_some'.mp hrest
    cases he
    obtain ⟨hc, hcalls⟩ := step_calls bodyOrigin hstep
    rw [controllersAtSimulates, ← hc]
    exact List.rel_append hcalls (ih hrun)

/-- **No input event is lost or handed out twice**: from the constructed simulation, every run
whose `EntityCreated` events bring only collision bodies with shapes completes, without a fault
of the physics system or of `GetPosition`; the command lists its `Simulate` calls hand out,
followed by the events still queued, are kind by kind and in order exactly the input events
the run emitted; and each `Simulate` calls the `Update` of every controller added before it, in
the order added, with its step's list. -/
theorem run_delivers (ops : List (SimOp K M)) (hops : ∀ op ∈ ops, op.Shaped) :
    ∃ sim outs, (new : Simulation K M).run bodyOrigin ops = some (sim, outs) ∧
      (outs.map (·.commandList)).foldr (· ++ ·) .empty ++ CommandList.ofEvents sim.queued =
        CommandList.ofEvents (ops.filterMap SimOp.input?) ∧
      List.Forall₂ (fun out cs => out.calls = cs.map fun c => (c, out.commandList)) outs
        (controllersAtSimulates [] ops) := by
  obtain ⟨sim, outs, hrun, hacc⟩ := new_inv.run bodyOrigin ops hops
  exact ⟨sim, outs, hrun, by simpa [new] using hacc.symm, run_calls bodyOrigin ops hrun⟩

/-- A controller, a key press, a capsule entity and a step, then another key press: the step
calls the controller with the first press, and the second is still queued. -/
theorem run_delivers_key_presses :
    (∀ op ∈ ([.addController 7, .input (.keyboard 1), .entityCreated ⟨⟨1, [.collisionBody
        ⟨1, some (.capsule (1/2) (8/5)), 10, false, false, false, false⟩]⟩, 1⟩,
        .simulate ⟨[(1, ⟨⟨0, 0, 0⟩⟩)]⟩ [1], .input (.keyboard 2)] : List (SimOp Nat Nat)), op.Shaped) ∧
    ∃ sim outs, (new : Simulation Nat Nat).run (fun _ => ⟨0, 0, 0⟩) [.addController 7,
        .input (.keyboard 1), .entityCreated ⟨⟨1, [.collisionBody ⟨1, some (.capsule (1/2) (8/5)), 10,
        false, false, false, false⟩]⟩, 1⟩, .simulate ⟨[(1, ⟨⟨0, 0, 0⟩⟩)]⟩ [1], .input (.keyboard 2)] =
        some (sim, outs) ∧
      (outs.map (·.commandList)).foldr (· ++ ·) .empty ++ CommandList.ofEvents sim.queued =
        CommandList.ofEvents [.keyboard 1, .keyboard 2] ∧
      List.Forall₂ (fun out cs => out.calls = cs.map fun c => (c, out.commandList)) outs [[7]] :=
  ⟨by simp [SimOp.Shaped, PhysicsOp.Shaped], run_delivers _ _ (by simp [SimOp.Shaped, PhysicsOp.Shaped])⟩

end Simulation

/-! ## The positions `Simulate` writes -/

/-- The positions loop of `Simulate`: each entity of `updated` gets the position `f` reads for
it, so a position is the initial one, or that of an entity of `updated`. -/
theorem foldlM_set_find {f : Eid → Option Position} :
    ∀ (updated : List Eid) {init res : StdMap Position},
      updated.foldlM (fun positions e => (f e).map fun p => positions.set e p) init = some res →
      ∀ k, res.find k = init.find k ∨ k ∈ updated ∧ ∃ p, f k = some p ∧ res.find k = some p
  | [], _, _, h, k => by cases h; exact .inl rfl
  | e :: updated, init, res, h, k => by
    obtain ⟨init', h', hrest⟩ := Option.bind_eq_some.mp (by simpa [List.foldlM_cons] using h)
    obtain ⟨p, hp, rfl⟩ := Option.map_eq_some'.mp h'
    rcases foldlM_set_find updated hrest k with hk | ⟨hk, p', hp', hres⟩
    · rw [hk, StdMap.find_set]
      split_ifs with hke
      · exact .inr ⟨hke ▸ List.mem_cons_self _ _, p, hke ▸ hp, rfl⟩
      · exact .inl rfl
    · exact .inr ⟨List.mem_cons_of_mem _ hk, p', hp', hres⟩

namespace Simulation

variable {K M : Type} (bodyOrigin : Nat → Vec3)

/-- **`Simulate` moves only physics entities, each to its body's origin**: on the invariant, every
position of the client state that `Simulate` returns is the interpolated state's, or that of an
entity with a collision body after the physics update, set to the origin of its live body. -/
theorem Inv.simulate_positions {sim sim' : Simulation K M} {out : SimulateOut K M} (hinv : sim.Inv)
    {interpolated : GameState} {moved : List Eid}
    (h : sim.simulate bodyOrigin interpolated moved = some (sim', out)) (k : Eid) :
    out.clientState.positions.find k = interpolated.positions.find k ∨
      ∃ cb a, sim'.physSys.collisionBodies.find k = some cb ∧ sim'.physSys.bodies.find k = some (.addr a) ∧
        (sim'.physSys.heap.find a).isSome ∧ out.clientState.positions.find k = some ⟨bodyOrigin a⟩ := by
  obtain ⟨s', updated, hframe, hs'⟩ := hinv.safe.updateFrame hinv.shaped interpolated moved
  simp only [Simulation.simulate, hframe, Option.bind_eq_bind, Option.some_bind] at h
  obtain ⟨positions, hpos, h⟩ := Option.bind_eq_some.mp h
  cases h
  rcases foldlM_set_find updated hpos k with hk | ⟨hk, p, hp, hres⟩
  · exact .inl hk
  obtain ⟨cb, hcb⟩ := Option.isSome_iff_exists.mp (PhysicsSystem.updateFrame_reported hframe hk)
  obtain ⟨ptr, hptr⟩ := Option.isSome_iff_exists.mp (hs'.covered k cb (StdMap.mem_of_find_eq_some hcb))
  obtain ⟨a, rfl, ha⟩ := hs'.live k ptr hptr
  obtain ⟨b, hb⟩ := Option.isSome_iff_exists.mp ha
  have hget : s'.getPosition bodyOrigin k = some ⟨bodyOrigin a⟩ := by
    simp [PhysicsSystem.getPosition, hptr, hb]
  exact .inr ⟨cb, a, hcb, hptr, ha, hres.trans (Option.some.inj (hp.symm.trans hget) ▸ rfl)⟩

/-- What every completed step keeps from calls of a kind, every completed run of such calls
keeps. -/
theorem run_invariant {P : Simulation K M → Prop} {Q : SimOp K M → Prop}
    (hstep : ∀ {sim sim' : Simulation K M} {op : SimOp K M} {o : Option (SimulateOut K M)}, P sim → Q op →
      sim.step bodyOrigin op = some (sim', o) → P sim')
    (ops : List (SimOp K M)) :
    ∀ {sim sim' : Simulation K M} {outs : List (SimulateOut K M)}, P sim → (∀ op ∈ ops, Q op) →
      sim.run bodyOrigin ops = some (sim', outs) → P sim' := by
  induction ops with
  | nil => rintro sim sim' outs hp - ⟨⟩; exact hp
  | cons op ops ih =>
    intro sim sim' outs hp hq h
    obtain ⟨⟨sim₁, o⟩, hstep₁, hrest⟩ := Option.bind_eq_some.mp h
    obtain ⟨⟨sim₂, outs₂⟩, hrun, he⟩ := Option.map_eq_some'.mp hrest
    cases he
    exact ih (hstep hp (hq op (List.mem_cons_self _ _)) hstep₁) (fun op h => hq op (List.mem_cons_of_mem _ h)) hrun

/-- A run followed by a `Simulate` ends where the `Simulate` from the run's end does, with its
output last. -/
theorem run_append_simulate {sim sim₁ sim' : Simulation K M} {ops : List (SimOp K M)}
    {outs : List (SimulateOut K M)} {out : SimulateOut K M} {interpolated : GameState} {moved : List Eid}
    (hrun : sim.run bodyOrigin ops = some (sim₁, outs))
    (hsim : sim₁.simulate bodyOrigin interpolated moved = some (sim', out)) :
    sim.run bodyOrigin (ops ++ [.simulate interpolated moved]) = some (sim', outs ++ [out]) := by
  induction ops generalizing sim outs with
  | nil => cases hrun; simp [Simulation.run, Simulation.step, hsim]
  | cons op ops ih =>
    obtain ⟨⟨sim₂, o⟩, hstep, hrest⟩ := Option.bind_eq_some.mp hrun
    obtain ⟨⟨sim₃, outs₃⟩, hrun', he⟩ := Option.map_eq_some'.mp hrest
    cases he
    simp [Simulation.run, hstep, ih hrun']

/-- A completed step on a shaped call keeps the invariant. -/
theorem Inv.of_step {sim sim' : Simulation K M} {op : SimOp K M} {o : Option (SimulateOut K M)}
    (hinv : sim.Inv) (hop : op.Shaped) (h : sim.step bodyOrigin op = some (sim', o)) : sim'.Inv := by
  obtain ⟨_, _, h', hinv', -⟩ := hinv.step bodyOrigin hop
  obtain ⟨rfl, -⟩ := Prod.mk.inj (Option.some.inj (h.symm.trans h'))
  exact hinv'

/-- A completed run of shaped calls keeps the invariant. -/
theorem Inv.of_run {sim sim' : Simulation K M} {ops : List (SimOp K M)} {outs : List (SimulateOut K M)}
    (hinv : sim.Inv) (hops : ∀ op ∈ ops, op.Shaped) (h : sim.run bodyOrigin ops = some (sim', outs)) :
    sim'.Inv :=
  run_invariant bodyOrigin (fun hinv hop h => hinv.of_step bodyOrigin hop h) ops hinv hops h

/-- **`Simulate` moves only physics entities, each to its body's origin**: from the constructed
simulation, on every run whose creations bring collision bodies with shapes, a further
`Simulate` completes, and each position of the client state it returns is the interpolated
state's, or that of an entity that has a collision body after the physics update, set to the
origin of its live rigid body, never to the zero vector `GetPosition` gives an entity with no
body. -/
theorem run_simulate_positions (ops : List (SimOp K M)) (hops : ∀ op ∈ ops, op.Shaped)
    (interpolated : GameState) (moved : List Eid) :
    ∃ sim outs out, (new : Simulation K M).run bodyOrigin (ops ++ [.simulate interpolated moved]) =
        some (sim, outs ++ [out]) ∧
      ∀ k, out.clientState.positions.find k = interpolated.positions.find k ∨
        ∃ cb a, sim.physSys.collisionBodies.find k = some cb ∧ sim.physSys.bodies.find k = some (.addr a) ∧
          (sim.physSys.heap.find a).isSome ∧ out.clientState.positions.find k = some ⟨bodyOrigin a⟩ := by
  obtain ⟨sim₁, outs, hrun, -⟩ := Inv.run bodyOrigin new_inv ops hops
  have hinv₁ := Inv.of_run bodyOrigin new_inv hops hrun
  obtain ⟨sim, out, hsim, -⟩ := hinv₁.simulate bodyOrigin interpolated moved
  exact ⟨sim, outs, out, run_append_simulate bodyOrigin hrun hsim, hinv₁.simulate_positions bodyOrigin hsim⟩

/-- A capsule entity created and then moved by the physics step: its position is read back from
its body's origin `(0, 2, 0)`, not left at the interpolated `(0, 0, 0)`. -/
theorem run_simulate_positions_capsule :
    let ops : List (SimOp Nat Nat) := [.entityCreated ⟨⟨1, [.collisionBody
      ⟨1, some (.capsule (1/2) (8/5)), 10, true, true, false, false⟩]⟩, 1⟩]
    (∀ op ∈ ops, op.Shaped) ∧
    ∃ sim outs out, (new : Simulation Nat Nat).run (fun _ => ⟨0, 2, 0⟩)
        (ops ++ [.simulate ⟨[(1, ⟨⟨0, 0, 0⟩⟩)]⟩ [1]]) = some (sim, outs ++ [out]) ∧
      out.clientState.positions.find 1 = some ⟨⟨0, 2, 0⟩⟩ ∧
      ∀ k, out.clientState.positions.find k = (⟨[(1, ⟨⟨0, 0, 0⟩⟩)]⟩ : GameState).positions.find k ∨
        ∃ cb a, sim.physSys.collisionBodies.find k = some cb ∧ sim.physSys.bodies.find k = some (.addr a) ∧
          (sim.physSys.heap.find a).isSome ∧ out.clientState.positions.find k = some ⟨⟨0, 2, 0⟩⟩ := by
  intro ops
  have hops : ∀ op ∈ ops, op.Shaped := by simp [ops, SimOp.Shaped, PhysicsOp.Shaped]
  obtain ⟨sim, outs, out, hrun, hk⟩ := run_simulate_positions (fun _ => ⟨0, 2, 0⟩) ops hops
    ⟨[(1, ⟨⟨0, 0, 0⟩⟩)]⟩ [1]
  have hread : ((new : Simulation Nat Nat).run (fun _ => ⟨0, 2, 0⟩)
      (ops ++ [.simulate ⟨[(1, ⟨⟨0, 0, 0⟩⟩)]⟩ [1]])).map
        (fun r => r.2.getLast?.map fun o => o.clientState.positions.find 1) =
      some (some (some ⟨⟨0, 2, 0⟩⟩)) := by
    with_unfolding_all decide
  rw [hrun] at hread
  exact ⟨hops, sim, outs, out, hrun, by simpa using hread, hk⟩

end Simulation

/-! ## The dynamics world of a run -/

/-- The calls whose `EntityCreated` events bring collision bodies not marked `in_world`, as
`CollisionBody()` leaves them. -/
def SimOp.Unmarked {K M : Type} : SimOp K M → Prop
  | .entityCreated data => (PhysicsOp.entityCreated data).Unmarked
  | _ => True

namespace Simulation

variable {K M : Type} (bodyOrigin : Nat → Vec3)

/-- The invariant of the runs on the dynamics world: the physics system's world is sound and
synced, and the queued creations bring collision bodies not marked `in_world`. -/
structure WorldInv (sim : Simulation K M) : Prop where
  world : sim.physSys.WorldSafe
  synced : sim.physSys.Synced
  unmarked : ∀ data ∈ sim.physQueues.entityCreated, (PhysicsOp.entityCreated data).Unmarked

theorem new_worldInv : (new : Simulation K M).WorldInv :=
  ⟨PhysicsSystem.new_worldSafe, PhysicsSystem.new_synced, fun _ h => by cases h⟩

/-- `Simulate` keeps the world's invariant, and after it every entity with a collision body and a
position in the interpolated state has a live body in the dynamics world. -/
theorem WorldInv.simulate {sim sim' : Simulation K M} {out : SimulateOut K M} (hinv : sim.Inv)
    (hw : sim.WorldInv) {interpolated : GameState} {moved : List Eid}
    (h : sim.simulate bodyOrigin interpolated moved = some (sim', out)) :
    sim'.WorldInv ∧ sim'.physSys.InWorld interpolated := by
  obtain ⟨s', updated, hframe, -, hw', hsync', hin⟩ := PhysicsSystem.WorldSafe.updateFrame hinv.safe
    hw.world hw.synced (fun d hd => ⟨hinv.shaped d hd, hw.unmarked d hd⟩) interpolated moved
  simp only [Simulation.simulate, hframe, Option.bind_eq_bind, Option.some_bind] at h
  obtain ⟨positions, -, h⟩ := Option.bind_eq_some.mp h
  cases h
  exact ⟨⟨hw', hsync', fun _ h => by cases h⟩, hin⟩

/-- One call or event keeps the world's invariant when its creation is unmarked. -/
theorem WorldInv.step {sim sim' : Simulation K M} {o : Option (SimulateOut K M)} (hinv : sim.Inv)
    (hw : sim.WorldInv) {op : SimOp K M} (hop : op.Unmarked) (h : sim.step bodyOrigin op = some (sim', o)) :
    sim'.WorldInv := by
  cases op with
  | input e =>
    cases h
    cases e <;> exact ⟨hw.world, hw.synced, hw.unmarked⟩
  | entityCreated data =>
    cases h
    refine ⟨hw.world, hw.synced, fun d hd => ?_⟩
    rcases List.mem_append.mp hd with hd | hd
    · exact hw.unmarked d hd
    · rw [List.mem_singleton.mp hd]; exact hop
  | entityDestroyed _ | addController _ =>
    cases h
    exact ⟨hw.world, hw.synced, hw.unmarked⟩
  | simulate interpolated moved =>
    obtain ⟨⟨sim'', out⟩, hsim, he⟩ := Option.map_eq_some'.mp h
    cases he
    exact (hw.simulate bodyOrigin hinv hsim).1

/-- A completed run of shaped, unmarked calls keeps both invariants. -/
theorem WorldInv.of_run {sim sim' : Simulation K M} {ops : List (SimOp K M)} {outs : List (SimulateOut K M)}
    (hinv : sim.Inv) (hw : sim.WorldInv) (hops : ∀ op ∈ ops, op.Shaped ∧ op.Unmarked)
    (h : sim.run bodyOrigin ops = some (sim', outs)) : sim'.Inv ∧ sim'.WorldInv :=
  run_invariant bodyOrigin (P := fun sim => sim.Inv ∧ sim.WorldInv)
    (fun hi hop h => ⟨hi.1.of_step bodyOrigin hop.1 h, hi.2.step bodyOrigin hi.1 hop.2 h⟩) ops ⟨hinv, hw⟩ hops h

/-- **Bullet steps every positioned entity**: from the constructed simulation, on every run whose
`EntityCreated` events bring collision bodies with shapes, not marked `in_world`, each
`Simulate` completes, and after it every entity with a collision body and a position in the
interpolated state has a live rigid body in the physics system's dynamics world. -/
theorem run_simulate_in_world (ops : List (SimOp K M)) (hops : ∀ op ∈ ops, op.Shaped ∧ op.Unmarked)
    (interpolated : GameState) (moved : List Eid) :
    ∃ sim outs, (new : Simulation K M).run bodyOrigin (ops ++ [.simulate interpolated moved]) =
        some (sim, outs) ∧ sim.physSys.InWorld interpolated := by
  obtain ⟨sim₁, outs, hrun, -⟩ := Inv.run bodyOrigin new_inv ops fun op h => (hops op h).1
  obtain ⟨hinv₁, hw₁⟩ := WorldInv.of_run bodyOrigin new_inv new_worldInv hops hrun
  obtain ⟨sim, out, hsim, -⟩ := hinv₁.simulate bodyOrigin interpolated moved
  exact ⟨sim, outs ++ [out], run_append_simulate bodyOrigin hrun hsim, (hw₁.simulate bodyOrigin hinv₁ hsim).2⟩

/-- The user's capsule, simulated and then re-created, is in the world after the next step. -/
theorem run_simulate_in_world_respawn :
    (∀ op ∈ ([.entityCreated ⟨⟨1, [.collisionBody ⟨1, some (.capsule (1/2) (8/5)), 10, true, true,
          false, false⟩]⟩, 1⟩, .simulate ⟨[(1, ⟨⟨0, 0, 0⟩⟩)]⟩ [1],
        .entityCreated ⟨⟨1, [.collisionBody ⟨1, some (.capsule (1/2) (8/5)), 10, true, true, false,
          false⟩]⟩, 1⟩] : List (SimOp Nat Nat)), op.Shaped ∧ op.Unmarked) ∧
    ∃ sim outs, (new : Simulation Nat Nat).run (fun _ => ⟨0, 0, 0⟩)
        ([.entityCreated ⟨⟨1, [.collisionBody ⟨1, some (.capsule (1/2) (8/5)), 10, true, true, false,
          false⟩]⟩, 1⟩, .simulate ⟨[(1, ⟨⟨0, 0, 0⟩⟩)]⟩ [1],
        .entityCreated ⟨⟨1, [.collisionBody ⟨1, some (.capsule (1/2) (8/5)), 10, true, true, false,
          false⟩]⟩, 1⟩] ++ [.simulate ⟨[(1, ⟨⟨0, 0, 0⟩⟩)]⟩ []]) = some (sim, outs) ∧
      sim.physSys.InWorld ⟨[(1, ⟨⟨0, 0, 0⟩⟩)]⟩ := by
  exact ⟨by simp [SimOp.Shaped, SimOp.Unmarked, PhysicsOp.Shaped, PhysicsOp.Unmarked],
    run_simulate_in_world _ _ (by simp [SimOp.Shaped, SimOp.Unmarked, PhysicsOp.Shaped, PhysicsOp.Unmarked]) _ _⟩

end Simulation

end TecEngine
