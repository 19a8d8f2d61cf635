import Mathlib.Logic.Function.Basic
import Mathlib.Data.List.Basic

/-!
# The client's message handler registry

`ServerConnection::RegisterMessageHandler(type, handler)` runs
`message_handlers[type].push_back(handler)` on an `std::unordered_map` from message types to
lists of handlers, where `operator[]` inserts an empty list for a type with none. The map is
modelled as a function from message types to lists, the empty list standing for an absent type.
The message types (`MessageType`, of `net-message.hpp`) and the handlers (`messageHandlerFunc`)
are parameters: the registry only stores and compares them. The constructor is not part of the
model, so the results hold from any registry, the one the constructor leaves included.

## Main definitions

* `ServerConnection`, `registerMessageHandler`: the registry and one registration
* `registerAll`: a run of registrations
* `registeredFor`: the handlers a run registers for one type, in order

## Main results

* `registerMessageHandler_messageHandlers`: a registration appends to the list of its own type
  and leaves every other list as it is
* `registerAll_messageHandlers`: after any run, a type's list is the list it had, followed by
  the handlers the run registered for that type, in registration order
-/

namespace TecEngine

namespace Networking

variable {MessageType Handler : Type} [DecidableEq MessageType]

/-- The registry of a `ServerConnection`: `message_handlers[t]` for every message type `t`. -/
structure ServerConnection (MessageType Handler : Type) where
  messageHandlers : MessageType → List Handler

namespace ServerConnection

/-- `RegisterMessageHandler(type, handler)`: `message_handlers[type].push_back(handler)`. -/
def registerMessageHandler (c : ServerConnection MessageType Handler) (type : MessageType)
    (handler : Handler) : ServerConnection MessageType Handler :=
  { c with messageHandlers :=
      Function.update c.messageHandlers type (c.messageHandlers type ++ [handler]) }

/-- The registrations `regs`, in order. -/
def registerAll (c : ServerConnection MessageType Handler) (regs : List (MessageType × Handler)) :
    ServerConnection MessageType Handler :=
  regs.foldl (fun c r => c.registerMessageHandler r.1 r.2) c

@[simp] theorem registerAll_nil (c : ServerConnection MessageType Handler) :
    c.registerAll [] = c := rfl

@[simp] theorem registerAll_append_singleton (c : ServerConnection MessageType Handler)
    (regs : List (MessageType × Handler)) (r : MessageType × Handler) :
    c.registerAll (regs ++ [r]) = (c.registerAll regs).registerMessageHandler r.1 r.2 := by
  simp [registerAll]

end ServerConnection

/-- The handlers the registrations `regs` register for the type `t`, in order. -/
def registeredFor (t : MessageType) (regs : List (MessageType × Handler)) : List Handler :=
  regs.filterMap fun r => if r.1 = t then some r.2 else none

@[simp] theorem registeredFor_nil (t : MessageType) :
    registeredFor t ([] : List (MessageType × Handler)) = [] := rfl

@[simp] theorem registeredFor_append (t : MessageType) (regs regs' : List (MessageType × Handler)) :
    registeredFor t (regs ++ regs') = registeredFor t regs ++ registeredFor t regs' :=
  List.filterMap_append _ _ _

@[simp] theorem registeredFor_singleton (t : MessageType) (r : MessageType × Handler) :
    registeredFor t [r] = if r.1 = t then [r.2] else [] := by
  by_cases h : r.1 = t <;> simp [registeredFor, h]

namespace ServerConnection

/-- **A registration** appends its handler to the list of its own type and leaves every other
list as it is. -/
@[simp] theorem registerMessageHandler_messageHandlers (c : ServerConnection MessageType Handler)
    (type t : MessageType) (handler : Handler) :
    (c.registerMessageHandler type handler).messageHandlers t =
      if t = type then c.messageHandlers t ++ [handler] else c.messageHandlers t := by
  by_cases h : t = type
  · subst h; simp [registerMessageHandler]
  · simp [registerMessageHandler, h]

/-- **The registry after any run of registrations**: the list of a type is the list it had,
followed by the handlers the run registered for that type, in registration order. No
registration replaces, reorders or drops a handler, and registrations of other types leave the
list alone. -/
theorem registerAll_messageHandlers (c : ServerConnection MessageType Handler)
    (regs : List (MessageType × Handler)) (t : MessageType) :
    (c.registerAll regs).messageHandlers t = c.messageHandlers t ++ registeredFor t regs := by
  induction regs using List.reverseRecOn with
  | nil => simp
  | append_singleton regs r ih =>
    by_cases h : r.1 = t
    · simp [ih, h]
    · simp [ih, h, Ne.symm h]

example :
    ((⟨fun _ => []⟩ : ServerConnection Nat Nat).registerAll [(1, 10), (2, 20), (1, 11)]).messageHandlers 1
      = [10, 11] := rfl

end ServerConnection

end Networking

end TecEngine
