import TecEngine.User.User

/-!
# The user's message codec

`User::Out(proto::User*)` writes the user's credentials into the message and appends two
components to its entity data, the position's and the orientation's `Out`. `User::In` reads the
credentials back and then goes through the message's components in order, handing each position
component to `Position::In` and each orientation component to `Orientation::In`, and skipping
the others; the last component of each kind is the one that stays.

The component codecs (`components/*.hpp`, outside the sources) are parameters: their message
types, and `Out` and `In` functions. `In` updates the component in place, so it takes the
component's current value.

## Main definitions

* `ProtoUser`, `ComponentState`: the `proto::User` message and its components
* `ComponentCodec`: the `Out` and `In` of positions and orientations
* `User.out`, `User.in`: `User::Out` and `User::In`

## Main results

* `in_out`: a user that reads what another wrote takes its credentials, position and
  orientation, whatever the message held before, and keeps the rest of its state, when each
  component codec reads back what it writes
-/

namespace TecEngine

/-- A component of a `proto::User`'s entity data: the position or the orientation case with its
message, or a case `User::In` skips. -/
inductive ComponentState (PositionMsg OrientationMsg : Type)
  | position (m : PositionMsg)
  | orientation (m : OrientationMsg)
  | other
  deriving DecidableEq, Repr

/-- A `proto::User`: id, username, and the components of its entity data. -/
structure ProtoUser (PositionMsg OrientationMsg : Type) where
  id : String
  username : String
  componentStates : List (ComponentState PositionMsg OrientationMsg)
  deriving DecidableEq, Repr

/-- `Out` and `In` of the `Position` and `Orientation` components. -/
structure ComponentCodec (PositionMsg OrientationMsg : Type) where
  positionOut : Position → PositionMsg
  positionIn : PositionMsg → Position → Position
  orientationOut : Orientation → OrientationMsg
  orientationIn : OrientationMsg → Orientation → Orientation

namespace User

variable {PositionMsg OrientationMsg : Type} (codec : ComponentCodec PositionMsg OrientationMsg)

/-- `User::Out`: set the id and username, append the position and the orientation. -/
def out (u : User) (target : ProtoUser PositionMsg OrientationMsg) :
    ProtoUser PositionMsg OrientationMsg :=
  { target with
    id := u.credentials.userId
    username := u.credentials.username
    componentStates := target.componentStates ++
      [.position (codec.positionOut u.entityData.position),
       .orientation (codec.orientationOut u.entityData.orientation)] }

/-- One pass of `User::In`'s loop over the components. -/
def inComponent (u : User) : ComponentState PositionMsg OrientationMsg → User
  | .position m =>
    { u with entityData := { u.entityData with position := codec.positionIn m u.entityData.position } }
  | .orientation m =>
    { u with entityData :=
        { u.entityData with orientation := codec.orientationIn m u.entityData.orientation } }
  | .other => u

/-- `User::In`: take the credentials, then read the components in order. -/
def «in» (u : User) (source : ProtoUser PositionMsg OrientationMsg) : User :=
  source.componentStates.foldl (inComponent codec)
    { u with credentials := ⟨source.id, source.username⟩ }

/-- Reading components changes only the entity data. -/
theorem foldl_inComponent (l : List (ComponentState PositionMsg OrientationMsg)) (u : User) :
    l.foldl (inComponent codec) u = { u with entityData := (l.foldl (inComponent codec) u).entityData } := by
  induction l generalizing u with
  | nil => rfl
  | cons c l ih =>
    rw [List.foldl_cons, ih]
    cases c <;> rfl

/-- **A user reads back what another wrote**: when each component codec reads back what it
writes, a user that reads the message another user wrote into any message takes that user's
credentials, position and orientation, and keeps the rest of its state. The components the
message held before come first, so the written ones override them. -/
theorem in_out (u v : User) (target : ProtoUser PositionMsg OrientationMsg)
    (hpos : ∀ x y, codec.positionIn (codec.positionOut x) y = x)
    (hori : ∀ x y, codec.orientationIn (codec.orientationOut x) y = x) :
    v.in codec (u.out codec target) =
      { v with credentials := u.credentials, entityData := u.entityData } := by
  rw [«in», out, List.foldl_append, List.foldl_cons, List.foldl_cons, List.foldl_nil,
    foldl_inComponent]
  simp [inComponent, hpos, hori]

/-- Components that carry the values themselves; the target already holds a position and a
component of another kind. -/
theorem in_out_over_old_position :
    let codec : ComponentCodec Position Orientation := ⟨id, fun m _ => m, id, fun m _ => m⟩
    let u : User := ⟨5, none, ⟨⟨⟨1, 2, 3⟩⟩, ⟨⟨0, 0, 1, 0⟩⟩⟩, ⟨"7", "alice"⟩, 1⟩
    let v : User := ⟨0, none, ⟨⟨⟨0, 0, 0⟩⟩, ⟨⟨1, 0, 0, 0⟩⟩⟩, ⟨"", ""⟩, 0⟩
    let target : ProtoUser Position Orientation := ⟨"3", "bob", [.position ⟨⟨9, 9, 9⟩⟩, .other]⟩
    ((∀ x y, codec.positionIn (codec.positionOut x) y = x) ∧
      ∀ x y, codec.orientationIn (codec.orientationOut x) y = x) ∧
    v.in codec (u.out codec target) =
      { v with credentials := u.credentials, entityData := u.entityData } := by
  intro codec u v target
  have hpos : ∀ x y, codec.positionIn (codec.positionOut x) y = x := fun _ _ => rfl
  have hori : ∀ x y, codec.orientationIn (codec.orientationOut x) y = x := fun _ _ => rfl
  exact ⟨⟨hpos, hori⟩, in_out codec u v target hpos hori⟩

end User

end TecEngine
