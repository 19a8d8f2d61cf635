import TecEngine.StdMap
import Mathlib.Algebra.Order.Ring.Unbundled.Rat

/-!
# Components and entity messages

The components the modelled systems read, and the `proto::Entity` messages that carry them in
the `EntityCreated` event. Each component class encodes itself with `Out` and decodes with
`In` (`components/*.hpp`, outside the sources): a case of `Component` carries the component
value its message encodes. The user's round trip (`User.Codec`) keeps `In` and `Out` of
positions and orientations as parameters instead.

Floats (`glm::vec3`, `btVector3`, `btScalar`) are rationals: no modelled function computes
with them, they are compared and copied.

## Main definitions

* `CollisionBody`: the physics system's per-entity component
* `Renderable`, `RenderItem`, `Animation`: the render system's per-entity components
* `Component`, `ProtoEntity`, `EntityCreated`: the entity messages
-/

namespace TecEngine

/-- A `glm::vec3` or `btVector3`. -/
structure Vec3 where
  x : ℚ
  y : ℚ
  z : ℚ
  deriving DecidableEq, Repr

/-- A `glm::quat`. -/
structure Quat where
  w : ℚ
  x : ℚ
  y : ℚ
  z : ℚ
  deriving DecidableEq, Repr

/-- The `Position` component. -/
structure Position where
  value : Vec3
  deriving DecidableEq, Repr

/-- The `Orientation` component. -/
structure Orientation where
  value : Quat
  deriving DecidableEq, Repr

/-- The `Velocity` component. -/
structure Velocity where
  linear : Vec3
  angular : Vec3
  deriving DecidableEq, Repr

/-- `Velocity()`: at rest. -/
def Velocity.rest : Velocity := ⟨⟨0, 0, 0⟩, ⟨0, 0, 0⟩⟩

/-! ## The collision body -/

/-- The `btCollisionShape` a collision body holds: the capsule `SetCapsuleShape` builds, or a
shape `CollisionBody::In` decodes, which the model does not look into. -/
inductive CollisionShape
  | capsule (radius height : ℚ)
  | decoded (name : String)
  deriving DecidableEq, Repr

/-- The `CollisionBody` component, with the fields the physics system reads and writes. -/
structure CollisionBody where
  entityId : Eid
  /-- `shape`, a `std::shared_ptr<btCollisionShape>` that may be null -/
  shape : Option CollisionShape
  mass : ℚ
  disableDeactivation : Bool
  disableRotation : Bool
  inWorld : Bool
  /-- `motion_state.transform_updated` -/
  transformUpdated : Bool
  deriving DecidableEq, Repr

/-! ## Renderables and animations -/

/-- A mesh file, compared by identity as the code compares its `MeshFile*`. -/
structure Mesh where
  name : String
  deriving DecidableEq, Repr

/-- A shader program, by name. -/
structure Shader where
  name : String
  deriving DecidableEq, Repr

/-- A vertex group of a loaded vertex buffer. -/
structure VertexGroup where
  startingOffset : Nat
  indexCount : Nat
  deriving DecidableEq, Repr

/-- A `glm::mat4`, by its entries. -/
structure Mat4 where
  entries : List ℚ
  deriving DecidableEq, Repr

/-- The `Animation` component: its bone matrices, which `UpdateAnimation` computes. -/
structure Animation where
  boneMatrices : List Mat4
  deriving DecidableEq, Repr

/-- A `RenderItem`: the drawable state of a renderable. `animation` is the `Animation*` it
draws with, an address in the render system's animation store. -/
structure RenderItem where
  meshAtSet : Mesh
  vertexGroups : List VertexGroup
  animated : Bool
  animation : Option Nat
  deriving DecidableEq, Repr

/-- The `Renderable` component, with the `RenderItem` it owns. -/
structure Renderable where
  hidden : Bool
  shader : Shader
  mesh : Option Mesh
  renderItem : Option RenderItem
  deriving DecidableEq, Repr

/-! ## Entity messages -/

/-- A `proto::Component`: the case of its `oneof` with what it carries; `other` is any case
no modelled function reads. -/
inductive Component
  | position (p : Position)
  | orientation (o : Orientation)
  | velocity (v : Velocity)
  | collisionBody (c : CollisionBody)
  | renderable (r : Renderable)
  | animation (a : Animation)
  | other
  deriving DecidableEq, Repr

/-- A `proto::Entity`. -/
structure ProtoEntity where
  id : Eid
  components : List Component
  deriving DecidableEq, Repr

/-- The `EntityCreated` event. -/
structure EntityCreated where
  entity : ProtoEntity
  entityId : Eid
  deriving DecidableEq, Repr

end TecEngine
