import ColumnLog.Value.Identifier
import ColumnLog.Value.Mesh

/-!
# Components of meshes

Colours, classes and keys of vertices, and the properties of the whole mesh.
-/

set_option autoImplicit false

namespace ColumnLog
namespace Component

/-- The colour of an instance. -/
structure Color where
  value : Rgba32
  deriving DecidableEq, Inhabited

instance : Component Color := .wrapping "Color" Color.value

/-- The class of an instance. -/
structure ClassId where
  value : ColumnLog.ClassId
  deriving DecidableEq, Ord, Inhabited

instance : Component ClassId := .wrapping "ClassId" ClassId.value

/-- The number of an instance within its batch. -/
structure InstanceKey where
  value : UInt64
  deriving DecidableEq, Ord, Inhabited

namespace InstanceKey

/-- The key that stands for all instances. -/
def splat : InstanceKey := ⟨18446744073709551615⟩

/-- Whether the key stands for all instances. -/
def isSplat (key : InstanceKey) : Bool := key == splat

instance : Component InstanceKey where
  schema := { name := .ofShort "InstanceKey", type := .leaf .uint64, slotBytes := 8 }
  entry key := .scalar .uint64 key.value

end InstanceKey

/-- Properties of a whole mesh. -/
structure MeshProperties where
  value : ColumnLog.MeshProperties
  deriving DecidableEq, Inhabited

instance : Component MeshProperties := .wrapping "MeshProperties" MeshProperties.value

/-- The surface of a mesh. -/
structure Material where
  value : ColumnLog.Material
  deriving DecidableEq, Inhabited

instance : Component Material := .wrapping "Material" Material.value

end Component
end ColumnLog
