import ColumnLog.Value.Color

/-!
# Parts of meshes

* `MeshProperties` holds the vertex numbers of the triangles, if the mesh is indexed.
* `Material` describes the surface.
-/

set_option autoImplicit false

namespace ColumnLog

/-- Properties of a whole mesh. -/
structure MeshProperties where
  /-- Three vertex numbers per triangle; without them, three vertices make one. -/
  indices : Option (List UInt32) := none
  deriving DecidableEq, Inhabited

namespace MeshProperties

/-- The properties of a mesh of the given triangles. -/
def ofTriangles (triangles : List (UInt32 × UInt32 × UInt32)) : MeshProperties :=
  ⟨some (triangles.flatMap fun (a, b, c) => [a, b, c])⟩

/-- Record of the indices. -/
def type : DataType := .struct [.optional "indices" (.list (.item (.leaf .uint32)))]

/-- The indices. -/
def datum (m : MeshProperties) : Datum :=
  .record [.ofOption (fun indices : List UInt32 => .scalars .uint32 indices) m.indices]

/-- The bytes of the indices. -/
def heapBytes (m : MeshProperties) : Nat := 4 * (m.indices.getD []).length

instance : Loggable MeshProperties .datatype where
  schema := { name := .ofShort "MeshProperties", type, slotBytes := 24 }
  entry m := { datum := .ok m.datum, heapBytes? := m.heapBytes }

end MeshProperties

/-- The surface of a mesh. -/
structure Material where
  /-- The colour that the vertex colours are multiplied with. -/
  albedoFactor : Option Rgba32 := none
  deriving DecidableEq, Inhabited

namespace Material

/-- The material of a colour. -/
def ofAlbedo (color : Rgba32) : Material := ⟨some color⟩

/-- Record of the colour. -/
def type : DataType := .struct [.optional "albedo_factor" (.leaf .uint32)]

/-- The colour. -/
def datum (m : Material) : Datum :=
  .record [.ofOption (fun c : Rgba32 => .scalar .uint32 c.packed) m.albedoFactor]

instance : Loggable Material .datatype where
  schema := { name := .ofShort "Material", type, slotBytes := 8 }
  entry m := .ofDatum m.datum

end Material
end ColumnLog
