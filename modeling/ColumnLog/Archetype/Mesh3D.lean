import ColumnLog.Archetype
import ColumnLog.Component.Geometry
import ColumnLog.Component.Mesh

/-!
# Meshes

A triangle mesh.  The slots with one value per vertex are written as they are given, whether or not
their number is that of the vertices.
-/

set_option autoImplicit false

namespace ColumnLog
namespace Archetype

/-- A triangle mesh. -/
structure Mesh3D where
  vertexPositions : Collection Component.Position3D
  meshProperties : Option Component.MeshProperties := none
  vertexNormals : Option (Collection Component.Vector3D) := none
  vertexColors : Option (Collection Component.Color) := none
  meshMaterial : Option Component.Material := none
  classIds : Option (Collection Component.ClassId) := none
  instanceKeys : Option (Collection Component.InstanceKey) := none

namespace Mesh3D

/-- Meshes are equal if they are slot by slot. -/
def eqv (a b : Mesh3D) : Bool :=
  a.vertexPositions == b.vertexPositions && a.meshProperties == b.meshProperties &&
    a.vertexNormals == b.vertexNormals && a.vertexColors == b.vertexColors &&
    a.meshMaterial == b.meshMaterial && a.classIds == b.classIds &&
    a.instanceKeys == b.instanceKeys

instance : BEq Mesh3D := ⟨eqv⟩

/-- The mesh with these properties. -/
def withMeshProperties (m : Mesh3D) (properties : Component.MeshProperties) : Mesh3D :=
  { m with meshProperties := some properties }

/-- The mesh with these normals. -/
def withVertexNormals (m : Mesh3D) (normals : Collection Component.Vector3D) : Mesh3D :=
  { m with vertexNormals := some normals }

/-- The mesh with these colours. -/
def withVertexColors (m : Mesh3D) (colors : Collection Component.Color) : Mesh3D :=
  { m with vertexColors := some colors }

/-- The mesh with this material. -/
def withMeshMaterial (m : Mesh3D) (material : Component.Material) : Mesh3D :=
  { m with meshMaterial := some material }

/-- The mesh with these classes. -/
def withClassIds (m : Mesh3D) (ids : Collection Component.ClassId) : Mesh3D :=
  { m with classIds := some ids }

/-- The mesh with these keys. -/
def withInstanceKeys (m : Mesh3D) (keys : Collection Component.InstanceKey) : Mesh3D :=
  { m with instanceKeys := some keys }

instance : Archetype Mesh3D where
  name := .ofShort "Mesh3D"
  count m := m.vertexPositions.length
  slots m :=
    [some (.batch m.vertexPositions), m.meshProperties.map .one, m.vertexNormals.map .batch,
      m.vertexColors.map .batch, m.meshMaterial.map .one, m.classIds.map .batch,
      m.instanceKeys.map .batch].filterMap id

end Mesh3D
end Archetype
end ColumnLog
