import ColumnLog.Value.Transform

/-!
# Components of geometry

Positions, vectors and transforms as columns of their own.
-/

set_option autoImplicit false

namespace ColumnLog
namespace Component

/-- A position in space. -/
structure Position3D where
  value : Vec3D
  deriving DecidableEq, BEq, Inhabited

instance : Component Position3D := .wrapping "Position3D" Position3D.value

/-- A direction or a displacement in space. -/
structure Vector3D where
  value : Vec3D
  deriving DecidableEq, BEq, Inhabited

instance : Component Vector3D := .wrapping "Vector3D" Vector3D.value

/-- A transform between two spaces. -/
structure Transform3D where
  value : ColumnLog.Transform3D
  deriving DecidableEq, BEq, Inhabited

instance : Component Transform3D := .wrapping "Transform3D" Transform3D.value

/-- The transform that changes nothing. -/
def Transform3D.identity : Transform3D := ⟨.identity⟩

end Component
end ColumnLog
