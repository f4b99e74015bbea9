import ColumnLog.Archetype
import ColumnLog.Component.Geometry

/-!
# Transforms as archetypes

One transform is one instance.
-/

set_option autoImplicit false

namespace ColumnLog
namespace Archetype

/-- A transform between a space and its parent. -/
structure Transform3D where
  transform : Component.Transform3D := .identity
  deriving BEq

instance : Archetype Transform3D where
  name := .ofShort "Transform3D"
  count _ := 1
  slots t := [.one t.transform]

end Archetype
end ColumnLog
