import ColumnLog.Archetype
import ColumnLog.Component.Camera

/-!
# Pinhole cameras

A camera by its projection.

* `Pinhole.ofFocalLength` puts the principal point into the middle of the image.
-/

set_option autoImplicit false

namespace ColumnLog
namespace Archetype

/-- A pinhole camera. -/
structure Pinhole where
  imageFromCamera : Component.PinholeProjection
  resolution : Option Component.Resolution := none
  cameraAxes : Option Component.ViewCoordinates := none
  deriving BEq

namespace Pinhole

/-- The camera with the given focal lengths and image size. -/
def ofFocalLength (focal resolution : Vec2D) : Pinhole :=
  { imageFromCamera := .ofFocalLength focal resolution.half, resolution := some ⟨resolution⟩ }

/-- The camera with this image size. -/
def withResolution (p : Pinhole) (resolution : Component.Resolution) : Pinhole :=
  { p with resolution := some resolution }

/-- The camera with these axes. -/
def withCameraAxes (p : Pinhole) (axes : Component.ViewCoordinates) : Pinhole :=
  { p with cameraAxes := some axes }

instance : Archetype Pinhole where
  name := .ofShort "Pinhole"
  count _ := 1
  slots p :=
    [some (.one p.imageFromCamera), p.resolution.map .one, p.cameraAxes.map .one].filterMap id

end Pinhole
end Archetype
end ColumnLog
