import ColumnLog.Value.Matrix

/-!
# Components of cameras

* `PinholeProjection` holds the intrinsic matrix: the focal lengths on the diagonal, the principal
  point in the last column.
* `ViewCoordinates` tells where the axes of a space point, a byte for each.
-/

set_option autoImplicit false

namespace ColumnLog
namespace Component

/-- A projection from the space of the camera to its image. -/
structure PinholeProjection where
  value : Mat3x3
  deriving DecidableEq, BEq, Inhabited

instance : Component PinholeProjection := .wrapping "PinholeProjection" PinholeProjection.value

namespace PinholeProjection

/-- The projection with the given focal lengths and principal point. -/
def ofFocalLength (focal principal : Vec2D) : PinholeProjection :=
  ⟨.ofRows ⟨focal.x, .zero, principal.x⟩ ⟨.zero, focal.y, principal.y⟩ ⟨.zero, .zero, .one⟩⟩

/-- The focal lengths. -/
def focalLength (p : PinholeProjection) : Vec2D := ⟨p.value.first.x, p.value.second.y⟩

/-- The principal point. -/
def principalPoint (p : PinholeProjection) : Vec2D := ⟨p.value.third.x, p.value.third.y⟩

theorem focalLength_ofFocalLength (focal principal : Vec2D) :
    (ofFocalLength focal principal).focalLength = focal := rfl

theorem principalPoint_ofFocalLength (focal principal : Vec2D) :
    (ofFocalLength focal principal).principalPoint = principal := rfl

end PinholeProjection

/-- The size of an image in pixels. -/
structure Resolution where
  value : Vec2D
  deriving DecidableEq, BEq, Inhabited

instance : Component Resolution := .wrapping "Resolution" Resolution.value

/-- The direction that an axis points in. -/
inductive ViewDirection where
  | up
  | down
  | right
  | left
  | forward
  | back
  deriving DecidableEq, Repr, Inhabited

namespace ViewDirection

/-- Every direction, in the order of the codes. -/
def all : List ViewDirection := [up, down, right, left, forward, back]

/-- The byte of a direction. -/
def code : ViewDirection → UInt8
  | up => 1
  | down => 2
  | right => 3
  | left => 4
  | forward => 5
  | back => 6

/-- The name of a direction. -/
def name : ViewDirection → String
  | up => "Up"
  | down => "Down"
  | right => "Right"
  | left => "Left"
  | forward => "Forward"
  | back => "Back"

/-- The letter of a direction. -/
def letter : ViewDirection → Char
  | up => 'U'
  | down => 'D'
  | right => 'R'
  | left => 'L'
  | forward => 'F'
  | back => 'B'

/-- The direction with the given byte. -/
def ofCode? (code : UInt8) : Option ViewDirection := all.find? (·.code == code)

/-- The direction with the given name. -/
def ofName? (name : String) : Option ViewDirection := all.find? (·.name == name)

theorem ofCode?_code (d : ViewDirection) : ofCode? d.code = some d := by cases d <;> rfl

theorem ofName?_name (d : ViewDirection) : ofName? d.name = some d := by cases d <;> rfl

end ViewDirection

/-- The directions of the axes of a space.  Any byte can be stored. -/
structure ViewCoordinates where
  x : UInt8
  y : UInt8
  z : UInt8
  deriving DecidableEq, Inhabited

namespace ViewCoordinates

/-- Axes that point in the given directions. -/
def ofDirections (x y z : ViewDirection) : ViewCoordinates := ⟨x.code, y.code, z.code⟩

/-- Right, down, forward: the usual axes of a camera. -/
def rdf : ViewCoordinates := ofDirections .right .down .forward

/-- Right, up, back. -/
def rub : ViewCoordinates := ofDirections .right .up .back

/-- Right, forward, up. -/
def rfu : ViewCoordinates := ofDirections .right .forward .up

/-- Forward, left, up. -/
def flu : ViewCoordinates := ofDirections .forward .left .up

/-- The bytes of the axes. -/
def toList (v : ViewCoordinates) : List UInt8 := [v.x, v.y, v.z]

/-- The axes with the given bytes. -/
def ofList? : List UInt8 → Option ViewCoordinates
  | [x, y, z] => some ⟨x, y, z⟩
  | _ => none

@[simp]
theorem ofList?_toList (v : ViewCoordinates) : ofList? v.toList = some v := rfl

/-- The directions, where the bytes are those of directions. -/
def axes (v : ViewCoordinates) : List (Option ViewDirection) := v.toList.map ViewDirection.ofCode?

/-- A letter for each axis. -/
def text (v : ViewCoordinates) : String :=
  String.ofList (v.axes.map fun
    | some direction => direction.letter
    | none => '?')

instance : Component ViewCoordinates where
  schema :=
    { name := .ofShort "ViewCoordinates"
      type := .fixedSizeList (.item (.leaf .uint8)) 3
      slotBytes := 3 }
  entry v := .ofDatum (.scalars .uint8 v.toList)

end ViewCoordinates
end Component
end ColumnLog
