import ColumnLog.Value.Vector

/-!
# Angles and rotations

* `Angle` remembers the unit it was given in; `Angle.radians` and `Angle.degrees` convert only when
  the unit differs.
* `Rotation3D` is a rotation by a quaternion or around an axis.
-/

set_option autoImplicit false

namespace ColumnLog

/-- An angle, in one of two units. -/
inductive Angle where
  | inRadians (value : Binary32)
  | inDegrees (value : Binary32)
  deriving DecidableEq, BEq, Inhabited

namespace Angle

/-- The radians in a degree. -/
def radiansPerDegree : Binary32 := ⟨0x3c8efa35⟩

/-- The degrees in a radian. -/
def degreesPerRadian : Binary32 := ⟨0x42652ee1⟩

/-- The angle in radians. -/
def radians : Angle → Binary32
  | inRadians value => value
  | inDegrees value => value.times radiansPerDegree

/-- The angle in degrees. -/
def degrees : Angle → Binary32
  | inRadians value => value.times degreesPerRadian
  | inDegrees value => value

/-- Union of the units. -/
def type : DataType :=
  .union [.required "Radians" (.leaf .float32), .required "Degrees" (.leaf .float32)]

/-- The unit, and the number in it. -/
def datum : Angle → Datum
  | inRadians value => .variant 1 (.scalar .float32 value)
  | inDegrees value => .variant 2 (.scalar .float32 value)

instance : Loggable Angle .datatype where
  schema := { name := .ofShort "Angle", type, slotBytes := 8 }
  entry a := .ofDatum a.datum

end Angle

/-- A rotation as a unit quaternion; `w` is the scalar part. -/
structure Quaternion where
  x : Binary32
  y : Binary32
  z : Binary32
  w : Binary32
  deriving DecidableEq, BEq

namespace Quaternion

/-- No rotation. -/
def identity : Quaternion := ⟨.zero, .zero, .zero, .one⟩

instance : Inhabited Quaternion := ⟨identity⟩

/-- The quaternion given with the scalar part in front. -/
def ofScalarFirst (w x y z : Binary32) : Quaternion := ⟨x, y, z, w⟩

/-- The parts, the scalar one last. -/
def toList (q : Quaternion) : List Binary32 := [q.x, q.y, q.z, q.w]

/-- The quaternion with the given parts, the scalar one last. -/
def ofList? : List Binary32 → Option Quaternion
  | [x, y, z, w] => some ⟨x, y, z, w⟩
  | _ => none

@[simp]
theorem ofList?_toList (q : Quaternion) : ofList? q.toList = some q := rfl

instance : Loggable Quaternion .datatype where
  schema := .floats "Quaternion" 4
  entry q := .floats q.toList

end Quaternion

/-- A rotation around an axis. -/
structure RotationAxisAngle where
  axis : Vec3D
  angle : Angle
  deriving DecidableEq, BEq, Inhabited

namespace RotationAxisAngle

/-- Record of the axis and the angle. -/
def type : DataType := .struct [.required "axis" (.floats 3), .required "angle" Angle.type]

/-- The axis and the angle. -/
def datum (r : RotationAxisAngle) : Datum :=
  .record [.scalars .float32 r.axis.toList, r.angle.datum]

instance : Loggable RotationAxisAngle .datatype where
  schema := { name := .ofShort "RotationAxisAngle", type, slotBytes := 20 }
  entry r := .ofDatum r.datum

end RotationAxisAngle

/-- A rotation in space. -/
inductive Rotation3D where
  | quaternion (q : Quaternion)
  | axisAngle (r : RotationAxisAngle)
  deriving DecidableEq, BEq

namespace Rotation3D

/-- No rotation. -/
def identity : Rotation3D := quaternion .identity

instance : Inhabited Rotation3D := ⟨identity⟩

/-- Union of the representations. -/
def type : DataType :=
  .union [.required "Quaternion" (.floats 4), .required "AxisAngle" RotationAxisAngle.type]

/-- The representation, and the rotation in it. -/
def datum : Rotation3D → Datum
  | quaternion q => .variant 1 (.scalars .float32 q.toList)
  | axisAngle r => .variant 2 r.datum

instance : Loggable Rotation3D .datatype where
  schema := { name := .ofShort "Rotation3D", type, slotBytes := 20 }
  entry r := .ofDatum r.datum

end Rotation3D
end ColumnLog
