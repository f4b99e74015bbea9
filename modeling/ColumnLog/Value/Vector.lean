import ColumnLog.Loggable

/-!
# Numbers and vectors

Single floats, and vectors of two, three and four of them.  A vector is logged as one entry of its
coordinates, in order.
-/

set_option autoImplicit false

namespace ColumnLog

instance : Loggable Binary32 .datatype where
  schema := .flat "Float32" .float32 4
  entry x := .scalar .float32 x

/-- A vector in the plane. -/
structure Vec2D where
  x : Binary32
  y : Binary32
  deriving DecidableEq, BEq, Inhabited

/-- A vector in space. -/
structure Vec3D where
  x : Binary32
  y : Binary32
  z : Binary32
  deriving DecidableEq, BEq, Inhabited

/-- A vector of four coordinates. -/
structure Vec4D where
  x : Binary32
  y : Binary32
  z : Binary32
  w : Binary32
  deriving DecidableEq, BEq, Inhabited

namespace Vec2D

/-- The coordinates, in order. -/
def toList (v : Vec2D) : List Binary32 := [v.x, v.y]

/-- The vector with the given coordinates, if they are as many as it has. -/
def ofList? : List Binary32 → Option Vec2D
  | [x, y] => some ⟨x, y⟩
  | _ => none

@[simp]
theorem ofList?_toList (v : Vec2D) : ofList? v.toList = some v := rfl

/-- The vector without extent. -/
def zero : Vec2D := ⟨.zero, .zero⟩

/-- The vector of half the length. -/
def half (v : Vec2D) : Vec2D := ⟨v.x.half, v.y.half⟩

instance : Loggable Vec2D .datatype where
  schema := .floats "Vec2D" 2
  entry v := .floats v.toList

end Vec2D

namespace Vec3D

/-- The coordinates, in order. -/
def toList (v : Vec3D) : List Binary32 := [v.x, v.y, v.z]

/-- The vector with the given coordinates, if they are as many as it has. -/
def ofList? : List Binary32 → Option Vec3D
  | [x, y, z] => some ⟨x, y, z⟩
  | _ => none

@[simp]
theorem ofList?_toList (v : Vec3D) : ofList? v.toList = some v := rfl

/-- The vector without extent. -/
def zero : Vec3D := ⟨.zero, .zero, .zero⟩

/-- The vector of ones. -/
def ones : Vec3D := ⟨.one, .one, .one⟩

instance : Loggable Vec3D .datatype where
  schema := .floats "Vec3D" 3
  entry v := .floats v.toList

end Vec3D

namespace Vec4D

/-- The coordinates, in order. -/
def toList (v : Vec4D) : List Binary32 := [v.x, v.y, v.z, v.w]

/-- The vector with the given coordinates, if they are as many as it has. -/
def ofList? : List Binary32 → Option Vec4D
  | [x, y, z, w] => some ⟨x, y, z, w⟩
  | _ => none

@[simp]
theorem ofList?_toList (v : Vec4D) : ofList? v.toList = some v := rfl

/-- The vector without extent. -/
def zero : Vec4D := ⟨.zero, .zero, .zero, .zero⟩

instance : Loggable Vec4D .datatype where
  schema := .floats "Vec4D" 4
  entry v := .floats v.toList

end Vec4D
end ColumnLog
