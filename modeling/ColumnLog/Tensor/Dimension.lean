import ColumnLog.Loggable

/-!
# Dimensions of tensors

A dimension has a size and may have a name.
-/

set_option autoImplicit false

namespace ColumnLog

/-- One dimension of the shape of a tensor. -/
structure TensorDimension where
  size : UInt64
  name : Option String := none
  deriving DecidableEq, Inhabited

namespace TensorDimension

/-- A dimension without a name. -/
def unnamed (size : UInt64) : TensorDimension := ⟨size, none⟩

/-- A dimension with a name. -/
def named (size : UInt64) (name : String) : TensorDimension := ⟨size, some name⟩

/-- The rows of an image. -/
def height (size : UInt64) : TensorDimension := named size "height"

/-- The columns of an image. -/
def width (size : UInt64) : TensorDimension := named size "width"

/-- The channels of an image. -/
def depth (size : UInt64) : TensorDimension := named size "depth"

/-- Record of the size and the name. -/
def type : DataType :=
  .struct [.required "size" (.leaf .uint64), .optional "name" (.leaf .utf8)]

/-- The size and the name. -/
def datum (d : TensorDimension) : Datum :=
  .record [.scalar .uint64 d.size, .ofOption (.scalar .utf8) d.name]

/-- The bytes of the name. -/
def heapBytes (d : TensorDimension) : Nat := (d.name.getD "").utf8ByteSize

/-- The bytes of a dimension itself. -/
def slotBytes : Nat := 32

instance : Loggable TensorDimension .datatype where
  schema := { name := .ofShort "TensorDimension", type, slotBytes }
  entry d := { datum := .ok d.datum, heapBytes? := d.heapBytes }

end TensorDimension
end ColumnLog
