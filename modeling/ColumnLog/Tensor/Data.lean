import ColumnLog.BestEffort
import ColumnLog.Tensor.Buffer
import ColumnLog.Tensor.Dimension

/-!
# Tensors

A tensor is a shape and the elements in row-major order.

* `TensorData.elementCount` is the number of elements that the shape asks for, and
  `TensorData.validate` compares it with the elements that are there.
* `TensorData.nameDimensions` names all dimensions or fails, `TensorData.nameDimensionsBestEffort`
  names as many as it can.
-/

set_option autoImplicit false

namespace ColumnLog

/-- A shape and its elements. -/
structure TensorData where
  shape : Collection TensorDimension
  buffer : TensorBuffer
  deriving Inhabited

namespace TensorData

/-- Tensors are equal if their shapes and their buffers are. -/
def eqv (a b : TensorData) : Bool := a.shape == b.shape && a.buffer == b.buffer

instance : BEq TensorData := ⟨eqv⟩

/-- The tensor with dimensions of the given sizes, without names. -/
def ofSizes (sizes : List UInt64) (buffer : TensorBuffer) : TensorData :=
  ⟨.owned (sizes.map .unnamed), buffer⟩

/-! ## Shape and elements -/

/-- The product of the sizes, as long as it fits a machine word at every step. -/
def product? : Nat → List TensorDimension → Option Nat
  | total, [] => some total
  | total, d :: dims =>
    match Size.mul? total d.size.toNat with
    | some total => product? total dims
    | none => none

/-- The number of elements that the shape asks for. -/
def elementCount (t : TensorData) : Except LogError Nat := do
  match product? 1 (← t.shape.values?) with
  | some count => return count
  | none =>
    throw (.sizeMismatch Size.largest t.buffer.length "tensor shape product overflows usize")

/-- Whether the elements are there, and as many as the shape asks for.  An encoded image may have
any number of bytes. -/
def validate (t : TensorData) : Except LogError Unit := do
  let expected ← t.elementCount
  let kind := t.buffer.kind
  if t.buffer.isNull then
    throw (.unexpectedNull (kind.name ++ " tensor buffer has a null data pointer"))
  if !kind.isEncoded && t.buffer.length != expected then
    throw (.sizeMismatch expected t.buffer.length (kind.name ++ " tensor buffer"))

/-! ## Names of dimensions -/

/-- The dimensions with the names given, in order; dimensions without a new name keep theirs. -/
def rename : List TensorDimension → List String → List TensorDimension
  | d :: dims, name :: names => { d with name := some name } :: rename dims names
  | dims, _ => dims

/-- Renames as many dimensions as there are names for. -/
def applyNames (t : TensorData) (names : List String) : Outcome TensorData Unit :=
  match t.shape.mutable? with
  | .ok () (.inline dims spilled) => .ok () { t with shape := .inline (rename dims names) spilled }
  | .ok () shape => .ok () { t with shape := .owned (rename shape.toList names) }
  | .error e shape => .error e { t with shape }

/-- The report that the number of names is not that of the dimensions. -/
def nameMismatch (t : TensorData) (names : List String) : LogError :=
  .sizeMismatch t.shape.length names.length "tensor dimension names"

/-- Names every dimension. -/
def nameDimensions (t : TensorData) (names : List String) : Except LogError TensorData :=
  if names.length = t.shape.length then
    match t.applyNames names with
    | .ok () named => .ok named
    | .error e _ => .error e
  else .error (t.nameMismatch names)

/-- Names as many dimensions as there are names for; names or dimensions left over are one
problem. -/
def nameDimensionsBestEffort (t : TensorData) (names : List String) : BestEffort TensorData :=
  match t.applyNames names with
  | .error e left => .withProblem left e
  | .ok () named =>
    if names.length = t.shape.length then .clean named
    else .withProblem named (t.nameMismatch names)

/-! ## Ownership -/

/-- The tensor detached from the caller's memory. -/
def intoOwned (t : TensorData) : Except LogError TensorData := do
  let shape ← t.shape.intoOwned
  let buffer ← t.buffer.intoOwned
  return ⟨shape, buffer⟩

/-- A copy. -/
def clone (t : TensorData) : TensorData := ⟨t.shape.clone, t.buffer.clone⟩

/-! ## Logging -/

/-- Record of the shape and the buffer. -/
def type : DataType :=
  .struct
    [.required "shape" (.list (.item TensorDimension.type)), .required "buffer" TensorBuffer.type]

/-- The dimensions in a list, and the buffer. -/
def datum (t : TensorData) : Datum :=
  .record [.items (t.shape.toList.map TensorDimension.datum), t.buffer.datum]

/-- What is written of a tensor, if its shape and its elements agree. -/
def checkedDatum (t : TensorData) : Except LogError Datum := do
  t.validate
  return t.datum

/-- The bytes of the dimensions with their names, if they add up to a word. -/
def shapeBytes? (dims : List TensorDimension) : Option Nat :=
  dims.foldlM (fun total d => do
    Size.add? total (← Size.add? TensorDimension.slotBytes d.heapBytes)) 0

/-- The bytes of the shape and of the elements.  Only the bytes of the elements stop at the largest
word.  The sums are plain ones; overflow is checked, as in a debug build, and stops the program. -/
def heapBytes? (t : TensorData) : Option Nat := do
  Size.add? (← shapeBytes? t.shape.toList) t.buffer.bytes

instance : Loggable TensorData .datatype where
  schema := { name := .ofShort "TensorData", type, slotBytes := 96 }
  entry t := { datum := t.checkedDatum, heapBytes? := t.heapBytes? }

end TensorData
end ColumnLog
