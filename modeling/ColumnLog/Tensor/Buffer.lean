import ColumnLog.Loggable
import ColumnLog.Tensor.ElementKind

/-!
# Buffers of tensors

The elements of a tensor in one row, all of one kind.  The elements may be borrowed from the caller;
a null buffer is accepted here and rejected when it is logged.

* `TensorBuffer.decode` reads a buffer from little-endian bytes.
* `TensorBuffer.bytes` is the size of the elements, as far as it fits a machine word.
-/

set_option autoImplicit false

namespace ColumnLog

/-- The elements of a tensor. -/
structure TensorBuffer where
  kind : ElementKind
  values : Collection kind.Element

namespace TensorBuffer

instance : Inhabited TensorBuffer := ⟨⟨default, .empty⟩⟩

/-- The number of elements, for an encoded image of bytes. -/
def length (b : TensorBuffer) : Nat := b.values.length

/-- Whether there are no elements. -/
def isEmpty (b : TensorBuffer) : Bool := b.length == 0

/-- Whether the buffer is a null buffer. -/
def isNull (b : TensorBuffer) : Bool := b.values.isNull

/-- The size of the elements in bytes. -/
def bytes (b : TensorBuffer) : Nat := Size.mulSat b.length b.kind.width

/-- Buffers are equal if they have one kind and equal elements. -/
def eqv (a b : TensorBuffer) : Bool :=
  if h : a.kind = b.kind then
    a.values.eqv a.kind.primitive.eqv (h ▸ b.values)
  else false

instance : BEq TensorBuffer := ⟨eqv⟩

/-- The buffer of the elements that the bytes consist of. -/
def decode (kind : ElementKind) (bytes : List UInt8) : Except LogError TensorBuffer := do
  return ⟨kind, .owned (← kind.decode bytes)⟩

/-- The buffer detached from the caller's memory. -/
def intoOwned (b : TensorBuffer) : Except LogError TensorBuffer := do
  return ⟨b.kind, ← b.values.intoOwned⟩

/-- A copy. -/
def clone (b : TensorBuffer) : TensorBuffer := ⟨b.kind, b.values.clone⟩

/-- Union of lists, one for each kind. -/
def type : DataType :=
  .union (ElementKind.all.map fun kind =>
    .required kind.name (.list (.item (.leaf kind.primitive))))

/-- The kind, and the elements in a list. -/
def datum (b : TensorBuffer) : Datum :=
  .variant b.kind.tag (.scalars b.kind.primitive b.values.toList)

/-- What is written of a buffer: nothing, if it is a null buffer. -/
def checkedDatum (b : TensorBuffer) : Except LogError Datum :=
  if b.isNull then
    .error (.unexpectedNull
      (b.kind.name ++ " tensor buffer of " ++ toString b.length ++
        " elements has a null data pointer"))
  else .ok b.datum

instance : Loggable TensorBuffer .datatype where
  schema := { name := .ofShort "TensorBuffer", type, slotBytes := 40 }
  entry b := { datum := b.checkedDatum, heapBytes? := b.bytes }

end TensorBuffer
end ColumnLog
