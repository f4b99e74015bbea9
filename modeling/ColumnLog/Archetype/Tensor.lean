import ColumnLog.Archetype
import ColumnLog.Component.Tensor

/-!
# Tensors as archetypes

One tensor is one instance.
-/

set_option autoImplicit false

namespace ColumnLog
namespace Archetype

/-- A tensor. -/
structure Tensor where
  data : Component.TensorData
  deriving BEq

namespace Tensor

/-- The tensor with the given shape and elements. -/
def ofShape (shape : Collection TensorDimension) (buffer : TensorBuffer) : Tensor :=
  ⟨⟨⟨shape, buffer⟩⟩⟩

/-- The tensor with dimensions of the given sizes, without names. -/
def ofSizes (sizes : List UInt64) (buffer : TensorBuffer) : Tensor := ⟨⟨.ofSizes sizes buffer⟩⟩

/-- The dimensions. -/
def shape (t : Tensor) : Collection TensorDimension := t.data.value.shape

/-- Names every dimension. -/
def nameDimensions (t : Tensor) (names : List String) : Except LogError Tensor := do
  return ⟨⟨← t.data.value.nameDimensions names⟩⟩

/-- Names as many dimensions as there are names for. -/
def nameDimensionsBestEffort (t : Tensor) (names : List String) : BestEffort Tensor :=
  (t.data.value.nameDimensionsBestEffort names).map fun data => ⟨⟨data⟩⟩

instance : Archetype Tensor where
  name := .ofShort "Tensor"
  count _ := 1
  slots t := [.one t.data]

end Tensor
end Archetype
end ColumnLog
