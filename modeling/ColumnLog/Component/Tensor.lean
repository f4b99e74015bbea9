import ColumnLog.Tensor.Data

/-!
# Tensors as components

A tensor as a column of its own.
-/

set_option autoImplicit false

namespace ColumnLog
namespace Component

/-- A tensor. -/
structure TensorData where
  value : ColumnLog.TensorData
  deriving BEq, Inhabited

instance : Component TensorData := .wrapping "TensorData" TensorData.value

end Component
end ColumnLog
