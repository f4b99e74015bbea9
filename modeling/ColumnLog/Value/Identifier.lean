import ColumnLog.Loggable

/-!
# Class identifiers

A class identifier looks up a class in an annotation context.
-/

set_option autoImplicit false

namespace ColumnLog

/-- The number of a class. -/
structure ClassId where
  value : UInt16
  deriving DecidableEq, Ord, Inhabited

namespace ClassId

instance : Loggable ClassId .datatype where
  schema := .flat "ClassId" .uint16 2
  entry id := .scalar .uint16 id.value

end ClassId
end ColumnLog
