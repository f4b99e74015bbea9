import ColumnLog.Primitive

/-!
# Data

What is written into one slot of a column, whatever the type of the value it comes from.

* `Datum` is built from flat values: items of a list, parts of a record, a chosen variant.
* `Datum.ofOption` writes a missing part as a null.
-/

set_option autoImplicit false

namespace ColumnLog

/-- The content of one slot. -/
inductive Datum where
  /-- Nothing. -/
  | null
  /-- A flat value. -/
  | scalar (p : Primitive) (value : p.Value)
  /-- The items of a list or fixed-size list. -/
  | items (data : List Datum)
  /-- The parts of a struct, in the order of its fields. -/
  | record (parts : List Datum)
  /-- A value of the union variant with the given id. -/
  | variant (id : Int) (content : Datum)

namespace Datum

instance : Inhabited Datum := ⟨null⟩

/-- A part that may be missing. -/
def ofOption {α : Type} (write : α → Datum) : Option α → Datum
  | some a => write a
  | none => null

/-- The items of an entry of flat values. -/
def scalars (p : Primitive) (values : List p.Value) : Datum := items (values.map (scalar p))

end Datum
end ColumnLog
