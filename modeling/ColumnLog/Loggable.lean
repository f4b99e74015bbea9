import ColumnLog.Builder
import ColumnLog.Collection
import ColumnLog.Name

/-!
# Loggable types

What a type has to tell so that lists of its values can be written to a column.

* `Schema` is the description of the type: its name, the type of its columns, the bytes that a pool
  is charged for a slot.
* `Entry` is what is known of one value: the datum to write, or the error that rejects it before
  anything is written, and the bytes it keeps on the heap.  These are added up with overflow
  checked, so there may be no such number.
* `Loggable` gives both for a type; `Component` marks the types that get a column of their own.
-/

set_option autoImplicit false

namespace ColumnLog

/-- The description of a loggable type. -/
structure Schema (kind : NameKind) where
  name : Name kind
  /-- The declared type of the columns. -/
  type : DataType
  /-- The bytes charged for a slot. -/
  slotBytes : Nat
  /-- The empty builder. -/
  start : Builder := .new type

/-- What is known of one value. -/
structure Entry where
  /-- The datum to write. -/
  datum : Except LogError Datum
  /-- The bytes that the value keeps on the heap, or borrows there.  If they add up to more than a
  word there is no such number: asked for it, the program stops. -/
  heapBytes? : Option Nat := some 0

namespace Entry

/-- The bytes on the heap, as far as they are a number, and else the largest word. -/
def heapBytes (entry : Entry) : Nat := entry.heapBytes?.getD Size.largest

/-- A value that is always written, and keeps nothing on the heap. -/
def ofDatum (d : Datum) : Entry := { datum := .ok d }

/-- A flat value. -/
def scalar (p : Primitive) (value : p.Value) : Entry := ofDatum (.scalar p value)

/-- An entry of floats. -/
def floats (values : List Binary32) : Entry := ofDatum (.scalars .float32 values)

end Entry

/-- Adds an entry to a builder; a rejected value leaves it as it was. -/
def Builder.add (b : Builder) (entry : Entry) : Builder.Appended :=
  match entry.datum with
  | .ok d => b.append d
  | .error e => .error e b

/-- What a cell carries. -/
inductive CellKind where
  /-- Values of a component. -/
  | component
  /-- The mark of an archetype. -/
  | indicator
  deriving DecidableEq, Repr

/-- The content as it is called in diagnostics. -/
def CellKind.debug : CellKind → String
  | component => "Component"
  | indicator => "Indicator"

/-- The description of a flat datatype. -/
def Schema.flat (short : String) (p : Primitive) (slotBytes : Nat) : Schema .datatype :=
  { name := .ofShort short, type := .leaf p, slotBytes }

/-- The description of a datatype of `size` floats. -/
def Schema.floats (short : String) (size : Nat) : Schema .datatype :=
  { name := .ofShort short, type := .floats size, slotBytes := 4 * size }

/-- A type whose values can be logged. -/
class Loggable (α : Type) (kind : outParam NameKind) where
  schema : Schema kind
  entry : α → Entry

/-- The description of a component. -/
structure ComponentSchema extends Schema .component where
  cell : CellKind := .component

/-- A type whose values get a column of their own. -/
class Component (α : Type) extends Loggable α .component where
  cell : CellKind := .component

/-- The description of a component type. -/
def Component.schemaOf (α : Type) [Component α] : ComponentSchema :=
  { Loggable.schema α with cell := Component.cell α }

/-- A component that consists of one value of a loggable type: it is written in the same way, under
its own name. -/
@[reducible]
def Component.wrapping {α β : Type} {kind : NameKind} [Loggable β kind] (short : String)
    (content : α → β) : Component α where
  schema :=
    { name := .ofShort short
      type := (Loggable.schema β).type
      slotBytes := (Loggable.schema β).slotBytes
      start := (Loggable.schema β).start }
  entry a := Loggable.entry (content a)

end ColumnLog
