import ColumnLog.PooledBuilder

/-!
# Cells

A cell is one logged column: the name of the component, the finished column, and what it carries.

* `DataCell.of?` makes a cell from a column, if the column has the declared type.
* `ComponentSchema.cellOf` and `ComponentSchema.cellOfCollection` write entries into a cell.
-/

set_option autoImplicit false

namespace ColumnLog

/-- One logged column. -/
structure DataCell where
  name : Name .component
  column : Column
  kind : CellKind

namespace DataCell

/-- The cell of a column that is declared to have the given type. -/
def of? (name : Name .component) (column : Column) (declared : DataType) (kind : CellKind) :
    Except LogError DataCell :=
  if column.type = declared then .ok ⟨name, column, kind⟩
  else .error (.typeMismatch declared column.type name.text)

/-- The type of the column. -/
def type (cell : DataCell) : DataType := cell.column.type

/-- The number of instances. -/
def length (cell : DataCell) : Nat := cell.column.length

/-- Whether the cell is the mark of an archetype. -/
def isIndicator (cell : DataCell) : Bool := cell.kind == .indicator

end DataCell

namespace ComponentSchema

/-- Writes the entries into a cell. -/
def cellOf (schema : ComponentSchema) (entries : List Entry) (pool : Pool) :
    Outcome Pool DataCell :=
  match schema.write entries pool with
  | .ok column pool => .ofExcept (DataCell.of? schema.name column schema.type schema.cell) pool
  | .error e pool => .error e pool

/-- Writes a collection into a cell.  A null buffer is reported before the pool is asked for
anything. -/
def cellOfCollection (schema : ComponentSchema) (entries : Collection Entry) (pool : Pool) :
    Outcome Pool DataCell :=
  match entries.values? with
  | .ok entries => schema.cellOf entries pool
  | .error e => .error e pool

end ComponentSchema

namespace Component

variable {α : Type} [Component α]

/-- Writes values into a cell. -/
def cellOf (values : List α) (pool : Pool) : Outcome Pool DataCell :=
  (schemaOf α).cellOf (values.map Loggable.entry) pool

/-- Writes a collection of values into a cell. -/
def cellOfCollection (values : Collection α) (pool : Pool) : Outcome Pool DataCell :=
  (schemaOf α).cellOfCollection (values.map Loggable.entry) pool

end Component
end ColumnLog
