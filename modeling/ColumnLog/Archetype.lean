import ColumnLog.DataCell

/-!
# Archetypes

An archetype bundles components.  It is logged as one cell for every filled slot, in the order of
its slots, and an indicator cell behind them.

* `Slot` is what an archetype puts into a slot: a component and the values to write.
* `Composer` collects cells; a slot that fails adds none.  `Composer.Step` lists the ways in which
  slots are pushed one by one, `Composer.step` takes one of them.
* `Archetype` gives name, slots and number of instances of a bundle, `Archetype.cells` logs it: the
  first slot that fails is the answer for the whole.  `Archetype.serialize` drops the name.
* `ArchetypeCells` is the list of cells with its look-ups.
-/

set_option autoImplicit false

namespace ColumnLog

/-- What is written for one slot. -/
structure Slot where
  schema : ComponentSchema
  values : Collection Entry

namespace Slot

variable {α : Type} [Component α]

/-- A slot with a batch of values. -/
def batch (values : Collection α) : Slot := ⟨Component.schemaOf α, values.map Loggable.entry⟩

/-- A slot with one value. -/
def one (value : α) : Slot := batch (.borrowed [value])

/-- The cell of a slot. -/
def cell (slot : Slot) (pool : Pool) : Outcome Pool DataCell :=
  slot.schema.cellOfCollection slot.values pool

end Slot

/-- A bundle of components. -/
class Archetype (α : Type) where
  name : Name .archetype
  /-- The number of instances, which is that of the indicator. -/
  count : α → Nat
  /-- The filled slots, in order. -/
  slots : α → List Slot

/-- The name of the indicator of an archetype. -/
def indicatorName (archetype : Name .archetype) : Name .component :=
  .ofShort (archetype.short ++ "Indicator")

/-- The description of the indicator of an archetype: a component that holds nothing. -/
def indicatorSchema (archetype : Name .archetype) : ComponentSchema :=
  { name := indicatorName archetype, type := .null, slotBytes := 0, cell := .indicator }

/-- The mark of an instance: an entry that holds nothing. -/
def marker : Entry := .ofDatum .null

/-- The indicator cell for a number of instances. -/
def indicatorCell (archetype : Name .archetype) (count : Nat) (pool : Pool) :
    Outcome Pool DataCell :=
  (indicatorSchema archetype).cellOf (List.replicate count marker) pool

/-- The indicator as it is called in diagnostics. -/
def indicatorDebug (archetype : Name .archetype) : String :=
  "IndicatorComponent(" ++ (indicatorName archetype).text ++ ")"

/-- The cells of an archetype. -/
structure ArchetypeCells where
  archetype : Name .archetype
  cells : List DataCell

namespace ArchetypeCells

/-- The number of cells. -/
def length (a : ArchetypeCells) : Nat := a.cells.length

/-- Whether there is no cell. -/
def isEmpty (a : ArchetypeCells) : Bool := a.cells.isEmpty

/-- The cells that are no indicators. -/
def components (a : ArchetypeCells) : List DataCell := a.cells.filter (!·.isIndicator)

/-- The first cell that is an indicator. -/
def indicator? (a : ArchetypeCells) : Option DataCell := a.cells.find? (·.isIndicator)

/-- The first cell with the given name. -/
def get? (a : ArchetypeCells) (name : String) : Option DataCell :=
  a.cells.find? (·.name.text == name)

end ArchetypeCells

/-- The cells composed so far. -/
structure Composer where
  cells : List DataCell := []

namespace Composer

/-- The number of cells. -/
def length (c : Composer) : Nat := c.cells.length

/-- Adds the cell of a slot. -/
def push (c : Composer) (slot : Slot) (pool : Pool) : Outcome Pool Composer :=
  (slot.cell pool).map fun cell => ⟨c.cells ++ [cell]⟩

/-- Adds the cell of a slot, if it is filled. -/
def pushOptional (c : Composer) (slot : Option Slot) (pool : Pool) : Outcome Pool Composer :=
  match slot with
  | some slot => c.push slot pool
  | none => .ok c pool

/-- What is pushed in one step, for whatever component: entries in a list, a single entry, or a
collection; the last two may be absent. -/
inductive Step where
  | push (schema : ComponentSchema) (entries : List Entry)
  | pushOne (schema : ComponentSchema) (entry : Entry)
  | pushOptional (schema : ComponentSchema) (entry : Option Entry)
  | pushCollection (schema : ComponentSchema) (entries : Collection Entry)
  | pushOptionalCollection (schema : ComponentSchema) (entries : Option (Collection Entry))

/-- The slot that a step fills, if there is something to fill it with. -/
def Step.slot? : Step → Option Slot
  | push schema entries => some ⟨schema, .borrowed entries⟩
  | pushOne schema entry => some ⟨schema, .borrowed [entry]⟩
  | pushOptional schema entry => entry.map fun entry => ⟨schema, .borrowed [entry]⟩
  | pushCollection schema entries => some ⟨schema, entries⟩
  | pushOptionalCollection schema entries => entries.map fun entries => ⟨schema, entries⟩

/-- Takes a step.  The cell is added once it is complete, so after a failure composing can go on
with the cells that there were. -/
def step (c : Composer) (s : Step) (pool : Pool) : Outcome (Composer × Pool) Unit :=
  match c.pushOptional s.slot? pool with
  | .ok later pool => .ok () (later, pool)
  | .error e pool => .error e (c, pool)

/-- Adds the cells of slots, up to the first that fails. -/
def pushAll : List Slot → Composer → Pool → Outcome Pool Composer
  | [], c, pool => .ok c pool
  | slot :: slots, c, pool =>
    match c.push slot pool with
    | .ok c pool => pushAll slots c pool
    | .error e pool => .error e pool

/-- Closes the list with the indicator of an archetype. -/
def finish (c : Composer) (archetype : Name .archetype) (count : Nat) (pool : Pool) :
    Outcome Pool ArchetypeCells :=
  (indicatorCell archetype count pool).map fun cell => ⟨archetype, c.cells ++ [cell]⟩

end Composer

/-- Logs an archetype. -/
def Archetype.cells {α : Type} [Archetype α] (a : α) (pool : Pool) : Outcome Pool ArchetypeCells :=
  match Composer.pushAll (slots a) {} pool with
  | .ok composer pool => composer.finish (name α) (count a) pool
  | .error e pool => .error e pool

/-- Logs an archetype into a bare list of cells. -/
def Archetype.serialize {α : Type} [Archetype α] (a : α) (pool : Pool) :
    Outcome Pool (List DataCell) :=
  (cells a pool).map ArchetypeCells.cells

end ColumnLog
