import ColumnLog.Loggable
import ColumnLog.Pool

/-!
# Builders that draw on a pool

A builder together with the bytes that are held for it.  The pool is charged before anything is
written: once for the slots, which may already be paid for in advance, and once for the payload.

* `Schema.openBuilder` pays for a number of slots in advance.
* `PooledBuilder.heapBytes?` adds up what the entries keep on the heap, before anything is charged.
* `PooledBuilder.fill` charges for the entries and writes them; what was charged and written before
  a failure stays.
* `PooledBuilder.finish` gives the column and returns the bytes, `Schema.finishChecked` also
  compares the column with the declared type.
-/

set_option autoImplicit false

namespace ColumnLog

/-- A builder and the bytes held for it. -/
structure PooledBuilder where
  builder : Builder
  held : Reservation
  /-- The bytes charged for a slot. -/
  slotBytes : Nat
  /-- The slots paid for. -/
  reservedSlots : Nat

namespace PooledBuilder

/-- The number of slots. -/
def length (b : PooledBuilder) : Nat := b.builder.length

/-- Charges the pool for payload. -/
def charge (b : PooledBuilder) (pool : Pool) (bytes : Nat) : Outcome (PooledBuilder × Pool) Unit :=
  match b.held.grow pool bytes with
  | .ok held pool => .ok () ({ b with held }, pool)
  | .error e pool => .error e (b, pool)

/-- Charges the pool for slots beyond those paid for. -/
def chargeSlots (b : PooledBuilder) (pool : Pool) (count : Nat) :
    Outcome (PooledBuilder × Pool) Unit :=
  let wanted := Size.addSat b.length count
  let extra := wanted - max b.reservedSlots b.length
  match b.charge pool (Size.mulSat extra b.slotBytes) with
  | .ok () (b, pool) => .ok () ({ b with reservedSlots := max b.reservedSlots wanted }, pool)
  | .error e left => .error e left

/-- Adds an entry without charging for it. -/
def add (b : PooledBuilder) (entry : Entry) : Outcome PooledBuilder Unit :=
  (b.builder.add entry).mapState fun builder => { b with builder }

/-- Adds entries, up to the first that fails. -/
def addAll : List Entry → PooledBuilder → Outcome PooledBuilder Unit
  | [], b => .ok () b
  | entry :: entries, b =>
    match b.add entry with
    | .ok () b => addAll entries b
    | .error e b => .error e b

/-- The bytes on the heap behind the entries; the total stops at the largest word.  There is none if
one of the entries has none. -/
def heapBytes? (entries : List Entry) : Option Nat :=
  entries.foldlM (fun total entry => entry.heapBytes?.map (Size.addSat total)) 0

/-- The bytes on the heap that a pool is asked for. -/
def heapBytes (entries : List Entry) : Nat := (heapBytes? entries).getD Size.largest

/-- Charges for the entries, then adds them.  Their bytes are added up first: where there is
no total the program stops, and what is given here stands for no outcome. -/
def fill (b : PooledBuilder) (pool : Pool) (entries : List Entry) :
    Outcome (PooledBuilder × Pool) Unit :=
  match b.chargeSlots pool entries.length with
  | .error e left => .error e left
  | .ok () (b, pool) =>
    match b.charge pool (heapBytes entries) with
    | .error e left => .error e left
    | .ok () (b, pool) => (addAll entries b).mapState fun b => (b, pool)

/-- Gives the bytes back. -/
def drop (b : PooledBuilder) (pool : Pool) : Pool := b.held.drop pool

/-- The column; the bytes go back to the pool. -/
def finish (b : PooledBuilder) (pool : Pool) : Outcome Pool Column :=
  .ofExcept b.builder.finish (b.drop pool)

end PooledBuilder

namespace Schema

variable {kind : NameKind}

/-- An empty builder with slots paid for in advance. -/
def openBuilder (schema : Schema kind) (pool : Pool) (capacity : Nat) :
    Outcome Pool PooledBuilder :=
  (pool.reserve (Size.mulSat capacity schema.slotBytes)).map fun held =>
    ⟨schema.start, held, schema.slotBytes, capacity⟩

/-- The column, if it has the declared type. -/
def checked (schema : Schema kind) (column : Column) : Except LogError Column :=
  if column.type = schema.type then .ok column
  else .error (.typeMismatch schema.type column.type schema.name.text)

/-- The column, if it can be finished and has the declared type; the bytes go back to the pool. -/
def finishChecked (schema : Schema kind) (b : PooledBuilder) (pool : Pool) : Outcome Pool Column :=
  match b.finish pool with
  | .ok column pool => .ofExcept (schema.checked column) pool
  | .error e pool => .error e pool

/-- Writes the entries into one column.  Whatever happens, the pool holds nothing for it
afterwards. -/
def write (schema : Schema kind) (entries : List Entry) (pool : Pool) : Outcome Pool Column :=
  match schema.openBuilder pool entries.length with
  | .error e pool => .error e pool
  | .ok b pool =>
    match b.fill pool entries with
    | .error e (b, pool) => .error e (b.drop pool)
    | .ok () (b, pool) => schema.finishChecked b pool

end Schema

/-- Writes values of one type into a column. -/
def Loggable.write {α : Type} {kind : NameKind} [Loggable α kind] (values : List α) (pool : Pool) :
    Outcome Pool Column :=
  (Loggable.schema α).write (values.map Loggable.entry) pool

end ColumnLog
