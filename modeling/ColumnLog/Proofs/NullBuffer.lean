import ColumnLog.Proofs.Acceptance
import ColumnLog.Proofs.Impartial
import ColumnLog.Proofs.Rejection

/-!
# Null buffers of tensors

A tensor whose buffer is a null buffer cannot be written, and its check says so.  But the pool is
asked first, and for as many bytes as were declared, although there are none.  So whether the null
buffer is reported depends on the room for elements that do not exist.  A null collection of values
is reported before any pool is asked.

* `TensorType.keptBytes` are the bytes that such a value really keeps, `TensorType.chargedBytes`
  those that the pool is asked for.
* `TensorType.report` is the answer of the check, `TensorType.Alone` lists the ways in which one
  value is logged.
* `TensorType.null_buffer_exact` is the result, for tensors, their buffers and tensor components.
-/

set_option autoImplicit false

namespace ColumnLog

/-! ## What is known before a pool is asked -/

/-- A null buffer is found by the check, unless the sizes cannot be multiplied. -/
theorem TensorData.validate_of_null_buffer {t : TensorData} (readable : t.shape.isNull = false)
    (null : t.buffer.isNull = true) : t.validate = .error (
      if t.Counted then
        .unexpectedNull (t.buffer.kind.name ++ " tensor buffer has a null data pointer")
      else .sizeMismatch Size.largest t.buffer.length "tensor shape product overflows usize") := by
  have verdict := t.verdict
  generalize t.validate = answer at verdict ⊢
  cases verdict with
  | accepted acceptable =>
    rw [acceptable.present] at null
    cases null
  | nullShape null_shape =>
    rw [readable] at null_shape
    cases null_shape
  | tooLarge _ beyond => rw [if_neg beyond]
  | nullBuffer _ counted => rw [if_pos counted]
  | disagreement _ _ present =>
    rw [present] at null
    cases null

/-- The bytes of the dimensions add up, if their sum fits the word. -/
theorem TensorData.shapeBytes?_eq (dims : List TensorDimension) :
    shapeBytes? dims =
      Size.word? (dims.map fun d => TensorDimension.slotBytes + d.heapBytes).sum := by
  have general (total : Nat) (le : total ≤ Size.largest) :
      dims.foldlM (fun total d =>
          Size.add? TensorDimension.slotBytes d.heapBytes >>= Size.add? total) total =
        Size.word? (total + (dims.map fun d => TensorDimension.slotBytes + d.heapBytes).sum) := by
    induction dims generalizing total with
    | nil => exact (if_pos le).symm
    | cons d dims ih =>
      rw [List.foldlM_cons, Option.bind_eq_bind, Size.bind_add?,
        List.map_cons, List.sum_cons, ← Nat.add_assoc total (_ + d.heapBytes), Size.word?]
      split
      · next fits => exact ih _ fits
      · next beyond => exact (Size.word?_eq_none_iff.mpr (by omega)).symm
  have zero := general 0 (Nat.zero_le _)
  rwa [Nat.zero_add] at zero

theorem TensorData.heapBytes?_eq (t : TensorData) :
    t.heapBytes? = Size.word? ((t.shape.toList.map fun d =>
      TensorDimension.slotBytes + d.heapBytes).sum + t.buffer.bytes) := by
  rw [heapBytes?, shapeBytes?_eq, Option.bind_eq_bind, Size.bind_word?]

/-- A first entry that is rejected decides what the entries come to. -/
theorem Schema.encode_cons_of_error {kind : NameKind} (schema : Schema kind) {entry : Entry}
    {e : LogError} (error : entry.datum = .error e) (entries : List Entry) :
    schema.encode (entry :: entries) = .error e := by
  rw [encode, List.map_cons, Builder.addAll, Builder.step, Builder.add_of_error error]

/-- What is known beforehand to be an error is the answer, if there is room for all that is asked
for. -/
theorem Pool.Charges.result_of_room {pool : Pool} {slots heap : Nat} {e : LogError} {α : Type}
    {out : Outcome Pool α} (h : pool.Charges slots heap (.error e) out)
    (reachable : pool.Reachable) (fits : slots ≤ pool.room) :
    out.result = .error (if slots + heap ≤ pool.room then e
      else .allocationFailed pool.name heap (pool.left slots)) := by
  have fits_slots : ¬ pool.Overruns slots := by
    rwa [reachable.overruns_iff_room_lt, Nat.not_lt]
  split
  · next enough =>
    have fits_all : ¬ pool.Overruns (slots + heap) := by
      rwa [reachable.overruns_iff_room_lt, Nat.not_lt]
    rw [h.granted fits_all]
    rfl
  · next less =>
    have beyond : pool.Overruns (slots + heap) := by
      rwa [reachable.overruns_iff_room_lt, ← Nat.not_le]
    rw [(h.heap_refused fits_slots beyond).2]
    rfl

/-! ## Tensors and buffers -/

namespace TensorType

/-- The buffer of a value. -/
def bufferOf : (t : TensorType) → t.Value → TensorBuffer
  | buffer, b => b
  | data, d => d.buffer
  | component, c => c.value.buffer

/-- The shape of a value; a buffer by itself has no dimensions. -/
def shapeOf : (t : TensorType) → t.Value → Collection TensorDimension
  | buffer, _ => .empty
  | data, d => d.shape
  | component, c => c.value.shape

/-- The bytes that a value with a null buffer keeps: those of its dimensions, with their names. -/
def keptBytes (t : TensorType) (v : t.Value) : Nat :=
  ((t.shapeOf v).toList.map fun d => TensorDimension.slotBytes + d.heapBytes).sum

/-- The bytes that the pool is asked for, which are also those of the elements that were declared.
They stop at the largest word, where there is no such number (`heapBytes?_entry`). -/
def chargedBytes (t : TensorType) (v : t.Value) : Nat :=
  Size.addSat (t.keptBytes v) (t.bufferOf v).bytes

/-- Whether a value has a shape that can be read, and a null buffer. -/
structure Missing (t : TensorType) (v : t.Value) : Prop where
  readable : (t.shapeOf v).isNull = false
  null : (t.bufferOf v).isNull = true

/-- Whether the sizes can be multiplied within the word. -/
def Counted (t : TensorType) (v : t.Value) : Prop :=
  TensorData.frontProduct (TensorData.sizes (t.shapeOf v).toList) ≤ Size.largest

instance (t : TensorType) (v : t.Value) : Decidable (t.Counted v) := Nat.decLe _ _

/-- The report of a null buffer. -/
def nullError : (t : TensorType) → t.Value → LogError
  | buffer, b => .unexpectedNull
      (b.kind.name ++ " tensor buffer of " ++ toString b.length ++
        " elements has a null data pointer")
  | data, d => .unexpectedNull (d.buffer.kind.name ++ " tensor buffer has a null data pointer")
  | component, c =>
    .unexpectedNull (c.value.buffer.kind.name ++ " tensor buffer has a null data pointer")

/-- What the check of a value with a null buffer reports. -/
def report (t : TensorType) (v : t.Value) : LogError :=
  if t.Counted v then t.nullError v
  else .sizeMismatch Size.largest (t.bufferOf v).length "tensor shape product overflows usize"

variable {t : TensorType} {v : t.Value} {pool : Pool}

theorem isRefusal_report (t : TensorType) (v : t.Value) : (t.report v).isRefusal = false := by
  rw [report]
  split
  · cases t <;> rfl
  · rfl

theorem datum_of_missing (missing : t.Missing v) :
    (Loggable.entry v).datum = .error (t.report v) := by
  cases t with
  | buffer =>
    have counted : buffer.Counted v := by
      show TensorData.frontProduct [] ≤ Size.largest
      decide
    rw [report, if_pos counted]
    exact if_pos missing.null
  | data =>
    show TensorData.checkedDatum v = _
    rw [TensorData.checkedDatum, TensorData.validate_of_null_buffer missing.readable missing.null]
    rfl
  | component =>
    show TensorData.checkedDatum v.value = _
    rw [TensorData.checkedDatum, TensorData.validate_of_null_buffer missing.readable missing.null]
    rfl

/-- There is a number of bytes if those that are kept and those that were declared fit the word. -/
theorem heapBytes?_entry (t : TensorType) (v : t.Value) :
    (Loggable.entry v).heapBytes? = Size.word? (t.keptBytes v + (t.bufferOf v).bytes) := by
  cases t with
  | buffer =>
    -- there are no dimensions, and the bytes of the elements stop at the word before
    show some (TensorBuffer.bytes v) = Size.word? (0 + TensorBuffer.bytes v)
    rw [Nat.zero_add]
    exact (if_pos (Size.mulSat_le _ _)).symm
  | data => exact TensorData.heapBytes?_eq v
  | component => exact TensorData.heapBytes?_eq v.value

theorem heapBytes_entry (t : TensorType) (v : t.Value) :
    (Loggable.entry v).heapBytes = t.chargedBytes v := by
  rw [Entry.heapBytes, heapBytes?_entry, Size.getD_word?]
  rfl

/-- The pool is asked for the slot, then for what was declared, and the report waits for both. -/
theorem charges_write_of_missing (missing : t.Missing v) (peak : pool.inUse ≤ pool.peak) :
    pool.Charges (Loggable.schema t.Value).slotBytes (t.chargedBytes v) (.error (t.report v))
      (Loggable.write [v] pool) := by
  have error := datum_of_missing missing
  have own : ∀ entry ∈ [Loggable.entry v], Unrefused entry.datum := by
    intro entry mem
    rw [List.mem_singleton.mp mem, error]
    exact .error (t.isRefusal_report v)
  have charges := Schema.charges_write (Readable.length_start (α := t.Value)) own peak
  have slots : (Loggable.schema t.Value).slotNeed [Loggable.entry v] =
      (Loggable.schema t.Value).slotBytes := by
    cases t <;> rfl
  have heap : Entry.heapNeed [Loggable.entry v] = t.chargedBytes v := by
    rw [Entry.heapNeed, List.map_singleton, List.sum_singleton, heapBytes_entry]
    exact Nat.min_eq_left (Size.addSat_le _ _)
  rwa [slots, heap, Schema.encode_cons_of_error _ error] at charges

/-! ## Ways to log one value -/

/-- The ways in which a value is logged by itself: into a column, as the only element of a batch,
and as an archetype. -/
inductive Alone : (t : TensorType) → t.Value → (Pool → Except LogError Unit) → Prop
  | column (t : TensorType) (v : t.Value) :
    Alone t v fun pool => (Loggable.write [v] pool).result.map fun _ => ()
  | cell (values : Collection Component.TensorData) (v : Component.TensorData)
      (readable : values.isNull = false) (only : values.toList = [v]) :
    Alone component v fun pool => (Component.cellOfCollection values pool).result.map fun _ => ()
  | archetype (a : Archetype.Tensor) :
    Alone component a.data fun pool => (Archetype.cells a pool).result.map fun _ => ()
  | serialized (a : Archetype.Tensor) :
    Alone component a.data fun pool => (Archetype.serialize a pool).result.map fun _ => ()

/-- What a value with a null buffer comes to, if there is room for its slot. -/
def answer (t : TensorType) (v : t.Value) (pool : Pool) : LogError :=
  if (Loggable.schema t.Value).slotBytes + t.chargedBytes v ≤ pool.room then t.report v
  else .allocationFailed pool.name (t.chargedBytes v)
    (pool.left (Loggable.schema t.Value).slotBytes)

theorem result_write_of_missing (missing : t.Missing v) (reachable : pool.Reachable)
    (room : (Loggable.schema t.Value).slotBytes + t.keptBytes v ≤ pool.room) :
    (Loggable.write [v] pool).result = .error (t.answer v pool) := by
  have charges := charges_write_of_missing missing reachable.inUse_le_peak
  exact charges.result_of_room reachable (by omega)

/-- A cell takes the answer from its column. -/
theorem result_cell_of_write {values : Collection Component.TensorData}
    {v : Component.TensorData} {e : LogError} (readable : values.isNull = false)
    (only : values.toList = [v]) (error : (Loggable.write [v] pool).result = .error e) :
    ((Slot.batch values).cell pool).result = .error e := by
  have not_null : (Slot.batch values).values.isNull = false :=
    (values.isNull_map Loggable.entry).trans readable
  have entries : (Slot.batch values).values.toList = [Loggable.entry v] := by
    show (values.map Loggable.entry).toList = _
    rw [Collection.toList_map, only, List.map_singleton]
  have written : ((Slot.batch values).schema.write [Loggable.entry v] pool).result = .error e :=
    error
  rw [Slot.cell_of_not_null not_null, entries, Outcome.result_map, written]
  rfl

end TensorType

/-- The first slot decides what an archetype comes to, if it fails. -/
theorem Archetype.result_cells_of_first {α : Type} [Archetype α] {a : α} {slot : Slot}
    {slots : List Slot} {pool : Pool} {e : LogError} (first : Archetype.slots a = slot :: slots)
    (error : (slot.cell pool).result = .error e) : (Archetype.cells a pool).result = .error e := by
  rw [Archetype.cells, first, Composer.pushAll, Composer.push]
  cases written : slot.cell pool with
  | ok cell left =>
    rw [written] at error
    cases error
  | error e' left =>
    rw [written] at error
    cases error
    rfl

namespace TensorType

variable {t : TensorType} {v : t.Value} {pool : Pool} {run : Pool → Except LogError Unit}

theorem Alone.eq_answer (alone : t.Alone v run) (missing : t.Missing v)
    (reachable : pool.Reachable)
    (room : (Loggable.schema t.Value).slotBytes + t.keptBytes v ≤ pool.room) :
    run pool = .error (t.answer v pool) := by
  have written := result_write_of_missing missing reachable room
  have logged {a : Archetype.Tensor} {e : LogError}
      (error : (Loggable.write [a.data] pool).result = .error e) :
      (Archetype.cells a pool).result = .error e :=
    Archetype.result_cells_of_first rfl (result_cell_of_write rfl rfl error)
  cases alone with
  | column => exact congrArg (Except.map fun _ => ()) written
  | cell values v readable only =>
    exact congrArg (Except.map fun _ => ()) (result_cell_of_write readable only written)
  | archetype a => exact congrArg (Except.map fun _ => ()) (logged written)
  | serialized a =>
    have serialized : (Archetype.serialize a pool).result =
        .error (component.answer a.data pool) := by
      rw [Archetype.serialize, Outcome.result_map, logged written]
      rfl
    exact congrArg (Except.map fun _ => ()) serialized

theorem answer_eq_nullError_iff :
    t.answer v pool = t.nullError v ↔
      t.Counted v ∧ (Loggable.schema t.Value).slotBytes + t.chargedBytes v ≤ pool.room := by
  have null : ∃ what, t.nullError v = .unexpectedNull what := by
    cases t <;> exact ⟨_, rfl⟩
  obtain ⟨what, null⟩ := null
  rw [answer, report, null]
  split
  · next enough =>
    split
    · next counted => exact ⟨fun _ => ⟨counted, enough⟩, fun _ => rfl⟩
    · next beyond => exact ⟨nofun, fun h => absurd h.1 beyond⟩
  · next less => exact ⟨nofun, fun h => absurd h.2 less⟩

/-- **When a null buffer is reported.**  A pool may have room for the slot and for what the value
really keeps.  The null buffer is reported there if there is also room for the elements that were
declared, though there are none, and if the sizes can be multiplied; without that room the pool
refuses.  What was declared may be too much to be added to what is kept, and then there is no number
of bytes to ask for.  A null collection is reported on every pool, and the pool is as before. -/
theorem null_buffer_exact (t : TensorType) (v : t.Value) (missing : t.Missing v)
    (run : Pool → Except LogError Unit) (alone : t.Alone v run) (pool : Pool)
    (reachable : pool.Reachable)
    (room : (Loggable.schema t.Value).slotBytes + t.keptBytes v ≤ pool.room) :
    run pool = .error (t.answer v pool) ∧
    (run pool = .error (t.nullError v) ↔
      t.Counted v ∧ (Loggable.schema t.Value).slotBytes + t.chargedBytes v ≤ pool.room) ∧
    ((Loggable.entry v).heapBytes? = none ↔
      Size.largest < t.keptBytes v + (t.bufferOf v).bytes) ∧
    ∀ (schema : ComponentSchema) (count : Nat) (pos : 0 < count),
      schema.cellOfCollection (.null count pos) pool = .error (.unexpectedNull
        ("Cannot read " ++ toString count ++ " elements from a null pointer")) pool := by
  have answered := alone.eq_answer missing reachable room
  refine ⟨answered, ?_, ?_, fun schema count pos => rfl⟩
  · rw [answered, Except.error.injEq]
    exact answer_eq_nullError_iff
  · rw [heapBytes?_entry, Size.word?_eq_none_iff, Nat.not_le]

/-- With room for two hundred bytes, ten elements that are missing are reported, and a thousand are
paid for. -/
theorem null_buffer_exact_declared :
    let pool : Pool := .bounded "small" 200
    let few : Archetype.Tensor := .ofSizes [2] ⟨.u8, .null 10 (by decide)⟩
    let many : Archetype.Tensor := .ofSizes [2] ⟨.u8, .null 1000 (by decide)⟩
    pool.Reachable ∧ component.Missing few.data ∧ component.Missing many.data ∧
      ((Archetype.cells few pool).result.map fun _ => ()) =
        .error (.unexpectedNull "U8 tensor buffer has a null data pointer") ∧
      ((Archetype.cells many pool).result.map fun _ => ()) =
        .error (.allocationFailed "small" 1032 104) := by
  intro pool few many
  have reach : pool.Reachable := ⟨"small", some 200, [], by simp [Size.largest], rfl⟩
  obtain ⟨-, reported, -⟩ :=
    null_buffer_exact component few.data ⟨rfl, rfl⟩ _ (.archetype few) pool reach (by decide)
  obtain ⟨refused, -, -⟩ :=
    null_buffer_exact component many.data ⟨rfl, rfl⟩ _ (.archetype many) pool reach (by decide)
  have answer : component.answer many.data pool = .allocationFailed "small" 1032 104 := by
    decide +kernel
  rw [answer] at refused
  exact ⟨reach, ⟨rfl, rfl⟩, ⟨rfl, rfl⟩, reported.mpr ⟨by decide, by decide +kernel⟩, refused⟩

/-- A pool with room for more than the tensor keeps is asked for a thousand bytes that there are
not, and the null buffer is not reported. -/
theorem null_buffer_refused :
    let pool : Pool := .bounded "small" 200
    let c : Component.TensorData := ⟨.ofSizes [2] ⟨.u8, .null 1000 (by decide)⟩⟩
    (component.Missing c ∧ component.Counted c) ∧
      (Loggable.schema component.Value).slotBytes + component.keptBytes c = 128 ∧
      pool.room = 200 ∧
      Component.cellOf [c] pool =
        .error (.allocationFailed "small" 1032 104) ⟨"small", some 200, 0, 96, 1, 1⟩ :=
  ⟨⟨⟨rfl, rfl⟩, by decide⟩, rfl, rfl, rfl⟩

end TensorType
end ColumnLog
