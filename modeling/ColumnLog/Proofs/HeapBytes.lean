import ColumnLog.Proofs.NullBuffer

/-!
# The bytes of tensors

A tensor keeps the bytes of its dimensions, with their names, and the bytes of its elements.  The
bytes of the elements stop at the largest word, and so does the total of a batch; but the sum of the
two parts does not, and a null buffer may declare so many elements that it overflows.  Then there is
no report, and none of any batch with the tensor in it: the program stops before a pool is asked.

* `TensorData.exactBytes` are the bytes in exact arithmetic, `TensorData.InWord` says that the sum
  stays within the word, and `TensorData.Faithful` that a report can be relied on.
* `TensorData.InWord.exists_report` and `TensorData.heapBytes?_of_not_inWord` settle one tensor,
  `TensorData.batchBytes?_of_inWord` and `TensorData.batchBytes?_of_not_inWord` a batch.
* `TensorData.heapBytes_exact` is the result, with what a fill asks of its pool.
-/

set_option autoImplicit false

namespace ColumnLog

/-! ## The total of entries -/

namespace PooledBuilder

variable {entries : List Entry}

/-- The entries have a total if all of them have a number of bytes. -/
theorem heapBytes?_eq_none_iff :
    heapBytes? entries = none ↔ ∃ entry ∈ entries, entry.heapBytes? = none := by
  have general (total : Nat) :
      entries.foldlM (fun total (entry : Entry) => entry.heapBytes?.map (Size.addSat total))
          total = none ↔ ∃ entry ∈ entries, entry.heapBytes? = none := by
    induction entries generalizing total with
    | nil => exact iff_of_false nofun fun ⟨_, mem, _⟩ => nomatch mem
    | cons entry entries ih =>
      rw [List.foldlM_cons, List.exists_mem_cons_iff]
      cases bytes : entry.heapBytes? with
      | none => exact iff_of_true rfl (.inl rfl)
      | some n => exact (ih _).trans (or_iff_right nofun).symm
  exact general 0

/-- Then the total is what a pool is asked for. -/
theorem heapBytes?_eq_heapNeed (sized : ∀ entry ∈ entries, entry.heapBytes? ≠ none) :
    heapBytes? entries = some (Entry.heapNeed entries) := by
  rw [← heapBytes_eq, heapBytes]
  cases total : heapBytes? entries with
  | none =>
    obtain ⟨entry, mem, none⟩ := heapBytes?_eq_none_iff.mp total
    exact absurd none (sized entry mem)
  | some n => rfl

end PooledBuilder

namespace TensorData

/-! ## One tensor -/

/-- The number of dimensions; a null shape has none. -/
def rank (t : TensorData) : Nat := t.shape.toList.length

/-- The bytes of all names. -/
def nameBytes (t : TensorData) : Nat := (t.shape.toList.map TensorDimension.heapBytes).sum

/-- The bytes of the dimensions with their names. -/
def dimensionBytes (t : TensorData) : Nat := TensorDimension.slotBytes * t.rank + t.nameBytes

/-- The bytes of the elements; a null buffer has as many as it declares. -/
def elementBytes (t : TensorData) : Nat := t.buffer.length * t.buffer.kind.width

/-- The bytes of the tensor in exact arithmetic. -/
def exactBytes (t : TensorData) : Nat := t.dimensionBytes + t.elementBytes

/-- Whether the bytes of the dimensions and those of the elements, as far as these go, add up to a
word. -/
def InWord (t : TensorData) : Prop := t.dimensionBytes + t.buffer.bytes ≤ Size.largest

instance (t : TensorData) : Decidable t.InWord := Nat.decLe _ _

/-- Whether a report of the bytes is the exact number as far as a word goes, and not less than one
of the parts. -/
structure Faithful (t : TensorData) (report : Nat) : Prop where
  total : report = min t.exactBytes Size.largest
  dimensions : t.dimensionBytes ≤ report
  elements : t.buffer.bytes ≤ report

variable {t : TensorData} {values : List TensorData}

theorem bytes_eq (t : TensorData) : t.buffer.bytes = min t.elementBytes Size.largest := rfl

theorem sum_dimensions (dims : List TensorDimension) :
    (dims.map fun d => TensorDimension.slotBytes + d.heapBytes).sum =
      TensorDimension.slotBytes * dims.length + (dims.map TensorDimension.heapBytes).sum := by
  induction dims with
  | nil => rfl
  | cons d dims ih =>
    rw [List.map_cons, List.sum_cons, ih, List.map_cons, List.sum_cons, List.length_cons,
      Nat.mul_succ]
    omega

theorem heapBytes?_eq_word? (t : TensorData) :
    t.heapBytes? = Size.word? (t.dimensionBytes + t.buffer.bytes) := by
  rw [heapBytes?_eq, sum_dimensions]
  rfl

/-- Within the word, only the elements can be too many, and then there are no dimensions. -/
theorem InWord.sum_eq (word : t.InWord) :
    t.dimensionBytes + t.buffer.bytes = min t.exactBytes Size.largest := by
  have part := t.bytes_eq
  rw [InWord] at word
  rw [exactBytes]
  omega

theorem InWord.heapBytes?_eq (word : t.InWord) :
    t.heapBytes? = some (min t.exactBytes Size.largest) := by
  rw [heapBytes?_eq_word?, ← word.sum_eq]
  exact if_pos word

theorem InWord.exists_report (word : t.InWord) : ∃ n, t.heapBytes? = some n ∧ t.Faithful n := by
  have sum := word.sum_eq
  exact ⟨_, word.heapBytes?_eq, rfl, by omega, by omega⟩

/-- Beyond the word the sum overflows. -/
theorem heapBytes?_of_not_inWord (beyond : ¬ t.InWord) : t.heapBytes? = none := by
  rw [heapBytes?_eq_word?]
  exact if_neg beyond

/-! ## A batch -/

/-- The bytes that a batch is charged for. -/
def batchBytes? (values : List TensorData) : Option Nat :=
  PooledBuilder.heapBytes? (values.map Loggable.entry)

/-- If every tensor stays within the word, cutting each report at the word is no other than cutting
the total. -/
theorem heapNeed_of_inWord (word : ∀ t ∈ values, t.InWord) :
    Entry.heapNeed (values.map Loggable.entry) =
      min (values.map exactBytes).sum Size.largest := by
  rw [Entry.heapNeed, List.map_map]
  induction values with
  | nil => rfl
  | cons t values ih =>
    have rest := ih fun s mem => word s (List.mem_cons_of_mem _ mem)
    have first : (Loggable.entry t).heapBytes = min t.exactBytes Size.largest :=
      congrArg (Option.getD · _) (word t List.mem_cons_self).heapBytes?_eq
    rw [List.map_cons, List.map_cons, List.sum_cons, List.sum_cons, Function.comp_apply, first]
    omega

theorem batchBytes?_of_inWord (word : ∀ t ∈ values, t.InWord) :
    batchBytes? values = some (min (values.map exactBytes).sum Size.largest) := by
  rw [batchBytes?, PooledBuilder.heapBytes?_eq_heapNeed, heapNeed_of_inWord word]
  intro entry mem none
  obtain ⟨t, mem_values, rfl⟩ := List.mem_map.mp mem
  obtain ⟨n, report, -⟩ := (word t mem_values).exists_report
  exact nomatch report.symm.trans none

theorem batchBytes?_of_not_inWord (mem : t ∈ values) (beyond : ¬ t.InWord) :
    batchBytes? values = none :=
  PooledBuilder.heapBytes?_eq_none_iff.mpr
    ⟨_, List.mem_map_of_mem mem, heapBytes?_of_not_inWord beyond⟩

/-! ## What a fill asks for -/

/-- What a fill asks of a pool that has granted the slots: `total` bytes, which the builder holds
from then on, or the refusal says so. -/
structure Asks (b : PooledBuilder) (pool : Pool) (values : List TensorData) (total : Nat) :
    Prop where
  granted : (pool.grown (b.slotDebt values.length)).Grants total →
    (b.fill pool (values.map Loggable.entry)).state.1.held.bytes =
        b.held.bytes + b.slotDebt values.length + total ∧
      (b.fill pool (values.map Loggable.entry)).state.2 =
        (pool.grown (b.slotDebt values.length)).grown total
  refused : ¬ (pool.grown (b.slotDebt values.length)).Grants total →
    (b.fill pool (values.map Loggable.entry)).result =
      .error (.allocationFailed pool.name total
        (pool.grown (b.slotDebt values.length)).available)

theorem asks_heapNeed {b : PooledBuilder} {pool : Pool}
    (slots : pool.Grants (b.slotDebt values.length)) :
    Asks b pool values (Entry.heapNeed (values.map Loggable.entry)) := by
  rw [← List.length_map Loggable.entry] at slots
  constructor <;> intro heap <;> rw [← List.length_map Loggable.entry] at heap ⊢
  · rw [PooledBuilder.fill_of_grants slots heap]
    cases Builder.addAll ((values.map Loggable.entry).map some) b.builder <;> exact ⟨rfl, rfl⟩
  · rw [PooledBuilder.fill_of_heap_refused slots heap]
    rfl

/-- **What the bytes of tensors come to.**  If the parts of a tensor add up to a word, the report is
the exact number as far as a word goes, and covers the parts; otherwise the sum overflows, and there
is no report.  The total of a batch is there if every report is: then it is the exact one, cut at
the word, and a fill asks its pool for that. -/
theorem heapBytes_exact (values : List TensorData) (b : PooledBuilder) (pool : Pool)
    (slots : pool.Grants (b.slotDebt values.length)) :
    (∀ t : TensorData,
      (t.InWord → ∃ n, t.heapBytes? = some n ∧ t.Faithful n) ∧
      (¬ t.InWord → t.heapBytes? = none)) ∧
    ((∀ t ∈ values, t.InWord) →
      batchBytes? values = some (min (values.map exactBytes).sum Size.largest) ∧
      Asks b pool values (min (values.map exactBytes).sum Size.largest)) ∧
    ((∃ t ∈ values, ¬ t.InWord) → batchBytes? values = none) := by
  refine ⟨fun t => ⟨InWord.exists_report, heapBytes?_of_not_inWord⟩, fun word => ⟨?_, ?_⟩, ?_⟩
  · exact batchBytes?_of_inWord word
  · rw [← heapNeed_of_inWord word]
    exact asks_heapNeed slots
  · rintro ⟨t, mem, beyond⟩
    exact batchBytes?_of_not_inWord mem beyond

/-- Elements that are declared and do not fit the word are cut there, if there are no dimensions,
and a pool of three hundred bytes refuses them after ten others. -/
theorem heapBytes_exact_declared :
    let few : TensorData := .ofSizes [2] ⟨.u8, .null 10 (by decide)⟩
    let cut : TensorData := ⟨.empty, ⟨.f64, .null (2 ^ 61) (by decide)⟩⟩
    let b : PooledBuilder := ⟨(Loggable.schema TensorData).start, ⟨192⟩, 96, 2⟩
    let pool : Pool := ⟨"small", some 300, 192, 192, 1, 0⟩
    pool.Grants (b.slotDebt 2) ∧ (few.InWord ∧ cut.InWord) ∧
      batchBytes? [few, cut] = some Size.largest ∧
      (b.fill pool ([few, cut].map Loggable.entry)).result =
        .error (.allocationFailed "small" Size.largest 108) := by
  intro few cut b pool
  have nothing : b.slotDebt 2 = 0 := by decide +kernel
  have paid : pool.Grants (b.slotDebt 2) := .inl nothing
  have word : few.InWord ∧ cut.InWord := ⟨by decide, by decide⟩
  obtain ⟨-, exact_total, -⟩ := heapBytes_exact [few, cut] b pool paid
  obtain ⟨total, asks⟩ := exact_total (by simp [word])
  have largest : min ([few, cut].map exactBytes).sum Size.largest = Size.largest := by
    decide +kernel
  rw [largest] at total asks
  refine ⟨paid, word, total, (asks.refused ?_).trans ?_⟩
  · show ¬ (pool.grown (b.slotDebt 2)).Grants Size.largest
    rw [nothing, Pool.grown_zero]
    decide +kernel
  · show Except.error
      (LogError.allocationFailed "small" _ (pool.grown (b.slotDebt 2)).available) = _
    rw [nothing, Pool.grown_zero]
    rfl

/-- A dimension takes 32 bytes, and with the elements that are declared the sum overflows: the
report is not the largest word, where the exact number is cut. -/
theorem heapBytes_overflows :
    let t : TensorData := .ofSizes [1] ⟨.u8, .null Size.largest (by decide)⟩
    t.dimensionBytes = 32 ∧ t.elementBytes = Size.largest ∧
      min t.exactBytes Size.largest = Size.largest ∧ t.heapBytes? = none ∧
      batchBytes? [t] = none := by
  decide +kernel

end TensorData
end ColumnLog
