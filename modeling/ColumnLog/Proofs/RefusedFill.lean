import ColumnLog.Proofs.Charge

/-!
# Fills that are refused

A fill asks the pool twice: for the slots, then for the payload.  When the second request is refused
the first one was granted, and its bytes stay with the builder.  What the builder would finish to is
as before, and nothing is lost: the slots are not paid for a second time, and the bytes go back with
the others.

* `PooledBuilder.kept` are the bytes that stay with the builder.
* `PooledBuilder.Refusal` lists the two ways in which a fill is refused.
* `PooledBuilder.Attempts` are refused fills one after the other; `PooledBuilder.Attempts.paid_once`
  says that all of them keep no more than one.
* `LibraryType.fill_refused` is the result: what a refused fill keeps, and when it keeps nothing.
-/

set_option autoImplicit false

namespace ColumnLog
namespace PooledBuilder

variable {b : PooledBuilder} {pool : Pool} {entries : List Entry} {count : Nat}

/-! ## What is kept -/

/-- What is paid for once is not asked for again. -/
theorem slotDebt_paidFor {fewer : Nat} (le : fewer ≤ count) :
    (b.paidFor count).slotDebt fewer = 0 := by
  refine (slotDebt_eq_zero_iff _ _).mpr (.inl ?_)
  show Size.addSat b.length fewer ≤ max (max b.reservedSlots (Size.addSat b.length count)) b.length
  rw [Size.addSat, Size.addSat]
  omega

/-- The bytes that stay with the builder if a fill of so many slots is refused: those of the slots,
unless these were refused. -/
def kept (b : PooledBuilder) (pool : Pool) (count : Nat) : Nat :=
  if pool.Grants (b.slotDebt count) then b.slotDebt count else 0

theorem kept_eq_zero_iff :
    b.kept pool count = 0 ↔ b.slotDebt count = 0 ∨ pool.Overruns (b.slotDebt count) := by
  rw [kept]
  split
  · next grants =>
    constructor
    · exact .inl
    · exact fun h => h.elim id fun beyond => grants.resolve_right (not_not.mpr beyond)
  · next refuses => exact ⟨fun _ => .inr (Pool.not_grants_iff.mp refuses).2, fun _ => rfl⟩

/-! ## The two ways to be refused -/

/-- What a refused fill comes to: the error, and what is left of the builder and the pool. -/
inductive Refusal (b : PooledBuilder) (pool : Pool) (entries : List Entry) :
    LogError → PooledBuilder × Pool → Prop
  /-- The slots were refused. -/
  | slots (refuses : ¬ pool.Grants (b.slotDebt entries.length)) :
    Refusal b pool entries
      (.allocationFailed pool.name (b.slotDebt entries.length) pool.available) (b, pool.refuse)
  /-- The slots were granted, or paid for before, and the payload was refused. -/
  | heap (grants : pool.Grants (b.slotDebt entries.length))
      (refuses : ¬ (pool.grown (b.slotDebt entries.length)).Grants (Entry.heapNeed entries)) :
    Refusal b pool entries
      (.allocationFailed pool.name (Entry.heapNeed entries)
        (pool.grown (b.slotDebt entries.length)).available)
      (b.paidFor entries.length, (pool.grown (b.slotDebt entries.length)).refuse)

/-- The two ways are all there are, unless the values themselves are refusals. -/
theorem refusal_of_fill (own : ∀ entry ∈ entries, Unrefused entry.datum) {e : LogError}
    {left : PooledBuilder × Pool} (refused : b.fill pool entries = .error e left)
    (refusal : e.isRefusal = true) : Refusal b pool entries e left := by
  by_cases grants : pool.Grants (b.slotDebt entries.length)
  · by_cases grants' : (pool.grown (b.slotDebt entries.length)).Grants (Entry.heapNeed entries)
    · -- with both requests granted, the error is that of a value
      have value := congrArg Outcome.result refused
      rw [fill_of_grants grants grants', Outcome.result_mapState] at value
      have foreign := Builder.unrefused_addAll own b.builder e value
      rw [refusal] at foreign
      cases foreign
    · rw [fill_of_heap_refused grants grants'] at refused
      cases refused
      exact .heap grants grants'
  · rw [fill_of_slots_refused grants] at refused
    cases refused
    exact .slots grants

namespace Refusal

variable {e : LogError} {b' : PooledBuilder} {pool' : Pool}

/-- Neither is anything written, nor does the pool become another one. -/
theorem unchanged (h : Refusal b pool entries e (b', pool')) :
    b'.builder = b.builder ∧ b'.slotBytes = b.slotBytes ∧ pool'.name = pool.name ∧
      pool'.capacity = pool.capacity ∧ pool'.failures = pool.failures + 1 := by
  cases h with
  | slots => exact ⟨rfl, rfl, rfl, rfl, rfl⟩
  | heap =>
    exact ⟨rfl, rfl, Pool.name_grown _ _, Pool.capacity_grown _ _,
      congrArg (· + 1) (Pool.failures_grown _ _)⟩

theorem held_eq (h : Refusal b pool entries e (b', pool')) :
    b'.held = ⟨b.held.bytes + b.kept pool entries.length⟩ := by
  cases h with
  | slots refuses => rw [kept, if_neg refuses]; rfl
  | heap grants => rw [kept, if_pos grants]; rfl

theorem inUse_eq (h : Refusal b pool entries e (b', pool')) :
    pool'.inUse = pool.inUse + b.kept pool entries.length := by
  cases h with
  | slots refuses => rw [kept, if_neg refuses]; rfl
  | heap grants => rw [kept, if_pos grants]; exact Pool.inUse_grown _ _

/-- A refused fill leaves no trace exactly if it had no slots to pay for, or was refused those. -/
theorem traceless_iff (h : Refusal b pool entries e (b', pool')) :
    (b'.held = b.held ∧ pool'.inUse = pool.inUse) ↔
      b.slotDebt entries.length = 0 ∨ pool.Overruns (b.slotDebt entries.length) := by
  rw [← kept_eq_zero_iff, h.inUse_eq]
  constructor
  · rintro ⟨-, inUse⟩
    omega
  · intro nothing
    rw [h.held_eq, nothing]
    exact ⟨rfl, rfl⟩

/-- The bytes that are kept go back with the others. -/
theorem inUse_drop (h : Refusal b pool entries e (b', pool')) :
    (b'.drop pool').inUse = (b.drop pool).inUse := by
  show pool'.inUse - b'.held.bytes = pool.inUse - b.held.bytes
  rw [h.inUse_eq, h.held_eq]
  exact Nat.add_sub_add_right _ _ _

theorem held_or_paid (h : Refusal b pool entries e (b', pool')) :
    b' = b ∨ b' = b.paidFor entries.length := by
  cases h with
  | slots => exact .inl rfl
  | heap => exact .inr rfl

end Refusal

/-! ## Trying again -/

/-- Fills of so many values each, one after the other and each of them refused, by a pool in
whatever state. -/
inductive Attempts (count : Nat) : PooledBuilder → PooledBuilder → Prop
  | none (b : PooledBuilder) : Attempts count b b
  | again {b b' last : PooledBuilder} {pool pool' : Pool} {entries : List Entry} {e : LogError}
      (length : entries.length = count) (refusal : Refusal b pool entries e (b', pool'))
      (rest : Attempts count b' last) : Attempts count b last

/-- However often a fill is tried and refused, the slots are paid for once. -/
theorem Attempts.paid_once {last : PooledBuilder} (attempts : Attempts count b last) :
    last.builder = b.builder ∧ last.held.bytes ≤ b.held.bytes + b.slotDebt count := by
  induction attempts with
  | none b => exact ⟨rfl, Nat.le_add_right _ _⟩
  | @again b b' last _ _ _ _ length refusal _ ih =>
    obtain ⟨builder, held⟩ := ih
    refine ⟨builder.trans refusal.unchanged.1, ?_⟩
    rcases refusal.held_or_paid with rfl | rfl
    · exact held
    · rwa [length, slotDebt_paidFor (Nat.le_refl _)] at held

end PooledBuilder

/-! ## The types of the library -/

theorem LibraryType.slotBytes_pos (t : LibraryType) : 0 < (Loggable.schema t.Value).slotBytes := by
  cases t <;> decide

/-- **What a refused fill leaves behind.**  Nothing is written, and the pool counts one refusal.
The builder keeps the bytes of the slots if these were granted before the payload was refused; so
the builder and the bytes in use are as before exactly if the slots were paid for already, or
refused themselves.  However often the fill is tried again, the slots are paid for once, and what
was kept goes back to the pool with the rest. -/
theorem LibraryType.fill_refused (t : LibraryType) {b b' : PooledBuilder} {pool pool' : Pool}
    (schema : b.slotBytes = (Loggable.schema t.Value).slotBytes) (values : List t.Value)
    {e : LogError} (refused : b.fill pool (values.map Loggable.entry) = .error e (b', pool'))
    (refusal : e.isRefusal = true) :
    (b'.builder = b.builder ∧ pool'.name = pool.name ∧ pool'.capacity = pool.capacity ∧
      pool'.failures = pool.failures + 1) ∧
    (b'.held = ⟨b.held.bytes + b.kept pool values.length⟩ ∧
      pool'.inUse = pool.inUse + b.kept pool values.length) ∧
    ((b'.held = b.held ∧ pool'.inUse = pool.inUse) ↔
      Size.addSat b.length values.length ≤ max b.reservedSlots b.length ∨
        pool.Overruns (b.slotDebt values.length)) ∧
    (∀ last, PooledBuilder.Attempts values.length b' last →
      last.builder = b.builder ∧ last.held.bytes ≤ b.held.bytes + b.slotDebt values.length) ∧
    (b'.drop pool').inUse = (b.drop pool).inUse := by
  have ways := PooledBuilder.refusal_of_fill (t.unrefused_entries values) refused refusal
  have count : (values.map Loggable.entry).length = values.length := List.length_map _
  obtain ⟨builder, -, name, capacity, failures⟩ := ways.unchanged
  have held := ways.held_eq
  have inUse := ways.inUse_eq
  have trace := ways.traceless_iff
  rw [count] at held inUse trace
  refine ⟨⟨builder, name, capacity, failures⟩, ⟨held, inUse⟩, ?_, fun last again => ?_,
    ways.inUse_drop⟩
  · have pos := schema ▸ t.slotBytes_pos
    rw [trace, PooledBuilder.slotDebt_eq_zero_iff, or_iff_left (Nat.ne_of_gt pos)]
  · exact (PooledBuilder.Attempts.again count ways again).paid_once

/-- A name for which there is no room: the pool keeps the bytes of the slot, until the builder is
dropped. -/
theorem LibraryType.fill_refused_named :
    let b : PooledBuilder := ⟨(Loggable.schema TensorDimension).start, ⟨0⟩, 32, 0⟩
    let pool : Pool := .bounded "small" 40
    let values : List TensorDimension := [.named 3 "sixteen letters!"]
    ∃ e b' pool', b.fill pool (values.map Loggable.entry) = .error e (b', pool') ∧
      e.isRefusal = true ∧ b'.builder = b.builder ∧ b'.held = ⟨32⟩ ∧ pool'.inUse = 32 ∧
      (b'.drop pool').inUse = 0 := by
  intro b pool values
  have refused : b.fill pool (values.map Loggable.entry) = _ :=
    PooledBuilder.fill_of_heap_refused (by decide +kernel) (by decide +kernel)
  have kept : b.kept pool values.length = 32 := by decide +kernel
  obtain ⟨⟨builder, -⟩, ⟨held, inUse⟩, -, -, drop⟩ :=
    LibraryType.fill_refused .tensorDimension (b := b) rfl values refused rfl
  rw [kept] at held inUse
  exact ⟨_, _, _, refused, rfl, builder, held, inUse, drop⟩

/-- A refused fill does not leave the builder as it was: what is held and in use has doubled. -/
theorem LibraryType.fill_refused_keeps :
    ∃ opened pool₀ b pool e b' pool',
      (Loggable.schema TensorDimension).openBuilder (.bounded "small" 70) 1 = .ok opened pool₀ ∧
      opened.fill pool₀ ([TensorDimension.unnamed 2].map Loggable.entry) = .ok () (b, pool) ∧
      b.fill pool ([TensorDimension.named 3 "sixteen letters!"].map Loggable.entry) =
        .error e (b', pool') ∧
      e.isRefusal = true ∧ (b.held = ⟨32⟩ ∧ pool.inUse = 32) ∧ b'.held = ⟨64⟩ ∧ pool'.inUse = 64 :=
  ⟨_, _, _, _, _, _, _, rfl, rfl, rfl, rfl, ⟨rfl, rfl⟩, rfl, rfl⟩

end ColumnLog
