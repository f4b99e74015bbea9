import ColumnLog.Proofs.Conform
import ColumnLog.Proofs.Ledger

/-!
# What writing costs a pool

Writing a list of values asks a pool for two amounts: the bytes of the slots, then the bytes that
the values keep on the heap.  Only when both are granted are the values looked at, and whatever
comes of them, the bytes are given back.

* `Unrefused` says that a result is not the refusal of a pool; nothing that a builder does is
  (`Builder.unrefused_append`, `Builder.unrefused_finish`).
* `Schema.encode` is what entries come to without a pool.
* `PooledBuilder.slotDebt` is what a fill asks for its slots; `PooledBuilder.fill_of_slots_refused`,
  `PooledBuilder.fill_of_heap_refused` and `PooledBuilder.fill_of_grants` are all that it can do.
* `Pool.Charges` lists the three ways a charge can end, with the counters after each.
* `Schema.charges_write` proves it of every description, `LibraryType.write_charges` is the result
  for the loggable types.
-/

set_option autoImplicit false

namespace ColumnLog

/-! ## Errors that are no refusals -/

/-- Whether an error is the refusal of a pool. -/
def LogError.isRefusal : LogError → Bool
  | allocationFailed _ _ _ => true
  | _ => false

/-- Whether a result is not the refusal of a pool. -/
def Unrefused {α : Type} (r : Except LogError α) : Prop := ∀ e, r = .error e → e.isRefusal = false

namespace Unrefused

variable {α β : Type} {r : Except LogError α}

theorem ok {a : α} : Unrefused (.ok a : Except LogError α) := nofun

theorem error {e : LogError} (h : e.isRefusal = false) : Unrefused (.error e : Except LogError α) :=
  fun _ he => Except.error.inj he ▸ h

theorem bind {f : α → Except LogError β} (h : Unrefused r) (hf : ∀ a, Unrefused (f a)) :
    Unrefused (r >>= f) := by
  cases r with
  | ok a => exact hf a
  | error e => exact error (h e rfl)

instance {α : Type} : (r : Except LogError α) → Decidable (Unrefused r)
  | .ok _ => .isTrue ok
  | .error e =>
    if h : e.isRefusal = false then .isTrue (error h) else .isFalse fun own => h (own e rfl)

end Unrefused

namespace Builder

theorem unrefused_misfit {σ α : Type} (left : σ) :
    Unrefused (misfit left : Outcome σ α).result := .error rfl

theorem unrefused_closeEntry (b : Builder) : Unrefused b.closeEntry.result := by
  cases b with
  | list item offsets mask items =>
    rw [closeEntry]
    split
    · exact .ok
    · exact .error rfl
  | _ => exact unrefused_misfit _

theorem unrefused_workAt {work : Builder → Appended} (h : ∀ b, Unrefused (work b).result)
    (k : Nat) (bs : List Builder) : Unrefused (workAt work k bs).result := by
  induction bs generalizing k with
  | nil => cases k <;> exact unrefused_misfit _
  | cons b bs ih =>
    cases k with
    | zero => rw [workAt, Outcome.result_mapState]; exact h b
    | succ k => rw [workAt, Outcome.result_mapState]; exact ih k

mutual

theorem unrefused_append : (d : Datum) → (b : Builder) → Unrefused (append d b).result
  | .null, b => .ok
  | .scalar p value, b => by
    cases b with
    | leaf q blank slots =>
      rw [append]
      split
      · exact .ok
      · exact unrefused_misfit _
    | _ => exact unrefused_misfit _
  | .items data, b => by
    cases b with
    | fixedSizeList item size mask items =>
      have inside := unrefused_appendItems data items
      rw [append]
      split
      · cases h : appendItems data items with
        | ok u left => exact .ok
        | error e left => rw [h] at inside; exact inside
      · exact .error rfl
    | list item offsets mask items =>
      have inside := unrefused_appendItems data items
      rw [append]
      cases h : appendItems data items with
      | ok u left => exact unrefused_closeEntry _
      | error e left => rw [h] at inside; exact inside
    | _ => exact unrefused_misfit _
  | .record parts, b => by
    cases b with
    | struct fields mask children =>
      have inside := unrefused_appendParts parts children
      rw [append]
      cases h : appendParts parts children with
      | ok u left => exact .ok
      | error e left => rw [h] at inside; exact inside
    | _ => exact unrefused_misfit _
  | .variant id content, b => by
    cases b with
    | denseUnion ids fields slots variants =>
      rw [append]
      split
      · cases id.toNat with
        | zero => exact unrefused_misfit _
        | succ k =>
          rw [Outcome.result_mapState]
          exact unrefused_workAt (unrefused_append content) k variants
      · exact .error rfl
    | _ => exact unrefused_misfit _

theorem unrefused_appendItems : (data : List Datum) → (b : Builder) →
    Unrefused (appendItems data b).result
  | [], b => .ok
  | d :: data, b => by
    have head := unrefused_append d b
    rw [appendItems]
    cases h : append d b with
    | ok u left => exact unrefused_appendItems data left
    | error e left => rw [h] at head; exact head

theorem unrefused_appendParts : (parts : List Datum) → (bs : List Builder) →
    Unrefused (appendParts parts bs).result
  | [], bs => .ok
  | _ :: _, [] => .ok
  | d :: parts, b :: bs => by
    have head := unrefused_append d b
    have tail := unrefused_appendParts parts bs
    rw [appendParts]
    cases h : append d b with
    | ok u left =>
      cases h' : appendParts parts bs with
      | ok u' lefts => exact .ok
      | error e lefts => rw [h'] at tail; exact tail
    | error e left => rw [h] at head; exact head

end

theorem unrefused_settle (c : Column.Assembled) : Unrefused (settle c) := by
  cases c with
  | ok c => exact .ok
  | error fault => cases fault <;> exact .error rfl

mutual

theorem unrefused_finish : (b : Builder) → Unrefused b.finish
  | null count => .ok
  | leaf p blank slots => .ok
  | fixedSizeList item size mask items => by
    rw [finish]
    split
    · exact .error rfl
    · exact .bind (unrefused_finish items) fun _ => unrefused_settle _
  | list item offsets mask items => by
    rw [finish]
    exact .bind (unrefused_finish items) fun _ => unrefused_settle _
  | struct fields mask children => by
    rw [finish]
    exact .bind (unrefused_finishEach children) fun _ => unrefused_settle _
  | denseUnion ids fields slots variants => by
    rw [finish]
    exact .bind (unrefused_finishEach variants) fun _ => unrefused_settle _

theorem unrefused_finishEach : (bs : List Builder) → Unrefused (finishEach bs)
  | [] => .ok
  | b :: bs => by
    rw [finishEach]
    exact .bind (unrefused_finish b) fun _ => .bind (unrefused_finishEach bs) fun _ => .ok

end

theorem unrefused_addAll {entries : List Entry} (h : ∀ entry ∈ entries, Unrefused entry.datum)
    (b : Builder) : Unrefused (addAll (entries.map some) b).result := by
  induction entries generalizing b with
  | nil => exact .ok
  | cons entry entries ih =>
    have head : Unrefused (b.add entry).result := by
      cases hd : entry.datum with
      | ok d => rw [add_of_ok hd]; exact unrefused_append d b
      | error e =>
        rw [add_of_error hd]
        exact .error (h entry List.mem_cons_self e hd)
    rw [List.map_cons, addAll, step]
    cases added : b.add entry with
    | ok u left => exact ih (fun other mem => h other (List.mem_cons_of_mem _ mem)) left
    | error e left => rw [added] at head; exact head

end Builder

/-! ## Entries without a pool -/

namespace Schema

variable {kind : NameKind} {schema : Schema kind} {entries : List Entry}

/-- What the entries come to in a fresh builder, pools apart: a column of the declared type, or the
first error. -/
def encode (schema : Schema kind) (entries : List Entry) : Except LogError Column :=
  match Builder.addAll (entries.map some) schema.start with
  | .ok () b => b.finish.bind schema.checked
  | .error e _ => .error e

theorem unrefused_checked (c : Column) : Unrefused (schema.checked c) := by
  rw [checked]
  split
  · exact .ok
  · exact .error rfl

theorem unrefused_encode (h : ∀ entry ∈ entries, Unrefused entry.datum) :
    Unrefused (schema.encode entries) := by
  have added := Builder.unrefused_addAll h schema.start
  rw [encode]
  cases h' : Builder.addAll (entries.map some) schema.start with
  | ok u b => exact .bind b.unrefused_finish unrefused_checked
  | error e b => exact .error (added e (by rw [h']; rfl))

/-- The bytes asked for the slots of the entries. -/
def slotNeed (schema : Schema kind) (entries : List Entry) : Nat :=
  min (entries.length * schema.slotBytes) Size.largest

end Schema

/-- The bytes asked for what the entries keep on the heap. -/
def Entry.heapNeed (entries : List Entry) : Nat :=
  min (entries.map Entry.heapBytes).sum Size.largest

/-- Adding up as far as a word goes is adding up, and then cutting at the word; an entry that
has no number of bytes takes all of it. -/
theorem PooledBuilder.heapBytes_eq (entries : List Entry) :
    heapBytes entries = Entry.heapNeed entries := by
  have general (total : Nat) (le : total ≤ Size.largest) :
      (entries.foldlM (fun total (entry : Entry) => entry.heapBytes?.map (Size.addSat total))
          total).getD Size.largest =
        min (total + (entries.map Entry.heapBytes).sum) Size.largest := by
    induction entries generalizing total with
    | nil => exact (Nat.min_eq_left le).symm
    | cons entry entries ih =>
      rw [List.foldlM_cons, List.map_cons, List.sum_cons, Entry.heapBytes]
      cases entry.heapBytes? with
      | none =>
        show Size.largest = min (total + (Size.largest + _)) Size.largest
        omega
      | some n =>
        refine (ih _ (Size.addSat_le _ _)).trans ?_
        rw [Size.addSat, Option.getD_some]
        omega
  rw [heapBytes, heapBytes?, general 0 (Nat.zero_le _), Nat.zero_add, Entry.heapNeed]

/-! ## Charging -/

namespace Pool

variable {pool : Pool} {slots heap bytes : Nat}

/-- What the pool has left when so many bytes more are taken. -/
def left (pool : Pool) (taken : Nat) : Nat :=
  match pool.capacity with
  | some c => c - (pool.inUse + taken)
  | none => Size.largest

/-- The pool after bytes were taken and given back, with the requests that were granted and refused.
What is in use is as it was. -/
def charged (pool : Pool) (taken grants refusals : Nat) : Pool :=
  { pool with
    peak := max pool.peak (pool.inUse + taken)
    reservations := pool.reservations + grants
    failures := pool.failures + refusals }

/-- What happens to a pool that is asked for the bytes of slots, then for those on the heap, on
behalf of a result that is known beforehand. -/
structure Charges {α : Type} (pool : Pool) (slots heap : Nat) (result : Except LogError α)
    (out : Outcome Pool α) : Prop where
  slots_refused : pool.Overruns slots →
    out = .error (.allocationFailed pool.name slots (pool.left 0)) (pool.charged 0 0 1)
  heap_refused : ¬ pool.Overruns slots → pool.Overruns (slots + heap) →
    0 < heap ∧
      out = .error (.allocationFailed pool.name heap (pool.left slots)) (pool.charged slots 1 1)
  granted : ¬ pool.Overruns (slots + heap) →
    out = .ofExcept result (pool.charged (slots + heap) (if heap = 0 then 1 else 2) 0)
  refused_iff : (∃ e, out.result = .error e ∧ e.isRefusal = true) ↔
    pool.Overruns slots ∨ pool.Overruns (slots + heap)

theorem Overruns.mono (h : pool.Overruns slots) : pool.Overruns (slots + heap) := by
  rw [overruns_iff] at h ⊢
  omega

theorem overruns_grant (pool : Pool) (slots heap : Nat) :
    (pool.grant slots).Overruns heap ↔ pool.Overruns (slots + heap) := by
  rw [overruns_iff, overruns_iff, ← Nat.add_assoc]
  rfl

theorem refuse_eq_charged (peak : pool.inUse ≤ pool.peak) : pool.refuse = pool.charged 0 0 1 := by
  simp only [refuse, charged, Nat.add_zero, Nat.max_eq_left peak]

theorem release_refuse_grant (pool : Pool) (bytes : Nat) :
    ((pool.grant bytes).refuse).release bytes = pool.charged bytes 1 1 := by
  simp only [grant, refuse, release, charged, Nat.add_sub_cancel]

/-- The pool once bytes for the heap are granted; for none it is not asked. -/
def grown (pool : Pool) (heap : Nat) : Pool := if heap = 0 then pool else pool.grant heap

@[simp]
theorem grown_zero (pool : Pool) : pool.grown 0 = pool := if_pos rfl

@[simp]
theorem name_grown (pool : Pool) (heap : Nat) : (pool.grown heap).name = pool.name := by
  rw [grown]
  split <;> rfl

@[simp]
theorem capacity_grown (pool : Pool) (heap : Nat) :
    (pool.grown heap).capacity = pool.capacity := by
  rw [grown]
  split <;> rfl

@[simp]
theorem failures_grown (pool : Pool) (heap : Nat) :
    (pool.grown heap).failures = pool.failures := by
  rw [grown]
  split <;> rfl

@[simp]
theorem inUse_grown (pool : Pool) (heap : Nat) : (pool.grown heap).inUse = pool.inUse + heap := by
  rw [grown]
  split
  · omega
  · rfl

/-- Whether a reservation may grow by so many bytes; for none the pool is not asked. -/
def Grants (pool : Pool) (bytes : Nat) : Prop := bytes = 0 ∨ ¬ pool.Overruns bytes

instance : Decidable (pool.Grants bytes) := inferInstanceAs (Decidable (_ ∨ _))

theorem grants_zero (pool : Pool) : pool.Grants 0 := .inl rfl

theorem not_grants_iff : ¬ pool.Grants bytes ↔ bytes ≠ 0 ∧ pool.Overruns bytes := by
  rw [Grants, not_or, not_not]

theorem release_grown (pool : Pool) (slots heap : Nat) :
    ((pool.grant slots).grown heap).release (slots + heap) =
      pool.charged (slots + heap) (if heap = 0 then 1 else 2) 0 := by
  rw [grown]
  split
  · next none =>
    simp only [none, grant, release, charged, Nat.add_sub_cancel, Nat.add_zero]
  · simp only [grant, release, charged, Nat.add_assoc, Nat.add_sub_cancel, Nat.add_zero,
      Pool.mk.injEq, true_and, and_true]
    omega

/-- The three ways are all there are, if the result is no refusal itself. -/
theorem Charges.of_cases {α : Type} {result : Except LogError α} {out : Outcome Pool α}
    (own : Unrefused result)
    (slots_refused : pool.Overruns slots →
      out = .error (.allocationFailed pool.name slots (pool.left 0)) (pool.charged 0 0 1))
    (heap_refused : ¬ pool.Overruns slots → pool.Overruns (slots + heap) → 0 < heap ∧
      out = .error (.allocationFailed pool.name heap (pool.left slots)) (pool.charged slots 1 1))
    (granted : ¬ pool.Overruns (slots + heap) →
      out = .ofExcept result (pool.charged (slots + heap) (if heap = 0 then 1 else 2) 0)) :
    pool.Charges slots heap result out := by
  refine ⟨slots_refused, heap_refused, granted, ?_, ?_⟩
  · rintro ⟨e, refused, isRefusal⟩
    by_cases h : pool.Overruns (slots + heap)
    · exact .inr h
    · rw [granted h, Outcome.result_ofExcept] at refused
      rw [own e refused] at isRefusal
      cases isRefusal
  · intro h
    by_cases first : pool.Overruns slots
    · exact ⟨_, by rw [slots_refused first]; rfl, rfl⟩
    · exact ⟨_, by rw [(heap_refused first (h.resolve_left first)).2]; rfl, rfl⟩

end Pool

/-! ## Filling a builder -/

namespace PooledBuilder

variable {b : PooledBuilder} {pool : Pool} {bytes count : Nat}

/-- The bytes that a fill asks for so many slots more: those that are paid for, or in use already,
cost nothing. -/
def slotDebt (b : PooledBuilder) (count : Nat) : Nat :=
  Size.mulSat (Size.addSat b.length count - max b.reservedSlots b.length) b.slotBytes

/-- The builder that has paid for so many slots more. -/
def paidFor (b : PooledBuilder) (count : Nat) : PooledBuilder :=
  { b with
    held := ⟨b.held.bytes + b.slotDebt count⟩
    reservedSlots := max b.reservedSlots (Size.addSat b.length count) }

theorem slotDebt_eq_zero_iff (b : PooledBuilder) (count : Nat) :
    b.slotDebt count = 0 ↔
      Size.addSat b.length count ≤ max b.reservedSlots b.length ∨ b.slotBytes = 0 := by
  have word : 0 < Size.largest := by decide
  rw [slotDebt, Size.mulSat, ← Nat.sub_eq_zero_iff_le, ← Nat.mul_eq_zero]
  omega

/-- Nothing is asked for slots that are paid for, and nothing changes. -/
theorem slotDebt_of_covered (h : b.length + count ≤ b.reservedSlots) :
    b.slotDebt count = 0 ∧ b.paidFor count = b := by
  have wanted : Size.addSat b.length count ≤ b.reservedSlots :=
    Nat.le_trans (Nat.min_le_left _ _) h
  have nothing : b.slotDebt count = 0 :=
    (slotDebt_eq_zero_iff b count).mpr (.inl (Nat.le_trans wanted (Nat.le_max_left _ _)))
  refine ⟨nothing, ?_⟩
  rw [paidFor, nothing, Nat.max_eq_left wanted]
  rfl

theorem charge_of_grants (grants : pool.Grants bytes) :
    b.charge pool bytes =
      .ok () ({ b with held := ⟨b.held.bytes + bytes⟩ }, pool.grown bytes) := by
  rw [charge, Reservation.grow, Pool.grown]
  by_cases none : bytes = 0
  · rw [if_pos none, if_pos none, none]
    rfl
  · rw [if_neg none, if_neg none, Pool.acquire_of_not_overruns (grants.resolve_left none)]
    rfl

theorem charge_of_not_grants (refuses : ¬ pool.Grants bytes) :
    b.charge pool bytes =
      .error (.allocationFailed pool.name bytes pool.available) (b, pool.refuse) := by
  obtain ⟨asked, beyond⟩ := Pool.not_grants_iff.mp refuses
  rw [charge, Reservation.grow, if_neg asked, Pool.acquire_of_overruns beyond]
  rfl

theorem chargeSlots_of_grants (grants : pool.Grants (b.slotDebt count)) :
    b.chargeSlots pool count = .ok () (b.paidFor count, pool.grown (b.slotDebt count)) := by
  rw [chargeSlots, ← slotDebt, charge_of_grants grants]
  rfl

theorem chargeSlots_of_not_grants (refuses : ¬ pool.Grants (b.slotDebt count)) :
    b.chargeSlots pool count =
      .error (.allocationFailed pool.name (b.slotDebt count) pool.available) (b, pool.refuse) := by
  rw [chargeSlots, ← slotDebt, charge_of_not_grants refuses]

theorem addAll_eq (entries : List Entry) (b : PooledBuilder) :
    addAll entries b =
      (Builder.addAll (entries.map some) b.builder).mapState fun builder => { b with builder } := by
  induction entries generalizing b with
  | nil => rfl
  | cons entry entries ih =>
    rw [addAll, add, List.map_cons, Builder.addAll, Builder.step]
    cases b.builder.add entry with
    | ok u builder => exact ih _
    | error e builder => rfl

/-! A fill is refused the slots, or refused the heap, or comes to what adding the entries comes
to. -/

variable {entries : List Entry}

theorem fill_of_slots_refused (refuses : ¬ pool.Grants (b.slotDebt entries.length)) :
    b.fill pool entries =
      .error (.allocationFailed pool.name (b.slotDebt entries.length) pool.available)
        (b, pool.refuse) := by
  rw [fill, chargeSlots_of_not_grants refuses]

theorem fill_of_heap_refused (grants : pool.Grants (b.slotDebt entries.length))
    (refuses : ¬ (pool.grown (b.slotDebt entries.length)).Grants (Entry.heapNeed entries)) :
    b.fill pool entries =
      .error
        (.allocationFailed pool.name (Entry.heapNeed entries)
          (pool.grown (b.slotDebt entries.length)).available)
        (b.paidFor entries.length, (pool.grown (b.slotDebt entries.length)).refuse) := by
  rw [fill, chargeSlots_of_grants grants]
  simp only [heapBytes_eq, charge_of_not_grants refuses, Pool.name_grown]

theorem fill_of_grants (grants : pool.Grants (b.slotDebt entries.length))
    (grants' : (pool.grown (b.slotDebt entries.length)).Grants (Entry.heapNeed entries)) :
    b.fill pool entries =
      (Builder.addAll (entries.map some) b.builder).mapState fun builder =>
        ({ b.paidFor entries.length with
            builder
            held := ⟨b.held.bytes + b.slotDebt entries.length + Entry.heapNeed entries⟩ },
          (pool.grown (b.slotDebt entries.length)).grown (Entry.heapNeed entries)) := by
  rw [fill, chargeSlots_of_grants grants]
  simp only [heapBytes_eq, charge_of_grants grants', addAll_eq]
  show Outcome.mapState _ (Outcome.mapState _ (Builder.addAll _ b.builder)) = _
  cases Builder.addAll (entries.map some) b.builder <;> rfl

theorem fill_of_overruns (paid : b.length + entries.length ≤ b.reservedSlots)
    (asked : Entry.heapNeed entries ≠ 0) (beyond : pool.Overruns (Entry.heapNeed entries)) :
    b.fill pool entries =
      .error (.allocationFailed pool.name (Entry.heapNeed entries) pool.available)
        (b, pool.refuse) := by
  obtain ⟨nothing, same⟩ := slotDebt_of_covered paid
  have refused : b.fill pool entries = _ := fill_of_heap_refused (nothing ▸ pool.grants_zero) (by
    rw [nothing, Pool.grown_zero]
    exact Pool.not_grants_iff.mpr ⟨asked, beyond⟩)
  rwa [nothing, same, Pool.grown_zero] at refused

theorem fill_of_not_overruns (paid : b.length + entries.length ≤ b.reservedSlots)
    (fits : ¬ pool.Overruns (Entry.heapNeed entries)) :
    b.fill pool entries =
      (Builder.addAll (entries.map some) b.builder).mapState fun builder =>
        ({ b with builder, held := ⟨b.held.bytes + Entry.heapNeed entries⟩ },
          pool.grown (Entry.heapNeed entries)) := by
  obtain ⟨nothing, same⟩ := slotDebt_of_covered paid
  have filled : b.fill pool entries = _ := fill_of_grants (nothing ▸ pool.grants_zero) (by
    rw [nothing, Pool.grown_zero]
    exact .inr fits)
  rwa [nothing, same, Pool.grown_zero, Nat.add_zero] at filled

end PooledBuilder

namespace Schema

variable {kind : NameKind} {schema : Schema kind} {entries : List Entry}

theorem finishChecked_eq (schema : Schema kind) (b : PooledBuilder) (pool : Pool) :
    schema.finishChecked b pool =
      .ofExcept (b.builder.finish.bind schema.checked) (b.drop pool) := by
  rw [finishChecked, PooledBuilder.finish]
  cases b.builder.finish <;> rfl

/-- **What writing entries costs.**  The pool is asked for the slots, then for the heap, and then
the entries are written; afterwards it holds what it held before. -/
theorem charges_write (empty : schema.start.length = 0)
    (own : ∀ entry ∈ entries, Unrefused entry.datum) {pool : Pool}
    (peak : pool.inUse ≤ pool.peak) :
    pool.Charges (schema.slotNeed entries) (Entry.heapNeed entries) (schema.encode entries)
      (schema.write entries pool) := by
  have opened : schema.openBuilder pool entries.length =
      (pool.acquire (schema.slotNeed entries)).map fun () =>
        ⟨schema.start, ⟨schema.slotNeed entries⟩, schema.slotBytes, entries.length⟩ := by
    rw [openBuilder, Pool.reserve, slotNeed, ← Size.mulSat]
    cases pool.acquire (Size.mulSat entries.length schema.slotBytes) <;> rfl
  have paid (held : Reservation) : PooledBuilder.length
        ⟨schema.start, held, schema.slotBytes, entries.length⟩ + entries.length ≤
      entries.length := by
    rw [PooledBuilder.length, empty, Nat.zero_add]
  refine .of_cases (unrefused_encode own) (fun beyond => ?_) (fun fits beyond => ?_) fun fits => ?_
  · rw [write, opened, Pool.acquire_of_overruns beyond, ← Pool.refuse_eq_charged peak]
    rfl
  · have some_heap : Entry.heapNeed entries ≠ 0 := fun none => fits (by rwa [none] at beyond)
    refine ⟨Nat.pos_of_ne_zero some_heap, ?_⟩
    rw [write, opened, Pool.acquire_of_not_overruns fits, Outcome.map]
    simp only
    rw [PooledBuilder.fill_of_overruns (paid _) some_heap ((Pool.overruns_grant _ _ _).mpr beyond),
      ← Pool.release_refuse_grant]
    rfl
  · have fits_slots : ¬ pool.Overruns (schema.slotNeed entries) := fun beyond => fits beyond.mono
    rw [write, opened, Pool.acquire_of_not_overruns fits_slots, Outcome.map]
    simp only
    rw [PooledBuilder.fill_of_not_overruns (paid _) fun beyond =>
      fits ((Pool.overruns_grant _ _ _).mp beyond), ← Pool.release_grown, encode]
    cases Builder.addAll (entries.map some) schema.start with
    | error e b => rfl
    | ok u b => exact finishChecked_eq schema _ _

end Schema

/-! ## The types of the library -/

theorem Collection.unrefused_values? {α : Type} (c : Collection α) : Unrefused c.values? := by
  cases c with
  | null count pos => exact .error rfl
  | _ => exact .ok

theorem TensorBuffer.unrefused_checkedDatum (b : TensorBuffer) : Unrefused b.checkedDatum := by
  rw [checkedDatum]
  split
  · exact .error rfl
  · exact .ok

theorem TensorData.unrefused_validate (t : TensorData) : Unrefused t.validate := by
  rw [validate]
  refine .bind ?_ fun expected => ?_
  · rw [elementCount]
    refine .bind t.shape.unrefused_values? fun dims => ?_
    split
    · exact .ok
    · exact .error rfl
  · split
    · exact .error rfl
    · dsimp only
      split
      · exact .error rfl
      · exact .ok

theorem TensorData.unrefused_checkedDatum (t : TensorData) : Unrefused t.checkedDatum :=
  .bind t.unrefused_validate fun _ => .ok

theorem Readable.length_start {α : Type} {kind : NameKind} [Loggable α kind] [Readable α] :
    (Loggable.schema α).start.length = 0 := by
  have start := newBuilder_eq_holding (α := α) 0
  rw [Loggable.newBuilder] at start
  rw [start, Builder.length_holding, List.length_nil]

namespace LibraryType

/-- No value is rejected with the refusal of a pool. -/
theorem unrefused_entry (t : LibraryType) (v : t.Value) : Unrefused (Loggable.entry v).datum := by
  cases t with
  | tensorBuffer => exact TensorBuffer.unrefused_checkedDatum v
  | tensorData => exact TensorData.unrefused_checkedDatum v
  | tensorComponent => exact TensorData.unrefused_checkedDatum v.value
  | _ => exact .ok

theorem unrefused_entries (t : LibraryType) (values : List t.Value) :
    ∀ entry ∈ values.map Loggable.entry, Unrefused entry.datum := by
  intro entry mem
  obtain ⟨v, -, rfl⟩ := List.mem_map.mp mem
  exact t.unrefused_entry v

end LibraryType

theorem encode_markers (archetype : Name .archetype) (count : Nat) :
    (indicatorSchema archetype).encode (List.replicate count marker) = .ok (.null count) := by
  have markers : ∀ entry, some entry ∈ (List.replicate count marker).map some → entry = marker := by
    intro entry mem
    rw [List.map_replicate] at mem
    exact Option.some.inj (List.eq_of_mem_replicate mem)
  have added := addAll_markers markers 0
  rw [List.length_map, List.length_replicate, Nat.zero_add] at added
  rw [Schema.encode, show (indicatorSchema archetype).start = .null 0 from rfl, added]
  rfl

theorem heapNeed_markers (count : Nat) : Entry.heapNeed (List.replicate count marker) = 0 := by
  rw [Entry.heapNeed, List.map_replicate, List.sum_replicate]
  simp [marker, Entry.ofDatum, Entry.heapBytes]

/-- Marks ask for no byte. -/
theorem charges_markers (archetype : Name .archetype) (count : Nat) {pool : Pool}
    (peak : pool.inUse ≤ pool.peak) :
    pool.Charges 0 0 (.ok (.null count))
      ((indicatorSchema archetype).write (List.replicate count marker) pool) := by
  have own : ∀ entry ∈ List.replicate count marker, Unrefused entry.datum := fun entry mem => by
    rw [List.eq_of_mem_replicate mem]
    exact .ok
  have empty : (indicatorSchema archetype).start.length = 0 := rfl
  have charges := Schema.charges_write empty own peak
  rw [encode_markers, heapNeed_markers] at charges
  have none : (indicatorSchema archetype).slotNeed (List.replicate count marker) = 0 :=
    Nat.min_eq_left (Nat.zero_le _)
  rwa [none] at charges

/-- **What writing costs.**  For every loggable type, the pool is asked for the bytes of the slots
and then, if there are any, for those that the values keep on the heap, both cut at the largest
word.  It refuses exactly what leaves the word or its capacity, and reports what it had left then;
nothing that becomes of the values is such a report.  What is in use comes back in every case.
Where the bytes of a value are no number, the program stops between the two requests.  Indicators
ask for no byte. -/
theorem LibraryType.write_charges :
    (∀ (t : LibraryType) (values : List t.Value) (pool : Pool), pool.Reachable →
      pool.Charges
        (min (values.length * (Loggable.schema t.Value).slotBytes) Size.largest)
        (min (values.map fun v => (Loggable.entry v).heapBytes).sum Size.largest)
        ((Loggable.schema t.Value).encode (values.map Loggable.entry))
        (Loggable.write values pool)) ∧
    ∀ (archetype : Name .archetype) (count : Nat) (pool : Pool), pool.Reachable →
      pool.Charges 0 0 (.ok (.null count))
        ((indicatorSchema archetype).write (List.replicate count marker) pool) := by
  constructor
  · intro t values pool reachable
    have charges := Schema.charges_write (Readable.length_start (α := t.Value))
      (t.unrefused_entries values) reachable.inUse_le_peak
    rw [Schema.slotNeed, Entry.heapNeed, List.length_map, List.map_map] at charges
    exact charges
  · intro archetype count pool reachable
    exact charges_markers archetype count reachable.inUse_le_peak

/-- A pool that has room for the slot of a tensor but not for its elements, and one that is full. -/
theorem LibraryType.write_charges_tensor :
    let t : TensorData := .ofSizes [2] ⟨.u8, .borrowed [1, 2]⟩
    let tight : Pool := ⟨"tight", some 120, 10, 10, 1, 0⟩
    let full : Pool := ⟨"full", some 10, 10, 10, 1, 0⟩
    (tight.Reachable ∧ full.Reachable) ∧
      Loggable.write [t] tight =
        .error (.allocationFailed "tight" 34 14) ⟨"tight", some 120, 10, 106, 2, 1⟩ ∧
      (indicatorSchema (.ofShort "Points")).write (List.replicate 3 marker) full =
        .ok (.null 3) ⟨"full", some 10, 10, 10, 2, 0⟩ := by
  intro t tight full
  have reach : tight.Reachable := ⟨"tight", some 120, [.reserve 10], by simp [Size.largest], rfl⟩
  have reach' : full.Reachable := ⟨"full", some 10, [.reserve 10], by simp [Size.largest], rfl⟩
  refine ⟨⟨reach, reach'⟩, ?_, ?_⟩
  · exact ((write_charges.1 .tensorData [t] tight reach).heap_refused (by decide) (by decide)).2
  · exact (write_charges.2 (.ofShort "Points") 3 full reach').granted (by decide)

end ColumnLog
