import ColumnLog.Proofs.Impartial
import ColumnLog.Proofs.Layout

/-!
# Filling in chunks

A builder may be filled in one go or chunk by chunk, while others take bytes from its pool and give
them back.  The slots paid for in advance are used up first, and from there on every slot is paid
for as it comes.  So the chunks make no difference: neither to what is held for the builder, nor to
the column that it is finished into.

* `PooledBuilder.Filling` are the histories of a builder: chunks that were all added, and what
  others did to the pool in between.
* `PooledBuilder.Balance` is the account of a builder after some entries;
  `PooledBuilder.Balance.fill` is the step, `PooledBuilder.Filling.balance` the whole history.
* `Chunked` is what follows for a builder at any point of its history, and `chunks_exact` says so of
  every loggable type and of indicators.
-/

set_option autoImplicit false

namespace ColumnLog

/-! ## Requests that are granted -/

namespace Pool

variable {pool pool' : Pool} {bytes : Nat} {e : LogError}

theorem inUse_of_acquire_ok (ok : pool.acquire bytes = .ok () pool') :
    pool'.inUse = pool.inUse + bytes := by
  rw [acquire] at ok
  split at ok
  · cases ok
    rfl
  · cases ok

theorem inUse_of_acquire_error (error : pool.acquire bytes = .error e pool') :
    pool'.inUse = pool.inUse := by
  rw [acquire] at error
  split at error
  · cases error
  · cases error
    rfl

end Pool

namespace PooledBuilder

variable {kind : NameKind} {schema : Schema kind} {capacity : Nat} {entries more : List Entry}
  {chunks : List (List Entry)} {b b' : PooledBuilder} {pool pool' : Pool} {others : Nat}

/-- What a fill that succeeds does to a builder and its pool. -/
structure Filled (b : PooledBuilder) (pool : Pool) (entries : List Entry) (b' : PooledBuilder)
    (pool' : Pool) : Prop where
  added : Builder.addAll (entries.map some) b.builder = .ok () b'.builder
  slotBytes : b'.slotBytes = b.slotBytes
  reservedSlots : b'.reservedSlots = max b.reservedSlots (Size.addSat b.length entries.length)
  held : b'.held.bytes = b.held.bytes + b.slotDebt entries.length + Entry.heapNeed entries
  inUse : pool'.inUse = pool.inUse + b.slotDebt entries.length + Entry.heapNeed entries

/-- A fill that succeeds was granted the slots and the heap. -/
theorem filled_of_fill (ok : b.fill pool entries = .ok () (b', pool')) :
    b.Filled pool entries b' pool' := by
  by_cases grants : pool.Grants (b.slotDebt entries.length)
  · by_cases grants' : (pool.grown (b.slotDebt entries.length)).Grants (Entry.heapNeed entries)
    · rw [fill_of_grants grants grants'] at ok
      cases added : Builder.addAll (entries.map some) b.builder with
      | error e left => rw [added] at ok; cases ok
      | ok u left =>
        rw [added] at ok
        cases ok
        refine ⟨added, rfl, rfl, rfl, ?_⟩
        rw [Pool.inUse_grown, Pool.inUse_grown]
    · rw [fill_of_heap_refused grants grants'] at ok
      cases ok
  · rw [fill_of_slots_refused grants] at ok
    cases ok

/-! ## The account of a builder -/

/-- The bytes for some entries: those of the slots, of which some are paid for in advance, and those
that the entries keep on the heap. -/
def cost (schema : Schema kind) (capacity : Nat) (entries : List Entry) : Nat :=
  schema.slotBytes * max capacity entries.length + (entries.map Entry.heapBytes).sum

/-- Whether the slots and the bytes are no more than a machine word counts. -/
structure Representable (schema : Schema kind) (capacity : Nat) (entries : List Entry) : Prop where
  slots : max capacity entries.length ≤ Size.largest
  bytes : cost schema capacity entries ≤ Size.largest

theorem cost_append (schema : Schema kind) (capacity : Nat) (entries more : List Entry) :
    cost schema capacity (entries ++ more) = cost schema capacity entries +
      (entries.length + more.length - max capacity entries.length) * schema.slotBytes +
      (more.map Entry.heapBytes).sum := by
  have slots : max capacity (entries.length + more.length) = max capacity entries.length +
      (entries.length + more.length - max capacity entries.length) := by omega
  rw [cost, cost, List.length_append, slots, Nat.mul_add, List.map_append, List.sum_append,
    Nat.mul_comm schema.slotBytes (_ - _)]
  omega

theorem Representable.of_append (fits : Representable schema capacity (entries ++ more)) :
    Representable schema capacity entries := by
  obtain ⟨slots, bytes⟩ := fits
  rw [List.length_append] at slots
  rw [cost_append] at bytes
  exact ⟨by omega, by omega⟩

/-- Slots paid for in advance only cost more. -/
theorem cost_zero_le (schema : Schema kind) (capacity : Nat) (entries : List Entry) :
    cost schema 0 entries ≤ cost schema capacity entries := by
  refine Nat.add_le_add_right (Nat.mul_le_mul_left _ ?_) _
  omega

theorem need_le_cost (schema : Schema kind) (entries : List Entry) :
    schema.slotNeed entries + Entry.heapNeed entries ≤ cost schema 0 entries := by
  refine Nat.add_le_add ?_ (Nat.min_le_left _ _)
  rw [Schema.slotNeed, Nat.mul_comm, Nat.max_eq_right (Nat.zero_le _)]
  exact Nat.min_le_left _ _

/-- The account of a builder that some entries were added to, while others hold so many bytes. -/
structure Balance (schema : Schema kind) (capacity : Nat) (entries : List Entry)
    (b : PooledBuilder) (pool : Pool) (others : Nat) : Prop where
  added : Builder.addAll (entries.map some) schema.start = .ok () b.builder
  slotBytes : b.slotBytes = schema.slotBytes
  reservedSlots : b.reservedSlots = max capacity entries.length
  held : b.held.bytes = cost schema capacity entries
  inUse : pool.inUse = b.held.bytes + others

theorem Balance.length (balance : Balance schema capacity entries b pool others)
    (empty : schema.start.length = 0) : b.length = entries.length := by
  have length := Builder.length_addAll balance.added
  rwa [empty, Nat.zero_add, List.length_map] at length

theorem balance_opened (fits : Representable schema capacity [])
    (ok : schema.openBuilder pool capacity = .ok b pool') :
    Balance schema capacity [] b pool' pool.inUse := by
  have bytes := fits.bytes
  have all : Size.mulSat capacity schema.slotBytes = cost schema capacity [] := by
    rw [cost, List.length_nil, List.map_nil, List.sum_nil, Nat.max_eq_left (Nat.zero_le _),
      Nat.mul_comm, Nat.add_zero] at bytes ⊢
    exact Nat.min_eq_left bytes
  rw [Schema.openBuilder, Pool.reserve] at ok
  cases acquired : pool.acquire (Size.mulSat capacity schema.slotBytes) with
  | error e left => rw [acquired] at ok; cases ok
  | ok u left =>
    have inUse := Pool.inUse_of_acquire_ok acquired
    rw [acquired] at ok
    cases ok
    refine ⟨rfl, rfl, (Nat.max_eq_left (Nat.zero_le _)).symm, all, ?_⟩
    rw [inUse, Nat.add_comm]

/-- **The account after one more chunk.**  The slots that are paid for are used up before others are
paid for, and no slot is paid for twice. -/
theorem Balance.fill (balance : Balance schema capacity entries b pool others)
    (empty : schema.start.length = 0) (fits : Representable schema capacity (entries ++ more))
    (ok : b.fill pool more = .ok () (b', pool')) :
    Balance schema capacity (entries ++ more) b' pool' others := by
  obtain ⟨added, slotBytes, reservedSlots, held, inUse⟩ := filled_of_fill ok
  have slots := fits.slots
  have bytes := fits.bytes
  rw [List.length_append] at slots
  rw [cost_append] at bytes
  have wanted : Size.addSat b.length more.length = entries.length + more.length := by
    rw [balance.length empty]
    exact Size.addSat_eq_of_le (by omega)
  have debt : b.slotDebt more.length =
      (entries.length + more.length - max capacity entries.length) * schema.slotBytes := by
    have paid : max (max capacity entries.length) entries.length = max capacity entries.length := by
      omega
    rw [slotDebt, wanted, balance.length empty, balance.reservedSlots, balance.slotBytes, paid]
    exact Size.mulSat_eq_of_le (by omega)
  have heap : Entry.heapNeed more = (more.map Entry.heapBytes).sum :=
    Nat.min_eq_left (by omega)
  refine ⟨?_, slotBytes.trans balance.slotBytes, ?_, ?_, ?_⟩
  · rw [List.map_append, Builder.addAll_append balance.added, added]
  · rw [reservedSlots, wanted, balance.reservedSlots, List.length_append]
    omega
  · rw [held, balance.held, debt, heap, cost_append]
  · rw [inUse, held, balance.inUse]
    omega

/-! ## Histories -/

/-- The histories of a builder: it is opened and then filled with chunks, while others take bytes
from the pool, are refused some, and give theirs back. -/
inductive Filling (schema : Schema kind) (capacity : Nat) :
    List (List Entry) → PooledBuilder → Pool → Nat → Prop where
  | opened {pool pool' : Pool} {b : PooledBuilder}
    (ok : schema.openBuilder pool capacity = .ok b pool') :
    Filling schema capacity [] b pool' pool.inUse
  | filled {chunks : List (List Entry)} {b b' : PooledBuilder} {pool pool' : Pool} {others : Nat}
    {chunk : List Entry} (earlier : Filling schema capacity chunks b pool others)
    (ok : b.fill pool chunk = .ok () (b', pool')) :
    Filling schema capacity (chunks ++ [chunk]) b' pool' others
  | taken {chunks : List (List Entry)} {b : PooledBuilder} {pool pool' : Pool} {others bytes : Nat}
    (earlier : Filling schema capacity chunks b pool others)
    (ok : pool.acquire bytes = .ok () pool') :
    Filling schema capacity chunks b pool' (others + bytes)
  | refused {chunks : List (List Entry)} {b : PooledBuilder} {pool pool' : Pool}
    {others bytes : Nat} {e : LogError} (earlier : Filling schema capacity chunks b pool others)
    (error : pool.acquire bytes = .error e pool') :
    Filling schema capacity chunks b pool' others
  | given {chunks : List (List Entry)} {b : PooledBuilder} {pool : Pool} {others bytes : Nat}
    (earlier : Filling schema capacity chunks b pool others) (le : bytes ≤ others) :
    Filling schema capacity chunks b (pool.release bytes) (others - bytes)

/-- The account of a builder at any point of its history. -/
theorem Filling.balance (filling : Filling schema capacity chunks b pool others)
    (empty : schema.start.length = 0) (fits : Representable schema capacity chunks.flatten) :
    Balance schema capacity chunks.flatten b pool others := by
  induction filling with
  | opened ok => exact balance_opened fits ok
  | filled earlier ok ih =>
    rw [List.flatten_append, List.flatten_singleton] at fits ⊢
    exact (ih fits.of_append).fill empty fits ok
  | taken earlier ok ih =>
    have before := ih fits
    refine { before with inUse := ?_ }
    rw [Pool.inUse_of_acquire_ok ok, before.inUse, Nat.add_assoc]
  | refused earlier error ih =>
    have before := ih fits
    refine { before with inUse := ?_ }
    rw [Pool.inUse_of_acquire_error error, before.inUse]
  | @given _ b pool others bytes earlier le ih =>
    have before := ih fits
    refine { before with inUse := ?_ }
    show pool.inUse - bytes = _
    rw [before.inUse]
    omega

/-- What holds of a builder at any point of its history, for all entries that were added to it. -/
structure Chunked (schema : Schema kind) (capacity : Nat) (entries : List Entry)
    (b : PooledBuilder) (pool : Pool) (others : Nat) : Prop where
  length : b.length = entries.length
  held : b.held.bytes = schema.slotBytes * max capacity entries.length +
    (entries.map Entry.heapBytes).sum
  inUse : pool.inUse = b.held.bytes + others
  /-- Dropped, the builder leaves what others hold. -/
  dropped : (b.drop pool).inUse = others
  /-- Finished, it comes to the column of all entries, and leaves the same. -/
  finished : schema.finishChecked b pool = .ofExcept (schema.encode entries) (b.drop pool)

theorem Balance.chunked (balance : Balance schema capacity entries b pool others)
    (empty : schema.start.length = 0) : Chunked schema capacity entries b pool others := by
  refine ⟨balance.length empty, balance.held, balance.inUse, ?_, ?_⟩
  · show pool.inUse - b.held.bytes = others
    rw [balance.inUse, Nat.add_sub_cancel_left]
  · rw [Schema.finishChecked_eq, Schema.encode, balance.added]

end PooledBuilder

/-! ## The types of the library -/

open PooledBuilder

/-- Values that were all added make a column, unless there are too many of them. -/
theorem LibraryType.exists_encode (t : LibraryType) {values : List t.Value} {later : Builder}
    (added : Builder.addAll ((values.map Loggable.entry).map some) (Loggable.schema t.Value).start =
      .ok () later)
    (few : values.length ≤ Size.largestOffset) :
    ∃ c, (Loggable.schema t.Value).encode (values.map Loggable.entry) = .ok c ∧
      c.length = values.length := by
  refine ⟨_, Readable.encode_of_addAll few added, ?_⟩
  rw [← Loggable.steps_map_some] at added
  rw [DataType.length_columnOf, Builder.length_slotsOf_of_addAll added, Loggable.steps,
    List.length_map, List.length_map]

theorem flatten_replicate_markers (counts : List Nat) :
    (counts.map (List.replicate · marker)).flatten = List.replicate counts.sum marker := by
  induction counts with
  | nil => rfl
  | cons count counts ih =>
    rw [List.map_cons, List.flatten_cons, ih, List.replicate_append_replicate, List.sum_cons]

/-- Marks cost nothing. -/
theorem cost_markers (archetype : Name .archetype) (capacity count : Nat) :
    cost (indicatorSchema archetype).toSchema capacity (List.replicate count marker) = 0 := by
  have slots : (indicatorSchema archetype).slotBytes = 0 := rfl
  have heap : marker.heapBytes = 0 := rfl
  rw [cost, slots, Nat.zero_mul, List.map_replicate, heap, List.sum_replicate_nat, Nat.mul_zero]

/-- Values in chunks are accounted for as the values in one row. -/
theorem PooledBuilder.Filling.balance_values {α : Type} {kind : NameKind} [Loggable α kind]
    [Readable α] {capacity : Nat} {chunks : List (List α)} {b : PooledBuilder} {pool : Pool}
    {others : Nat}
    (filling : Filling (Loggable.schema α) capacity (chunks.map (·.map Loggable.entry)) b pool
      others)
    (fits : Representable (Loggable.schema α) capacity (chunks.flatten.map Loggable.entry)) :
    Balance (Loggable.schema α) capacity (chunks.flatten.map Loggable.entry) b pool others := by
  rw [List.map_flatten] at fits ⊢
  exact filling.balance (Readable.length_start (α := α)) fits

/-- Marks in chunks are accounted for as the marks in one row. -/
theorem PooledBuilder.Filling.balance_markers {archetype : Name .archetype} {capacity : Nat}
    {counts : List Nat} {b : PooledBuilder} {pool : Pool} {others : Nat}
    (filling : Filling (indicatorSchema archetype).toSchema capacity
      (counts.map (List.replicate · marker)) b pool others)
    (slots : max capacity counts.sum ≤ Size.largest) :
    Balance (indicatorSchema archetype).toSchema capacity (List.replicate counts.sum marker)
      b pool others := by
  have fits : Representable (indicatorSchema archetype).toSchema capacity
      (List.replicate counts.sum marker) := by
    refine ⟨by rwa [List.length_replicate], ?_⟩
    rw [cost_markers]
    exact Nat.zero_le _
  rw [← flatten_replicate_markers] at fits ⊢
  exact filling.balance rfl fits

/-- A builder that was filled with values is finished to what they come to at once. -/
theorem PooledBuilder.Chunked.result_eq_write {t : LibraryType} {capacity : Nat}
    {values : List t.Value} {b : PooledBuilder} {pool : Pool} {others : Nat}
    (chunked : Chunked (Loggable.schema t.Value) capacity (values.map Loggable.entry) b pool others)
    {q : Pool} (reachable : q.Reachable)
    (enough : cost (Loggable.schema t.Value) 0 (values.map Loggable.entry) ≤ q.room) :
    ((Loggable.schema t.Value).finishChecked b pool).result = (Loggable.write values q).result := by
  rw [chunked.finished, Outcome.result_ofExcept]
  exact ((t.foreseen_write values).granted q reachable
    (Nat.le_trans (need_le_cost _ _) enough)).symm

/-- **Chunks make no difference.**  For every loggable type and every capacity, a builder that was
filled with chunks has a slot for every value, holds the bytes of the slots, of at least as many as
were paid for in advance, and those that the values keep on the heap, and gives all of them back
when it is dropped or finished.  It is finished to what all values come to when they are written at
once, on a fresh standard pool or any pool that has room for them; and that is a column, unless
there are more values than offsets count.  Indicators hold no byte. -/
theorem chunks_exact :
    (∀ (t : LibraryType) (capacity : Nat) (chunks : List (List t.Value)) (b : PooledBuilder)
      (pool : Pool) (others : Nat),
      Filling (Loggable.schema t.Value) capacity (chunks.map (·.map Loggable.entry)) b pool others →
      Representable (Loggable.schema t.Value) capacity (chunks.flatten.map Loggable.entry) →
      Chunked (Loggable.schema t.Value) capacity (chunks.flatten.map Loggable.entry) b pool others ∧
      (∀ q : Pool, q.Reachable →
        cost (Loggable.schema t.Value) 0 (chunks.flatten.map Loggable.entry) ≤ q.room →
        ((Loggable.schema t.Value).finishChecked b pool).result =
          (Loggable.write chunks.flatten q).result) ∧
      ((Loggable.schema t.Value).finishChecked b pool).result =
        (Loggable.write chunks.flatten .standard).result ∧
      (chunks.flatten.length ≤ Size.largestOffset →
        ∃ c, ((Loggable.schema t.Value).finishChecked b pool).result = .ok c ∧
          c.length = chunks.flatten.length)) ∧
    ∀ (archetype : Name .archetype) (capacity : Nat) (counts : List Nat) (b : PooledBuilder)
      (pool : Pool) (others : Nat),
      Filling (indicatorSchema archetype).toSchema capacity (counts.map (List.replicate · marker))
        b pool others →
      max capacity counts.sum ≤ Size.largest →
      Chunked (indicatorSchema archetype).toSchema capacity (List.replicate counts.sum marker)
        b pool others ∧
      b.held.bytes = 0 ∧
      ((indicatorSchema archetype).finishChecked b pool).result = .ok (.null counts.sum) := by
  constructor
  · intro t capacity chunks b pool others filling fits
    have balance := filling.balance_values fits
    have chunked := balance.chunked (Readable.length_start (α := t.Value))
    refine ⟨chunked, fun q => chunked.result_eq_write,
      chunked.result_eq_write Pool.reachable_standard ?_, fun few => ?_⟩
    · exact Nat.le_trans (cost_zero_le _ capacity _) fits.bytes
    · obtain ⟨c, ok, length⟩ := t.exists_encode balance.added few
      exact ⟨c, by rw [chunked.finished, Outcome.result_ofExcept, ok], length⟩
  · intro archetype capacity counts b pool others filling fits
    have balance := filling.balance_markers fits
    have chunked := balance.chunked rfl
    refine ⟨chunked, balance.held.trans (cost_markers archetype capacity counts.sum), ?_⟩
    rw [chunked.finished, Outcome.result_ofExcept, encode_markers]

/-- Two slots paid for in advance and three values in two chunks, while another takes ten bytes. -/
theorem chunks_exact_dimensions :
    ∃ b pool,
      Filling (Loggable.schema TensorDimension) 2
        ([[TensorDimension.named 3 "rows"], [.unnamed 4, .named 2 "rgb"]].map
          (·.map Loggable.entry)) b pool 10 ∧
      b.length = 3 ∧ b.held.bytes = 103 ∧ pool.inUse = 113 ∧ (b.drop pool).inUse = 10 ∧
      ((Loggable.schema TensorDimension).finishChecked b pool).result =
        (Loggable.write [TensorDimension.named 3 "rows", .unnamed 4, .named 2 "rgb"]
          .standard).result ∧
      ∃ c, ((Loggable.schema TensorDimension).finishChecked b pool).result = .ok c ∧
        c.length = 3 := by
  obtain ⟨b₀, p₀, b₁, p₁, p₂, b, p, opened, one, taken, two⟩ :
      ∃ b₀ p₀ b₁ p₁ p₂ b₂ p₃,
        (Loggable.schema TensorDimension).openBuilder (.bounded "shared" 200) 2 = .ok b₀ p₀ ∧
        b₀.fill p₀ ([TensorDimension.named 3 "rows"].map Loggable.entry) = .ok () (b₁, p₁) ∧
        p₁.acquire 10 = .ok () p₂ ∧
        b₁.fill p₂ ([TensorDimension.unnamed 4, .named 2 "rgb"].map Loggable.entry) =
          .ok () (b₂, p₃) :=
    ⟨_, _, _, _, _, _, _, rfl, rfl, rfl, rfl⟩
  have filling := (((Filling.opened opened).filled one).taken taken).filled two
  obtain ⟨chunked, -, standard, column⟩ := chunks_exact.1 .tensorDimension 2
    [[.named 3 "rows"], [.unnamed 4, .named 2 "rgb"]] b p 10 filling
    ⟨by decide, by decide +kernel⟩
  have held : b.held.bytes = 103 := chunked.held
  have inUse : p.inUse = 103 + 10 := by rw [chunked.inUse, held]
  exact ⟨b, p, filling, chunked.length, held, inUse, chunked.dropped, standard,
    column (by decide)⟩

end ColumnLog
