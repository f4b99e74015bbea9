import ColumnLog.Proofs.Demand

/-!
# A pool permits, but does not decide

A pool is asked before anything is looked at, and can only refuse.  So what is logged does not
depend on the pool: two pools that do not refuse come to the same result, and more room never turns
a success into anything else.

* `Impartial` says this of a run on a pool.
* `Foreseen` is where it comes from: need and result of the run are given by the data alone, and
  the pool only compares the need with its room.
* `Slot.jointNeed` and `Slot.contents` are need and result of slots that are written in order.
* `logging_impartial` is the result, for columns, cells and archetypes.
-/

set_option autoImplicit false

namespace ColumnLog

/-! ## Runs on a pool -/

/-- Whether a pool has no say in what a run comes to, other than to refuse it. -/
structure Impartial {α : Type} (run : Pool → Outcome Pool α) : Prop where
  /-- Pools that do not refuse come to the same result. -/
  agree : ∀ p q : Pool, p.Reachable → q.Reachable →
    Unrefused (run p).result → Unrefused (run q).result → (run p).result = (run q).result
  /-- What succeeds on a pool succeeds on every pool with as much room. -/
  widen : ∀ p q : Pool, p.Reachable → q.Reachable → p.room ≤ q.room →
    ∀ a, (run p).result = .ok a → (run q).result = .ok a

/-- Whether a run needs so many bytes and comes to this result: a pool with less room refuses it. -/
structure Foreseen {α : Type} (need : Nat) (result : Except LogError α)
    (run : Pool → Outcome Pool α) : Prop where
  granted : ∀ pool : Pool, pool.Reachable → need ≤ pool.room → (run pool).result = result
  refused : ∀ pool : Pool, pool.Reachable → pool.room < need →
    ∃ e, (run pool).result = .error e ∧ e.isRefusal = true

namespace Foreseen

variable {α β : Type} {need : Nat} {result : Except LogError α} {run : Pool → Outcome Pool α}
  {pool : Pool}

theorem need_le (h : Foreseen need result run) (reachable : pool.Reachable)
    (unrefused : Unrefused (run pool).result) : need ≤ pool.room := by
  refine Nat.not_lt.mp fun less => ?_
  obtain ⟨e, error, refusal⟩ := h.refused pool reachable less
  rw [unrefused e error] at refusal
  cases refusal

theorem impartial (h : Foreseen need result run) : Impartial run where
  agree p q reachable reachable' unrefused unrefused' := by
    rw [h.granted p reachable (h.need_le reachable unrefused),
      h.granted q reachable' (h.need_le reachable' unrefused')]
  widen p q reachable reachable' more a ok := by
    have enough : need ≤ p.room := h.need_le reachable (by rw [ok]; exact .ok)
    rw [h.granted q reachable' (Nat.le_trans enough more), ← h.granted p reachable enough, ok]

theorem map (f : α → β) (h : Foreseen need result run) :
    Foreseen need (result.map f) fun pool => (run pool).map f where
  granted pool reachable enough := by
    rw [Outcome.result_map, h.granted pool reachable enough]
  refused pool reachable less := by
    obtain ⟨e, error, refusal⟩ := h.refused pool reachable less
    exact ⟨e, by rw [Outcome.result_map, error]; rfl, refusal⟩

theorem of_charges {slots heap : Nat}
    (charges : ∀ pool : Pool, pool.Reachable → pool.Charges slots heap result (run pool)) :
    Foreseen (slots + heap) result run where
  granted pool reachable enough := by
    have fits : ¬ pool.Overruns (slots + heap) := by
      rwa [reachable.overruns_iff_room_lt, Nat.not_lt]
    rw [(charges pool reachable).granted fits, Outcome.result_ofExcept]
  refused pool reachable less :=
    (charges pool reachable).refused_iff.mpr (.inr (reachable.overruns_iff_room_lt.mpr less))

end Foreseen

/-! ## Slots in order -/

namespace Slot

variable {slot : Slot}

/-- What a slot comes to, pools apart: a null buffer cannot be read. -/
def content (slot : Slot) : Except LogError DataCell :=
  match slot.values.values? with
  | .ok _ => slot.encode
  | .error e => .error e

/-- The cells that slots come to in order, or the error of the first that comes to none. -/
def contents (slots : List Slot) : Except LogError (List DataCell) := slots.mapM content

/-- The bytes that slots need to be written one after the other.  Those behind the first that comes
to no cell are not written. -/
def jointNeed : List Slot → Nat
  | [] => 0
  | slot :: slots =>
    match slot.content with
    | .ok _ => max slot.need (jointNeed slots)
    | .error _ => slot.need

theorem content_of_null (null : slot.values.isNull = true) (pool : Pool) :
    slot.content = (slot.cell pool).result := by
  rw [cell_of_null null, content]
  cases h : slot.values with
  | null count pos => rfl
  | _ => rw [h] at null; cases null

theorem content_of_not_null (readable : slot.values.isNull = false) :
    slot.content = slot.encode := by
  rw [content, Collection.values?_eq_ok_iff.mpr ⟨readable, rfl⟩]

theorem contents_cons_of_ok {cell : DataCell} (h : slot.content = .ok cell) (slots : List Slot) :
    contents (slot :: slots) = (contents slots).map (cell :: ·) := by
  rw [contents, List.mapM_cons, h, contents]
  cases slots.mapM content <;> rfl

theorem contents_cons_of_error {e : LogError} (h : slot.content = .error e) (slots : List Slot) :
    contents (slot :: slots) = .error e := by
  rw [contents, List.mapM_cons, h]
  rfl

theorem jointNeed_cons_of_ok {cell : DataCell} (h : slot.content = .ok cell) (slots : List Slot) :
    jointNeed (slot :: slots) = max slot.need (jointNeed slots) := by
  rw [jointNeed, h]

theorem jointNeed_cons_of_error {e : LogError} (h : slot.content = .error e)
    (slots : List Slot) : jointNeed (slot :: slots) = slot.need := by
  rw [jointNeed, h]

theorem need_le_jointNeed (slot : Slot) (slots : List Slot) :
    slot.need ≤ jointNeed (slot :: slots) := by
  cases h : slot.content with
  | ok cell => rw [jointNeed_cons_of_ok h]; exact Nat.le_max_left _ _
  | error e => rw [jointNeed_cons_of_error h]

/-- A slot is refused exactly if it needs more than there is room for. -/
theorem Lawful.foreseen (lawful : slot.Lawful) : Foreseen slot.need slot.content slot.cell := by
  cases readable : slot.values.isNull with
  | true =>
    rw [need_of_null readable]
    exact ⟨fun pool _ _ => (content_of_null readable pool).symm,
      fun pool _ less => absurd less (Nat.not_lt_zero _)⟩
  | false =>
    rw [content_of_not_null readable]
    exact .of_charges fun pool reachable => lawful.charges readable reachable.inUse_le_peak

end Slot

namespace Composer

variable {slots : List Slot} {pool : Pool}

/-- Pushing slots is refused exactly if they need more than there is room for, one after the other,
and comes to their cells otherwise. -/
theorem foreseen_pushAll (lawful : ∀ s ∈ slots, s.Lawful) (reachable : pool.Reachable)
    (c : Composer) (taken grants : Nat) :
    (Slot.jointNeed slots ≤ pool.room →
      (pushAll slots c (pool.charged taken grants 0)).result =
        (Slot.contents slots).map fun cells => ⟨c.cells ++ cells⟩) ∧
    (pool.room < Slot.jointNeed slots →
      ∃ e, (pushAll slots c (pool.charged taken grants 0)).result = .error e ∧
        e.isRefusal = true) := by
  induction slots generalizing c taken grants with
  | nil =>
    refine ⟨fun _ => ?_, fun less => absurd less (Nat.not_lt_zero _)⟩
    show Except.ok c = .ok ⟨c.cells ++ []⟩
    rw [List.append_nil]
  | cons slot slots ih =>
    have head := lawful slot List.mem_cons_self
    have rest : ∀ s ∈ slots, s.Lawful := fun s mem => lawful s (List.mem_cons_of_mem slot mem)
    have peak := reachable.inUse_le_peak
    -- the slot meets a pool that was charged before, and does not notice it
    have same := head.result_charged peak taken grants 0
    have ends := head.ends (Pool.inUse_le_peak_charged peak taken grants 0)
    rw [pushAll, push]
    rcases Nat.lt_or_ge pool.room slot.need with less | enough
    · have beyond := Nat.lt_of_lt_of_le less (Slot.need_le_jointNeed slot slots)
      obtain ⟨e, error, refusal⟩ := head.foreseen.refused pool reachable less
      rw [error] at same
      rcases ends with ⟨cell, more, ok⟩ | ⟨_, _, _, _, failed⟩
      · rw [ok] at same; cases same
      · rw [failed] at same ⊢
        cases same
        exact ⟨fun fits => absurd beyond (Nat.not_lt.mpr fits), fun _ => ⟨e, rfl, refusal⟩⟩
    · rw [head.foreseen.granted pool reachable enough] at same
      rcases ends with ⟨cell, more, ok⟩ | ⟨_, _, _, _, failed⟩
      · rw [ok] at same ⊢
        obtain ⟨granted, refused⟩ :=
          ih rest ⟨c.cells ++ [cell]⟩ (max taken slot.need) (grants + more)
        rw [Pool.charged_charged, Slot.jointNeed_cons_of_ok same.symm,
          Slot.contents_cons_of_ok same.symm]
        refine ⟨fun fits => ?_, fun less => refused ?_⟩
        · refine (granted (Nat.le_trans (Nat.le_max_right _ _) fits)).trans ?_
          cases Slot.contents slots with
          | ok cells => simp [Except.map]
          | error e => rfl
        · omega
      · rw [failed] at same ⊢
        rw [Slot.jointNeed_cons_of_error same.symm, Slot.contents_cons_of_error same.symm]
        exact ⟨fun _ => rfl, fun less => absurd less (Nat.not_lt.mpr enough)⟩

end Composer

namespace Archetype

variable {α : Type} [Archetype α] {a : α} {pool : Pool}

/-- What an archetype comes to, pools apart. -/
def content (a : α) : Except LogError ArchetypeCells :=
  (Slot.contents (slots a)).map fun cells => ⟨name α, cells ++ [indicator a]⟩

/-- The indicator changes neither what is refused nor what the error is. -/
theorem result_cells (lawful : ∀ slot ∈ slots a, slot.Lawful) (reachable : pool.Reachable) :
    (cells a pool).result = (Composer.pushAll (slots a) {} pool).result.map fun composer =>
      ⟨name α, composer.cells ++ [indicator a]⟩ := by
  have limit := reachable.inUse_le_limit
  have peak := reachable.inUse_le_peak
  have ending := Composer.ending_pushAll lawful peak {} 0 0
  rw [Pool.charged_zero peak] at ending
  rw [cells]
  generalize Composer.pushAll (slots a) {} pool = out at ending ⊢
  cases ending with
  | composed alone =>
    show (Composer.finish _ _ _ _).result = _
    rw [Composer.finish, indicatorCell_eq _ _ (by exact limit)
      (Pool.inUse_le_peak_charged peak _ _ _)]
    rfl
  | failed first alone => rfl

theorem foreseen_cells (lawful : ∀ slot ∈ slots a, slot.Lawful) :
    Foreseen (Slot.jointNeed (slots a)) (content a) (cells a) where
  granted pool reachable enough := by
    have pushed := (Composer.foreseen_pushAll lawful reachable {} 0 0).1 enough
    rw [Pool.charged_zero reachable.inUse_le_peak] at pushed
    rw [result_cells lawful reachable, pushed, content]
    cases Slot.contents (slots a) <;> rfl
  refused pool reachable less := by
    obtain ⟨e, error, refusal⟩ := (Composer.foreseen_pushAll lawful reachable {} 0 0).2 less
    rw [Pool.charged_zero reachable.inUse_le_peak] at error
    exact ⟨e, by rw [result_cells lawful reachable, error]; rfl, refusal⟩

end Archetype

/-! ## What is logged -/

theorem LibraryComponent.unrefused_entry (t : LibraryComponent) (v : t.Value) :
    Unrefused (Loggable.entry v).datum := by
  cases t with
  | tensorData => exact TensorData.unrefused_checkedDatum v.value
  | _ => exact .ok

theorem LibraryComponent.lawful_batch (t : LibraryComponent) (values : Collection t.Value) :
    (Slot.batch values).Lawful :=
  Slot.lawful_batch t.cell_eq t.unrefused_entry values

theorem LibraryType.foreseen_write (t : LibraryType) (values : List t.Value) :
    Foreseen
      ((Loggable.schema t.Value).slotNeed (values.map Loggable.entry) +
        Entry.heapNeed (values.map Loggable.entry))
      ((Loggable.schema t.Value).encode (values.map Loggable.entry)) (Loggable.write values) :=
  .of_charges fun _ reachable => Schema.charges_write (Readable.length_start (α := t.Value))
    (t.unrefused_entries values) reachable.inUse_le_peak

theorem foreseen_indicatorCell (archetype : Name .archetype) (count : Nat) :
    Foreseen 0 (.ok ⟨indicatorName archetype, .null count, .indicator⟩)
      (indicatorCell archetype count) where
  granted pool reachable _ := by
    rw [indicatorCell_eq _ _ reachable.inUse_le_limit reachable.inUse_le_peak]
    rfl
  refused _ _ less := absurd less (Nat.not_lt_zero _)

/-- **A pool permits, but does not decide.**  Columns of every loggable type, cells of every
component, given as a list or as a collection, indicators and archetypes come to the same on all
pools that do not refuse them, whatever those are called, can hold and hold already; and what
succeeds on a pool comes to the same on every pool with as much room. -/
theorem logging_impartial :
    (∀ (t : LibraryType) (values : List t.Value), Impartial (Loggable.write values)) ∧
    (∀ (t : LibraryComponent) (values : List t.Value), Impartial (Component.cellOf values)) ∧
    (∀ (t : LibraryComponent) (values : Collection t.Value),
      Impartial (Component.cellOfCollection values)) ∧
    (∀ (archetype : Name .archetype) (count : Nat),
      Impartial (indicatorCell archetype count)) ∧
    (∀ (t : LibraryArchetype) (a : t.Value), Impartial (Archetype.cells a)) ∧
    ∀ (t : LibraryArchetype) (a : t.Value), Impartial (Archetype.serialize a) := by
  refine ⟨fun t values => (t.foreseen_write values).impartial, fun t values => ?_,
    fun t values => (t.lawful_batch values).foreseen.impartial,
    fun archetype count => (foreseen_indicatorCell archetype count).impartial,
    fun t a => (Archetype.foreseen_cells (t.lawful_slots a)).impartial,
    fun t a => ((Archetype.foreseen_cells (t.lawful_slots a)).map ArchetypeCells.cells).impartial⟩
  -- a list is written as the collection that borrows it
  exact (t.lawful_batch (.borrowed values)).foreseen.impartial

/-- A mesh that fits both of two pools, and one with a null buffer, which neither refuses. -/
theorem logging_impartial_mesh :
    let tight : Pool := ⟨"tight", some 40, 10, 10, 1, 0⟩
    let wide : Pool := ⟨"wide", none, 5, 5, 1, 0⟩
    let mesh : Archetype.Mesh3D :=
      { vertexPositions := .borrowed [⟨.ones⟩, ⟨.ones⟩], classIds := some (.single ⟨⟨7⟩⟩) }
    let broken := mesh.withVertexColors (.null 3 (by decide))
    (tight.Reachable ∧ wide.Reachable ∧ tight.room ≤ wide.room) ∧
      (∃ c, (Archetype.cells mesh tight).result = .ok c ∧
        (Archetype.cells mesh wide).result = .ok c) ∧
      (Unrefused (Archetype.cells broken tight).result ∧
        Unrefused (Archetype.cells broken wide).result) ∧
      (Archetype.cells broken tight).result = (Archetype.cells broken wide).result := by
  intro tight wide mesh broken
  have reach : tight.Reachable := ⟨"tight", some 40, [.reserve 10], by simp [Size.largest], rfl⟩
  have reach' : wide.Reachable := ⟨"wide", none, [.reserve 5], by simp, rfl⟩
  have more : tight.room ≤ wide.room := by decide
  obtain ⟨-, -, -, -, archetypes, -⟩ := logging_impartial
  have ok : (Archetype.cells mesh tight).result.isOk = true := by decide +kernel
  have first : Unrefused (Archetype.cells broken tight).result := by decide +kernel
  have second : Unrefused (Archetype.cells broken wide).result := by decide +kernel
  refine ⟨⟨reach, reach', more⟩, ?_, ⟨first, second⟩,
    (archetypes .mesh3D broken).agree tight wide reach reach' first second⟩
  cases written : (Archetype.cells mesh tight).result with
  | error e => rw [written] at ok; cases ok
  | ok c => exact ⟨c, rfl, (archetypes .mesh3D mesh).widen tight wide reach reach' more c written⟩

end ColumnLog
