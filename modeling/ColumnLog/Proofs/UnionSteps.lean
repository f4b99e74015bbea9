import ColumnLog.Proofs.Dense

/-!
# The slots of a union, step by step

The slots of a union are recorded apart from its children.  A slot takes the next place of the child
that its id names, a null slot the next marker, and an id that belongs to no field is refused.  So
the places of a child are counted without looking at the child, and only when the union is put
together is it asked whether they are there.

* `UnionStep` is a step on the slots, `UnionStep.run` the union after some of them, and
  `UnionStep.run_opened` says which ids are then recorded.
* `UnionSlots.assemble` puts the union together over given columns; `UnionSlots.assembles_iff` says
  when it succeeds.
* `UnionStep.run_bookkept` is the result, for every run of steps.
-/

set_option autoImplicit false

namespace ColumnLog

/-- A step on the slots of a union. -/
inductive UnionStep where
  /-- A slot under an id. -/
  | push (id : Int)
  /-- A null slot. -/
  | pushNull
  deriving DecidableEq, Repr

namespace UnionStep

/-- Takes the step; the children are filled separately. -/
def take : UnionStep → Builder → Builder.Appended
  | push id, b => b.recordVariant id
  | pushNull, b => .ok () b.appendNull

/-- The union after some steps; a step that fails does not end the run. -/
def run (b : Builder) (steps : List UnionStep) : Builder :=
  steps.foldl (fun b s => (s.take b).state) b

/-- How many of the steps succeed. -/
def successes : List UnionStep → Builder → Nat
  | [], _ => 0
  | s :: steps, b =>
    match s.take b with
    | .ok () b => successes steps b + 1
    | .error _ b => successes steps b

/-- The id under which a step records its slot in a union of `n` variants. -/
def id? (n : Nat) : UnionStep → Option Nat
  | push id => if 0 ≤ id ∧ id ≤ n then some id.toNat else none
  | pushNull => some 0

/-- The ids that the steps record, in order. -/
def ids (n : Nat) (steps : List UnionStep) : List Nat := steps.filterMap (id? n)

/-- A union of the given variants, without slots. -/
def opened (variants : List Field) (children : List Builder) : Builder :=
  .union (List.range (variants.length + 1)) (DataType.nullMarkers :: variants) children

/-- A union of the given variants, with slots under the given ids. -/
def recorded (variants : List Field) (children : List Builder) (ids : List Nat) : Builder :=
  .denseUnion (List.range (variants.length + 1)) (DataType.nullMarkers :: variants)
    (.recorded (List.range (variants.length + 1)) ids) children

variable {variants : List Field} {children : List Builder} {tags : List Nat}
  {steps : List UnionStep}

/-! ## Steps -/

theorem opened_eq_recorded (variants : List Field) (children : List Builder) :
    opened variants children = recorded variants children [] := by
  rw [recorded, ← UnionSlots.empty_eq_recorded]
  simp [opened, Builder.union]

theorem recordVariant_of_known {id : Int} (known : 0 ≤ id ∧ id ≤ variants.length) :
    (recorded variants children tags).recordVariant id =
      .ok () (recorded variants children (tags ++ [id.toNat])) := by
  have top : id.toNat ≤ (List.range (variants.length + 1)).foldl max 0 := by
    rw [foldl_max_range]
    omega
  rw [recorded, Builder.recordVariant, if_pos (UnionSlots.accepts_recorded _ _ known.1 top),
    UnionSlots.record_recorded _ _ top]
  rfl

theorem recordVariant_of_unknown {id : Int} (unknown : ¬ (0 ≤ id ∧ id ≤ variants.length)) :
    (recorded variants children tags).recordVariant id =
      .error (.unknownTypeId id) (recorded variants children tags) := by
  have refused :
      (UnionSlots.recorded (List.range (variants.length + 1)) tags).accepts id ≠ true := by
    simp only [UnionSlots.accepts, UnionSlots.recorded, foldl_max_range, List.size_toArray,
      List.length_map, List.length_range, Ne, Bool.and_eq_true, decide_eq_true_eq]
    omega
  rw [recorded, Builder.recordVariant, if_neg refused]

/-- What one step does to a union: it records the id of the step, or refuses it. -/
theorem take_recorded (children : List Builder) (tags : List Nat) (s : UnionStep) :
    (∃ id, s.id? variants.length = some id ∧
      s.take (recorded variants children tags) =
        .ok () (recorded variants children (tags ++ [id]))) ∨
    (s.id? variants.length = none ∧ ∃ id, s = push id ∧
      s.take (recorded variants children tags) =
        .error (.unknownTypeId id) (recorded variants children tags)) := by
  cases s with
  | push id =>
    by_cases known : 0 ≤ id ∧ id ≤ variants.length
    · exact .inl ⟨id.toNat, if_pos known, recordVariant_of_known known⟩
    · exact .inr ⟨if_neg known, id, rfl, recordVariant_of_unknown known⟩
  | pushNull =>
    refine .inl ⟨0, rfl, ?_⟩
    rw [take, recorded, Builder.appendNull, Builder.appendNulls, UnionSlots.pushNulls_recorded]
    rfl

theorem run_recorded (steps : List UnionStep) :
    run (recorded variants children tags) steps =
      recorded variants children (tags ++ ids variants.length steps) := by
  induction steps generalizing tags with
  | nil => rw [ids, List.filterMap_nil, List.append_nil]; rfl
  | cons s steps ih =>
    show run (s.take _).state steps = _
    obtain ⟨id, some, ok⟩ | ⟨none, id, -, error⟩ := take_recorded children tags s
    · rw [ok, ids, List.filterMap_cons_some some, ← ids]
      show run (recorded variants children (tags ++ [id])) steps = _
      rw [ih, List.append_assoc, List.singleton_append]
    · rw [error, ids, List.filterMap_cons_none none, ← ids]
      exact ih

/-- **The slots of a run are those of its steps**, less the steps that are refused. -/
theorem run_opened (variants : List Field) (children : List Builder) (steps : List UnionStep) :
    run (opened variants children) steps =
      recorded variants children (ids variants.length steps) := by
  rw [opened_eq_recorded, run_recorded, List.nil_append]

theorem successes_recorded (steps : List UnionStep) :
    successes steps (recorded variants children tags) = (ids variants.length steps).length := by
  induction steps generalizing tags with
  | nil => rfl
  | cons s steps ih =>
    obtain ⟨id, some, ok⟩ | ⟨none, id, -, error⟩ := take_recorded children tags s
    · rw [successes, ok, ids, List.filterMap_cons_some some, List.length_cons, ← ids]
      exact congrArg (· + 1) ih
    · rw [successes, error, ids, List.filterMap_cons_none none, ← ids]
      exact ih

theorem le_of_mem_ids {n id : Nat} (mem : id ∈ ids n steps) : id ≤ n := by
  obtain ⟨s, -, slot⟩ := List.mem_filterMap.mp mem
  cases s with
  | push id' =>
    simp only [id?] at slot
    split at slot
    · cases slot
      omega
    · cases slot
  | pushNull =>
    cases slot
    exact Nat.zero_le n

end UnionStep

/-! ## Putting the union together -/

/-- Whether a slot is taken to point into a child exactly if it does, as it is where the lengths of
the children can be written as offsets. -/
def Column.OffsetsChecked (ids : List Nat) (children : List Column) : Prop :=
  ∀ id k c offset, fieldIndex? ids id = some k → children[k]? = some c →
    (pointsInside ids children id offset = true ↔ offset < c.length)

theorem Column.offsetsChecked_of_le {ids : List Nat} {children : List Column}
    (short : ∀ c ∈ children, c.length ≤ Size.largestOffset) : OffsetsChecked ids children := by
  intro id k c offset index child
  rw [pointsInside, index]
  simp only [child, decide_eq_true_eq]
  rw [Size.signed32_eq_of_le (short c (List.mem_of_getElem? child))]
  omega

/-- The places recorded under an id are counted up from zero. -/
theorem mem_zip_places {tags : List Nat} {id place : Nat} :
    (id, place) ∈ tags.zip (places tags) ↔ place < tags.count id := by
  rw [← List.mem_range, ← filter_zip_places, List.mem_map]
  constructor
  · exact fun mem => ⟨(id, place), List.mem_filter.mpr ⟨mem, beq_self_eq_true id⟩, rfl⟩
  · rintro ⟨⟨id', place'⟩, mem, rfl⟩
    obtain ⟨mem, same⟩ := List.mem_filter.mp mem
    rw [← eq_of_beq same]
    exact mem

/-- Every slot passes a check of ids and places if every place of every id does. -/
theorem all_zipWith_places {tags : List Nat} {check : Nat → Nat → Bool} :
    (List.zipWith check tags (places tags)).all id = true ↔
      ∀ t place, place < tags.count t → check t place = true := by
  rw [← List.map_uncurry_zip_eq_zipWith, List.all_map, List.all_eq_true]
  constructor
  · exact fun all t place lt => all (t, place) (mem_zip_places.mpr lt)
  · exact fun all slot mem => all slot.1 slot.2 (mem_zip_places.mp mem)

namespace UnionSlots

/-- Puts the union of the given variants together over columns for them; the first child has a
marker for each null slot. -/
def assemble (u : UnionSlots) (variants : List Field) (columns : List Column) :
    Except LogError Column :=
  Builder.settle (Column.denseUnion? (List.range (variants.length + 1))
    (DataType.nullMarkers :: variants) u.typeIds u.offsets (.null (u.used 0) :: columns))

variable {variants : List Field} {tags : List Nat} {columns : List Column}

theorem used_zero_recorded (n : Nat) (tags : List Nat) :
    (recorded (List.range (n + 1)) tags).used 0 = tags.count 0 :=
  used_recorded _ _ (Nat.zero_le _)

/-- The union is put together exactly if every slot points into its child. -/
theorem assemble_eq_ok_iff (length : columns.length = variants.length) {c : Column} :
    (recorded (List.range (variants.length + 1)) tags).assemble variants columns = .ok c ↔
      c = .denseUnion (List.range (variants.length + 1)) (DataType.nullMarkers :: variants)
        tags.toArray (places tags).toArray (.null (tags.count 0) :: columns) ∧
      ∀ t place, place < tags.count t → Column.pointsInside (List.range (variants.length + 1))
        (.null (tags.count 0) :: columns) t place = true := by
  have put : Column.denseUnion? (List.range (variants.length + 1))
      (DataType.nullMarkers :: variants) tags.toArray (places tags).toArray
      (.null (tags.count 0) :: columns) =
      if !(List.zipWith (Column.pointsInside (List.range (variants.length + 1))
        (.null (tags.count 0) :: columns)) tags (places tags)).all id then
        Column.unfit "union with a slot that points outside its children"
      else .ok (.denseUnion (List.range (variants.length + 1)) (DataType.nullMarkers :: variants)
        tags.toArray (places tags).toArray (.null (tags.count 0) :: columns)) := by
    rw [Column.denseUnion?, if_neg (by simp [length]), if_neg (by simp)]
  rw [← all_zipWith_places, assemble, used_zero_recorded]
  simp only [recorded]
  rw [put]
  split
  · next outside =>
    rw [Bool.not_eq_true'] at outside
    rw [outside]
    constructor
    · intro ok
      cases ok
    · intro both
      cases both.2
  · next inside =>
    rw [Bool.not_eq_true', Bool.not_eq_false] at inside
    exact ⟨fun ok => ⟨(Except.ok.inj ok).symm, inside⟩, fun h => congrArg Except.ok h.1.symm⟩

/-- All markers are there. -/
theorem pointsInside_markers (few : tags.length ≤ Size.largestOffset) {place : Nat}
    (lt : place < tags.count 0) : Column.pointsInside (List.range (variants.length + 1))
      (.null (tags.count 0) :: columns) 0 place = true := by
  have short : tags.count 0 ≤ Size.largestOffset := Nat.le_trans List.count_le_length few
  have length : (Column.null (tags.count 0)).length = tags.count 0 := rfl
  simp only [Column.pointsInside, DataType.fieldIndex?_range (Nat.succ_pos _),
    List.getElem?_cons_zero, length, decide_eq_true_eq, Size.signed32_eq_of_le short]
  omega

/-- **A union is put together exactly if every child has the places that are recorded in it**, read
in the 32 bits of an offset. -/
theorem assembles_iff (few : tags.length ≤ Size.largestOffset)
    (known : ∀ id ∈ tags, id ≤ variants.length) (length : columns.length = variants.length) :
    (∃ c, (recorded (List.range (variants.length + 1)) tags).assemble variants columns = .ok c) ↔
      ∀ k c, columns[k]? = some c → 0 < tags.count (k + 1) →
        (tags.count (k + 1) : Int) ≤ Size.signed32 c.length := by
  simp only [assemble_eq_ok_iff length, exists_eq_left]
  constructor
  · intro inside k c child pos
    have lt : k < columns.length := (List.getElem?_eq_some_iff.mp child).1
    have last := inside (k + 1) (tags.count (k + 1) - 1) (Nat.sub_one_lt_of_lt pos)
    rw [Column.pointsInside, DataType.fieldIndex?_range (by omega)] at last
    simp only [List.getElem?_cons_succ, child, decide_eq_true_eq] at last
    omega
  · intro long t place lt
    cases t with
    | zero => exact pointsInside_markers few lt
    | succ k =>
      have mem : k + 1 ∈ tags := List.count_pos_iff.mp (Nat.zero_lt_of_lt lt)
      have below := known (k + 1) mem
      have child : columns[k]? = some columns[k] := List.getElem?_eq_getElem (by omega)
      have enough := long k _ child (Nat.zero_lt_of_lt lt)
      rw [Column.pointsInside, DataType.fieldIndex?_range (by omega)]
      simp only [List.getElem?_cons_succ, child, decide_eq_true_eq]
      omega

/-- Where offsets are checked exactly, it is the lengths of the children that count. -/
theorem assembles_iff_of_checked (few : tags.length ≤ Size.largestOffset)
    (known : ∀ id ∈ tags, id ≤ variants.length) (length : columns.length = variants.length)
    (checked : Column.OffsetsChecked (List.range (variants.length + 1))
      (.null (tags.count 0) :: columns)) :
    (∃ c, (recorded (List.range (variants.length + 1)) tags).assemble variants columns = .ok c) ↔
      ∀ k c, columns[k]? = some c → tags.count (k + 1) ≤ c.length := by
  simp only [assemble_eq_ok_iff length, exists_eq_left]
  constructor
  · intro inside k c child
    have lt : k < columns.length := (List.getElem?_eq_some_iff.mp child).1
    have index := DataType.fieldIndex?_range (show k + 1 < variants.length + 1 by omega)
    by_contra less
    have beyond := (checked (k + 1) (k + 1) c c.length index child).mp
      (inside (k + 1) c.length (by omega))
    omega
  · intro long t place lt
    cases t with
    | zero => exact pointsInside_markers few lt
    | succ k =>
      have below := known (k + 1) (List.count_pos_iff.mp (Nat.zero_lt_of_lt lt))
      have child : columns[k]? = some columns[k] := List.getElem?_eq_getElem (by omega)
      have index := DataType.fieldIndex?_range (show k + 1 < variants.length + 1 by omega)
      exact (checked (k + 1) (k + 1) _ place index child).mpr
        (Nat.lt_of_lt_of_le lt (long k _ child))

end UnionSlots

namespace UnionStep

variable {variants : List Field} {children : List Builder} {steps : List UnionStep}

/-! ## The result -/

theorem finish_recorded {tags : List Nat} {columns : List Column}
    (finished : Builder.finishEach children = .ok columns) :
    (recorded variants children tags).finish =
      (UnionSlots.recorded (List.range (variants.length + 1)) tags).assemble variants columns := by
  rw [recorded, Builder.finish, finished]
  rfl

/-- **The bookkeeping of a union.**  After any steps, a slot can be recorded under the ids from zero
to the number of variants; any other id is reported, and the union stays as it is.  There is a slot
for every step that succeeded, under the id of that step, and its place is the number of slots in
front of it with the same id.
The union is finished with a marker for each slot with id zero, and exactly if every child is at
least as long as it has slots: in the 32 bits of an offset, and so by its true length wherever the
check of the offsets goes by that. -/
theorem run_bookkept (variants : List Field) (children : List Builder) (steps : List UnionStep)
    (few : steps.length < 2 ^ 31) :
    let b := run (opened variants children) steps
    (∀ id : Int, ((∃ later, b.recordVariant id = .ok () later) ↔ 0 ≤ id ∧ id ≤ variants.length) ∧
      (¬ (0 ≤ id ∧ id ≤ variants.length) →
        b.recordVariant id = .error (.unknownTypeId id) b)) ∧
    b.length = successes steps (opened variants children) ∧
    ∃ slots, b = .denseUnion (List.range (variants.length + 1)) (DataType.nullMarkers :: variants)
        slots children ∧
      slots.typeIds.toList = ids variants.length steps ∧
      slots.offsets.size = slots.typeIds.size ∧
      (∀ i id, slots.typeIds[i]? = some id →
        slots.offsets[i]? = some ((slots.typeIds.toList.take i).count id)) ∧
      ∀ columns, columns.length = variants.length →
        (Builder.finishEach children = .ok columns →
          b.finish = slots.assemble variants columns) ∧
        (∀ c, slots.assemble variants columns = .ok c →
          c = .denseUnion (List.range (variants.length + 1)) (DataType.nullMarkers :: variants)
            slots.typeIds slots.offsets (.null (slots.typeIds.toList.count 0) :: columns)) ∧
        ((∃ c, slots.assemble variants columns = .ok c) ↔
          ∀ k c, columns[k]? = some c → 0 < slots.typeIds.toList.count (k + 1) →
            (slots.typeIds.toList.count (k + 1) : Int) ≤ Size.signed32 c.length) ∧
        (Column.OffsetsChecked (List.range (variants.length + 1))
            (.null (slots.typeIds.toList.count 0) :: columns) →
          ((∃ c, slots.assemble variants columns = .ok c) ↔
            ∀ k c, columns[k]? = some c → slots.typeIds.toList.count (k + 1) ≤ c.length)) := by
  intro b
  have held : b = recorded variants children (ids variants.length steps) :=
    run_opened variants children steps
  have few' : (ids variants.length steps).length ≤ Size.largestOffset := by
    have := List.length_filterMap_le (id? variants.length) steps
    exact Nat.le_trans this (Nat.le_of_lt_succ few)
  have known : ∀ id ∈ ids variants.length steps, id ≤ variants.length := fun id => le_of_mem_ids
  rw [held]
  refine ⟨fun id => ?_, ?_, _, rfl, rfl, ?_, fun i id tag => ?_,
    fun columns length => ⟨?_, ?_, ?_, ?_⟩⟩
  · by_cases within : 0 ≤ id ∧ id ≤ variants.length
    · exact ⟨iff_of_true ⟨_, recordVariant_of_known within⟩ within, fun h => absurd within h⟩
    · have refused :
          (recorded variants children (ids variants.length steps)).recordVariant id = _ :=
        recordVariant_of_unknown within
      refine ⟨iff_of_false ?_ within, fun _ => refused⟩
      rintro ⟨later, ok⟩
      rw [refused] at ok
      cases ok
  · rw [opened_eq_recorded, successes_recorded]
    exact UnionSlots.length_recorded _ _
  · exact length_places _
  · rw [UnionSlots.recorded, List.getElem?_toArray] at tag ⊢
    exact getElem?_places tag
  · exact finish_recorded
  · exact fun c ok => ((UnionSlots.assemble_eq_ok_iff length).mp ok).1
  · exact UnionSlots.assembles_iff few' known length
  · exact UnionSlots.assembles_iff_of_checked few' known length

/-- Two of seven steps are refused; the other slots find their places in children that are just long
enough. -/
theorem run_bookkept_mixed :
    let steps : List UnionStep :=
      [.push 1, .push (-3), .pushNull, .push 1, .push 3, .push 0, .push 2]
    let b := run (opened [.optional "a" .null, .optional "b" .null] [.null 2, .null 1]) steps
    steps.length < 2 ^ 31 ∧ b.length = 5 ∧ b.recordVariant 3 = .error (.unknownTypeId 3) b ∧
      b.finish = .ok (.denseUnion [0, 1, 2]
        [DataType.nullMarkers, .optional "a" .null, .optional "b" .null]
        #[1, 0, 1, 0, 2] #[0, 0, 1, 1, 0] [.null 2, .null 2, .null 1]) := by
  intro steps b
  obtain ⟨refused, length, slots, held, -, -, -, finish⟩ :=
    run_bookkept [.optional "a" .null, .optional "b" .null] [.null 2, .null 1] steps (by decide)
  have recorded : slots = .recorded [0, 1, 2] [1, 0, 1, 0, 2] := by
    rw [run_opened] at held
    injection held with _ _ slots_eq
    exact slots_eq.symm
  subst recorded
  obtain ⟨finished, layout, -, enough⟩ := finish [.null 2, .null 1] rfl
  have short : ∀ c ∈ [Column.null 2, .null 2, .null 1], c.length ≤ Size.largestOffset := by
    simp [Column.length, Size.largestOffset]
  obtain ⟨c, ok⟩ := (enough (Column.offsetsChecked_of_le short)).mpr fun k c child => by
    rcases k with _ | _ | k <;> cases child <;> decide
  refine ⟨by decide, length, (refused 3).2 (by decide), ?_⟩
  rw [finished rfl, ok, layout c ok]
  rfl

end UnionStep
end ColumnLog
