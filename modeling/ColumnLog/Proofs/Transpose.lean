import ColumnLog.Proofs.Content
import Mathlib.Algebra.GroupWithZero.Nat

/-!
# Slots turned into columns

What a builder holds after slots were added, and the column they make, said in one piece: all slots
are given at once and turned, level by level, into one list for every child.

* `places` counts the slots of a union into its children, `bounds` adds up the lengths of entries.
* `Builder.holding` is the builder that holds the slots; `Builder.new` holds none.
* `DataType.columnOf` is the column of the slots.

Both take one flag for the whole type: whether it is a required part, since flat values that must be
present are zero, not null, under a null slot.
-/

set_option autoImplicit false

namespace ColumnLog

/-! ## Places and bounds -/

/-- For every element, how many equal ones stand in front of it. -/
def places (tags : List Nat) : List Nat :=
  (List.range tags.length).map fun i => (tags.take i).count (tags[i]?.getD 0)

/-- The sums of the lengths in front of every entry, and of all of them. -/
def bounds (lengths : List Nat) : List Nat :=
  (List.range (lengths.length + 1)).map fun i => (lengths.take i).sum

@[simp]
theorem length_places (tags : List Nat) : (places tags).length = tags.length := by simp [places]

@[simp]
theorem length_bounds (lengths : List Nat) : (bounds lengths).length = lengths.length + 1 := by
  simp [bounds]

theorem getElem?_places {tags : List Nat} {i t : Nat} (h : tags[i]? = some t) :
    (places tags)[i]? = some ((tags.take i).count t) := by
  obtain ⟨hi, rfl⟩ := List.getElem?_eq_some_iff.mp h
  simp [places, hi]

theorem getElem?_bounds {lengths : List Nat} {i : Nat} (h : i ≤ lengths.length) :
    (bounds lengths)[i]? = some (lengths.take i).sum := by
  simp [bounds, Nat.lt_succ_of_le h]

theorem places_append_singleton (tags : List Nat) (t : Nat) :
    places (tags ++ [t]) = places tags ++ [tags.count t] := by
  rw [places, List.length_append, List.length_singleton, List.range_succ, List.map_append]
  congr 1
  · refine List.map_congr_left fun i hi => ?_
    have hi : i < tags.length := List.mem_range.mp hi
    rw [List.take_append_of_le_length (Nat.le_of_lt hi), List.getElem?_append_left hi]
  · simp

theorem bounds_append_singleton (lengths : List Nat) (n : Nat) :
    bounds (lengths ++ [n]) = bounds lengths ++ [lengths.sum + n] := by
  rw [bounds, List.length_append, List.length_singleton, List.range_succ, List.map_append]
  congr 1
  · refine List.map_congr_left fun i hi => ?_
    have hi : i < lengths.length + 1 := List.mem_range.mp hi
    rw [List.take_append_of_le_length (by omega)]
  · rw [List.map_singleton, List.take_of_length_le (by simp), List.sum_append, List.sum_singleton]

theorem bounds_append_zeros (lengths : List Nat) (n : Nat) :
    bounds (lengths ++ List.replicate n 0) = bounds lengths ++ List.replicate n lengths.sum := by
  induction n with
  | zero => simp
  | succ n ih =>
    rw [List.replicate_succ', ← List.append_assoc, bounds_append_singleton, ih, List.append_assoc,
      List.replicate_succ', List.sum_append_nat, List.sum_replicate_nat]
    simp

theorem getLast?_bounds (lengths : List Nat) : (bounds lengths).getLast? = some lengths.sum := by
  rw [List.getLast?_eq_getElem?, length_bounds, Nat.add_sub_cancel,
    getElem?_bounds (Nat.le_refl _), List.take_length]

theorem count_take_lt {tags : List Nat} {i t : Nat} (h : tags[i]? = some t) :
    (tags.take i).count t < tags.count t := by
  obtain ⟨hi, rfl⟩ := List.getElem?_eq_some_iff.mp h
  have split : tags.count tags[i] =
      (tags.take i).count tags[i] + (tags.drop i).count tags[i] := by
    rw [← List.count_append, List.take_append_drop]
  rw [List.drop_eq_getElem_cons hi, List.count_cons_self] at split
  omega

/-! ## Builders -/

/-- The slots recorded under the given tags, in a union whose fields have the given ids. -/
def UnionSlots.recorded (ids tags : List Nat) : UnionSlots where
  counts := ((List.range (ids.foldl max 0 + 1)).map fun id => tags.count id).toArray
  typeIds := tags.toArray
  offsets := (places tags).toArray

namespace Builder

/-- What a null slot of flat values holds. -/
def blankOf (required : Bool) (p : Primitive) : Option p.Value :=
  if required then some p.zero else none

mutual

/-- The builder of a column type that holds the given slots. -/
def holding (required : Bool) : DataType → List Datum → Builder
  | .null, data => null data.length
  | .leaf p, data =>
    leaf p (blankOf required p)
      (data.map fun d => (d.scalar? p).or (blankOf required p)).toArray
  | .fixedSizeList item size, data =>
    fixedSizeList item size (data.map Datum.present).toArray
      (holdingField item (data.flatMap (Datum.entryItems size)))
  | .list item, data =>
    list item (bounds (data.map fun d => d.listItems.length)).toArray
      (data.map Datum.present).toArray (holdingField item (data.flatMap Datum.listItems))
  | .struct fields, data =>
    struct fields (data.map Datum.present).toArray (holdingParts fields (data.map Datum.parts))
  | .denseUnion ids fields, data =>
    denseUnion ids fields (.recorded ids (data.map Datum.tag)) (holdingVariants 0 fields data).tail

/-- The builder of a part that holds the given slots. -/
def holdingField : Field → List Datum → Builder
  | ⟨_, type, nullable⟩, data => holding (!nullable) type data

/-- The builders of the parts: each slot is the list of its parts. -/
def holdingParts : List Field → List (List Datum) → List Builder
  | [], _ => []
  | f :: fs, rows =>
    holdingField f (rows.map (·.headD .null)) :: holdingParts fs (rows.map List.tail)

/-- The builders of the variants, the first of which has the given id. -/
def holdingVariants : Nat → List Field → List Datum → List Builder
  | _, [], _ => []
  | id, f :: fs, data => holdingField f (Datum.contents id data) :: holdingVariants (id + 1) fs data

end

end Builder

/-! ## Columns -/

/-- Which slots are present. -/
def Datum.maskOf (data : List Datum) : Mask := .ofSlots (data.map Datum.present).toArray

mutual

/-- The column of the given slots. -/
def DataType.columnOf (required : Bool) : DataType → List Datum → Column
  | .null, data => .null data.length
  | .leaf p, data =>
    .leaf p (data.map fun d => (d.scalar? p).or (Builder.blankOf required p)).toArray
  | .fixedSizeList item size, data =>
    .fixedSizeList item size (Datum.maskOf data)
      (Field.columnOf item (data.flatMap (Datum.entryItems size)))
  | .list item, data =>
    .list item (bounds (data.map fun d => d.listItems.length)).toArray (Datum.maskOf data)
      (Field.columnOf item (data.flatMap Datum.listItems))
  | .struct fields, data =>
    .struct fields (Datum.maskOf data) (Field.partColumns fields (data.map Datum.parts))
  | .denseUnion ids fields, data =>
    .denseUnion ids fields (data.map Datum.tag).toArray (places (data.map Datum.tag)).toArray
      (Field.variantColumns 0 fields data)

/-- The column of a part with the given slots. -/
def Field.columnOf : Field → List Datum → Column
  | ⟨_, type, nullable⟩, data => DataType.columnOf (!nullable) type data

/-- The columns of the parts: each slot is the list of its parts. -/
def Field.partColumns : List Field → List (List Datum) → List Column
  | [], _ => []
  | f :: fs, rows =>
    Field.columnOf f (rows.map (·.headD .null)) :: Field.partColumns fs (rows.map List.tail)

/-- The columns of the variants, the first of which has the given id. -/
def Field.variantColumns : Nat → List Field → List Datum → List Column
  | _, [], _ => []
  | id, f :: fs, data =>
    Field.columnOf f (Datum.contents id data) :: Field.variantColumns (id + 1) fs data

end

end ColumnLog
