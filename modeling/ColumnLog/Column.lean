import ColumnLog.DataType
import ColumnLog.Mask

/-!
# Columns

A finished column: the slots of one type, with the columns below it.

* `Column` holds the parts as they are stored: flat values, the mask of the slots that are present,
  the offsets of lists and unions, and the child columns.
* `Column.type` and `Column.length` are its type and its number of slots.
* `Column.nullAt` tells whether a slot is null; a slot of a union is null when the slot that it
  points to is.
* `Column.mayHoldNull` is the coarse question that list items are asked; where the answer is no, no
  slot is null (`Column.nullAt_eq_false`).
-/

set_option autoImplicit false

namespace ColumnLog

/-- A finished column. -/
inductive Column where
  /-- `count` slots that hold nothing. -/
  | null (count : Nat)
  /-- Flat values; a null slot is `none`. -/
  | leaf (p : Primitive) (slots : Array (Option p.Value))
  /-- Entry `i` has the items `size * i, …, size * i + size - 1`, also where it is null. -/
  | fixedSizeList (item : Field) (size : Nat) (mask : Mask) (items : Column)
  /-- Entry `i` has the items from `offsets[i]` to before `offsets[i + 1]`. -/
  | list (item : Field) (offsets : Array Nat) (mask : Mask) (items : Column)
  /-- Slot `i` consists of slot `i` of every child. -/
  | struct (fields : List Field) (mask : Mask) (children : List Column)
  /-- Slot `i` is slot `offsets[i]` of the child that has the id `typeIds[i]`. -/
  | denseUnion (ids : List Nat) (fields : List Field) (typeIds offsets : Array Nat)
      (children : List Column)

namespace Column

instance : Inhabited Column := ⟨null 0⟩

/-- The type of the column, as its parts declare it. -/
def type : Column → DataType
  | null _ => .null
  | leaf p _ => .leaf p
  | fixedSizeList item size _ _ => .fixedSizeList item size
  | list item _ _ _ => .list item
  | struct fields _ _ => .struct fields
  | denseUnion ids fields _ _ _ => .denseUnion ids fields

/-- The number of slots. -/
def length : Column → Nat
  | null count => count
  | leaf _ slots => slots.size
  | fixedSizeList _ _ mask _ => mask.size
  | list _ _ mask _ => mask.size
  | struct _ mask _ => mask.size
  | denseUnion _ _ typeIds _ _ => typeIds.size

/-- The column's own mask.  Unions and columns of the empty type have no null slots of their own. -/
def mask : Column → Mask
  | null count => .full count
  | leaf _ slots => .ofSlots (slots.map Option.isSome)
  | fixedSizeList _ _ mask _ => mask
  | list _ _ mask _ => mask
  | struct _ mask _ => mask
  | denseUnion _ _ typeIds _ _ => .full typeIds.size

@[simp]
theorem size_mask (c : Column) : c.mask.size = c.length := by
  cases c with
  | leaf => simp [mask, length]
  | _ => rfl

/-- The position of the field with the given id. -/
def fieldIndex? (ids : List Nat) (id : Nat) : Option Nat := ids.findIdx? (· == id)

mutual

/-- Whether slot `i` is null. -/
def nullAt : Column → Nat → Bool
  | null count, i => decide (i < count)
  | leaf _ slots, i => (slots[i]?.map Option.isNone).getD false
  | fixedSizeList _ _ mask _, i => mask.nullAt i
  | list _ _ mask _, i => mask.nullAt i
  | struct _ mask _, i => mask.nullAt i
  | denseUnion ids _ typeIds offsets children, i =>
    match typeIds[i]?, offsets[i]? with
    | some id, some offset =>
      match fieldIndex? ids id with
      | some k => childNullAt children k offset
      | none => false
    | _, _ => false

/-- Whether slot `i` of child `k` is null. -/
def childNullAt : List Column → Nat → Nat → Bool
  | [], _, _ => false
  | c :: _, 0, i => nullAt c i
  | _ :: cs, k + 1, i => childNullAt cs k i

end

mutual

/-- Whether the column cannot be told at a glance to be free of nulls: slots of the empty type
count as nulls, and a union may hold what its children hold, referenced or not. -/
def mayHoldNull : Column → Bool
  | null count => count != 0
  | leaf _ slots => slots.any Option.isNone
  | fixedSizeList _ _ mask _ => mask.hasNull
  | list _ _ mask _ => mask.hasNull
  | struct _ mask _ => mask.hasNull
  | denseUnion _ _ _ _ children => anyMayHoldNull children

/-- Whether one of the columns may hold a null. -/
def anyMayHoldNull : List Column → Bool
  | [] => false
  | c :: cs => mayHoldNull c || anyMayHoldNull cs

end

mutual

/-- A column that is free of nulls at a glance has no null slot. -/
theorem nullAt_eq_false (c : Column) (i : Nat) (h : c.mayHoldNull = false) :
    c.nullAt i = false := by
  cases c with
  | null count => simp_all [mayHoldNull, nullAt]
  | leaf p slots =>
    simp only [mayHoldNull, Array.any_eq_false, nullAt] at h ⊢
    cases hi : slots[i]? with
    | none => rfl
    | some x =>
      obtain ⟨hlt, rfl⟩ := Array.getElem?_eq_some_iff.mp hi
      exact Bool.eq_false_iff.mpr (h i hlt)
  | fixedSizeList item size mask items => exact mask.nullAt_eq_false i h
  | list item offsets mask items => exact mask.nullAt_eq_false i h
  | struct fields mask children => exact mask.nullAt_eq_false i h
  | denseUnion ids fields typeIds offsets children =>
    have h := childNullAt_eq_false children
    simp only [nullAt]
    split
    · split
      · exact h _ _ ‹_›
      · rfl
    · rfl

/-- Columns that are free of nulls at a glance have no null slot. -/
theorem childNullAt_eq_false (cs : List Column) (k i : Nat) (h : anyMayHoldNull cs = false) :
    childNullAt cs k i = false := by
  cases cs with
  | nil => rfl
  | cons c cs =>
    simp only [anyMayHoldNull, Bool.or_eq_false_iff] at h
    cases k with
    | zero => exact nullAt_eq_false c i h.1
    | succ k => exact childNullAt_eq_false cs k i h.2

end

end Column
end ColumnLog
