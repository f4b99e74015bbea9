import ColumnLog.Column
import ColumnLog.Error
import ColumnLog.Size

/-!
# Putting columns together

A column is put together from its parts only if the parts fit: types agree with the declared
fields, lengths and offsets stay inside the children, and a required field has no null outside the
null slots of its parent.

* `Column.fixedSizeList?`, `Column.list?`, `Column.struct?` and `Column.denseUnion?` check the parts
  and give the column, or the fault.
-/

set_option autoImplicit false

namespace ColumnLog
namespace Column

/-- The result of putting a column together. -/
abbrev Assembled := Except AssemblyFault Column

/-- A fault of the parts. -/
def unfit (text : String) : Assembled := .error (.invalidArgument text)

/-- Whether every null slot lies where `masked` allows it.  The slots are not looked through if
none of them can be null. -/
def nullsMasked (c : Column) (masked : Nat → Bool) : Bool :=
  !c.mayHoldNull || Nat.all c.length fun i _ => !c.nullAt i || masked i

theorem nullsMasked_iff (c : Column) (masked : Nat → Bool) :
    c.nullsMasked masked = true ↔ ∀ i < c.length, c.nullAt i = true → masked i = true := by
  unfold nullsMasked
  cases h : c.mayHoldNull with
  | false => simp [nullAt_eq_false c _ h]
  | true => simp [Nat.all_eq_finRange_all, Fin.forall_iff, Decidable.imp_iff_not_or]

/-- Entries of `size` items each. -/
def fixedSizeList? (item : Field) (size : Nat) (mask : Array Bool) (items : Column) : Assembled :=
  let length := if size = 0 then (if mask.any not then mask.size else 0) else items.length / size
  let settled := Mask.ofRecorded mask length
  if settled.size ≠ length then unfit "fixed-size list with a mask of another length"
  else if item.type ≠ items.type then unfit "fixed-size list over items of another type"
  else if !item.nullable && !items.nullsMasked (fun j => settled.nullAt (j / size)) then
    unfit "fixed-size list with a null among its required items"
  else .ok (fixedSizeList item size settled items)

/-- Entries delimited by offsets; items behind the last offset belong to no entry. -/
def list? (item : Field) (offsets : Array Nat) (mask : Array Bool) (items : Column) : Assembled :=
  if items.length < offsets.back?.getD 0 then unfit "list with an offset behind its items"
  else if mask.size + 1 ≠ offsets.size then unfit "list with a mask of another length"
  else if !item.nullable && items.mayHoldNull then unfit "list with a null among its required items"
  else if item.type ≠ items.type then unfit "list over items of another type"
  else .ok (list item offsets (.ofSlots mask) items)

/-- Whether child `c` may stand for field `f` in a struct with the given mask. -/
def fitsField (mask : Mask) (f : Field) (c : Column) : Bool :=
  decide (f.type = c.type) && decide (c.length = mask.size) &&
    (f.nullable || c.nullsMasked mask.nullAt)

/-- One value per field; as long as its first child. -/
def struct? (fields : List Field) (mask : Array Bool) (children : List Column) : Assembled :=
  let length := (children.head?.map Column.length).getD 0
  let settled := Mask.ofRecorded mask length
  if fields.length ≠ children.length then unfit "struct with another number of children"
  else if settled.size ≠ length then unfit "struct with a mask of another length"
  else if !(List.zipWith (fitsField settled) fields children).all id then
    unfit "struct with a child that does not fit its field"
  else .ok (struct fields settled children)

/-- Whether a slot with this id and offset points into one of the children.  A child counts as long
as its length reads in the 32 bits of an offset; that is less than it has where they do not hold it.
-/
def pointsInside (ids : List Nat) (children : List Column) (id offset : Nat) : Bool :=
  match fieldIndex? ids id with
  | some k => match children[k]? with
    | some c => decide ((offset : Int) < Size.signed32 c.length)
    | none => false
  | none => false

/-- A slot that points into one of the children stays inside it. -/
theorem lt_length_of_pointsInside {ids : List Nat} {children : List Column} {id offset : Nat}
    (h : pointsInside ids children id offset = true) :
    ∃ k c, fieldIndex? ids id = some k ∧ children[k]? = some c ∧ offset < c.length := by
  unfold pointsInside at h
  split at h
  · next k hk =>
    split at h
    · next c hc =>
      have := Size.signed32_le c.length
      have := of_decide_eq_true h
      exact ⟨k, c, hk, hc, by omega⟩
    · simp at h
  · simp at h

/-- A value of one of the children per slot.  The types of the children are not looked at. -/
def denseUnion? (ids : List Nat) (fields : List Field) (typeIds offsets : Array Nat)
    (children : List Column) : Assembled :=
  if fields.length ≠ children.length then unfit "union with another number of children"
  else if offsets.size ≠ typeIds.size then unfit "union with another number of offsets"
  else if !(List.zipWith (pointsInside ids children) typeIds.toList offsets.toList).all id then
    unfit "union with a slot that points outside its children"
  else .ok (denseUnion ids fields typeIds offsets children)

end Column
end ColumnLog
