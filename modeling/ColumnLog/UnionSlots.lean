import ColumnLog.Error

/-!
# The slots of a dense union

A dense union records, slot by slot, the child that holds the slot and the place in that child.
The children are filled elsewhere; here it is counted how far each of them is used.

* `UnionSlots.record` records a slot in the child with the given id, `UnionSlots.pushNulls` null
  ones; `UnionSlots.accepts` tells which ids there are.
* `UnionSlots.used` is the number of slots that a child holds.
-/

set_option autoImplicit false

namespace ColumnLog

/-- The slots recorded so far. -/
structure UnionSlots where
  /-- For every id, the number of slots recorded under it. -/
  counts : Array Nat
  /-- The id of every slot. -/
  typeIds : Array Nat
  /-- The place of every slot in its child. -/
  offsets : Array Nat
  deriving DecidableEq

namespace UnionSlots

/-- No slots yet, in a union whose fields have the given ids. -/
def empty (ids : List Nat) : UnionSlots := ⟨Array.replicate (ids.foldl max 0 + 1) 0, #[], #[]⟩

/-- The number of slots. -/
def length (u : UnionSlots) : Nat := u.typeIds.size

/-- The number of slots recorded under an id. -/
def used (u : UnionSlots) (id : Nat) : Nat := u.counts[id]?.getD 0

/-- Records a slot under an id, at the next place of its child. -/
def record (u : UnionSlots) (id : Nat) : UnionSlots :=
  ⟨u.counts.setIfInBounds id (u.used id + 1), u.typeIds.push id, u.offsets.push (u.used id)⟩

/-- Whether slots can be recorded under the id. -/
def accepts (u : UnionSlots) (id : Int) : Bool :=
  decide (0 ≤ id) && decide (id.toNat < u.counts.size)

/-- Records null slots. -/
def pushNulls (count : Nat) (u : UnionSlots) : UnionSlots := Nat.repeat (record · 0) count u

@[simp]
theorem length_record (u : UnionSlots) (id : Nat) : (u.record id).length = u.length + 1 := by
  simp [length, record]

@[simp]
theorem size_counts_record (u : UnionSlots) (id : Nat) :
    (u.record id).counts.size = u.counts.size := by
  simp [record]

theorem used_record {u : UnionSlots} {id : Nat} (h : id < u.counts.size) (k : Nat) :
    (u.record id).used k = if k = id then u.used id + 1 else u.used k := by
  by_cases hk : k = id
  · subst hk; simp [used, record, h]
  · simp [used, record, hk, Array.getElem?_setIfInBounds_ne (Ne.symm hk)]

end UnionSlots
end ColumnLog
