/-!
# Masks

Which slots of a column are present.  A column without nulls keeps only the number of its slots.

* `Mask.ofSlots` takes one truth value per slot; `Mask.ofRecorded` takes the slots that a builder
  recorded and the length that the column has.
* `Mask.nullAt` tells whether a slot is null, `Mask.hasNull` whether any is.
-/

set_option autoImplicit false

namespace ColumnLog

/-- Which slots are present. -/
inductive Mask where
  /-- All of `length` slots. -/
  | full (length : Nat)
  /-- One truth value per slot: null slots are false. -/
  | marked (slots : Array Bool)
  deriving DecidableEq

namespace Mask

/-- The mask of a column of `length` slots whose builder recorded these: without a null among them
the length is left to the column. -/
def ofRecorded (slots : Array Bool) (length : Nat) : Mask :=
  if slots.any not then marked slots else full length

/-- The mask with one truth value per slot. -/
def ofSlots (slots : Array Bool) : Mask := ofRecorded slots slots.size

/-- The number of slots. -/
def size : Mask → Nat
  | full length => length
  | marked slots => slots.size

/-- Whether slot `i` is null. -/
def nullAt : Mask → Nat → Bool
  | full _, _ => false
  | marked slots, i => slots[i]? == some false

/-- Whether there is a null slot. -/
def hasNull : Mask → Bool
  | full _ => false
  | marked slots => slots.any not

@[simp]
theorem size_ofSlots (slots : Array Bool) : (ofSlots slots).size = slots.size := by
  unfold ofSlots ofRecorded
  split <;> rfl

/-- There is a null slot exactly if some slot is null. -/
theorem hasNull_iff (m : Mask) : m.hasNull = true ↔ ∃ i, m.nullAt i = true := by
  cases m with
  | full length => simp [hasNull, nullAt]
  | marked slots =>
    simp only [hasNull, nullAt, Array.any_eq_true, beq_iff_eq, Array.getElem?_eq_some_iff]
    constructor
    · rintro ⟨i, h, hi⟩
      exact ⟨i, h, by simpa using hi⟩
    · rintro ⟨i, h, hi⟩
      exact ⟨i, h, by simp [hi]⟩

/-- Without a null slot no slot is null. -/
theorem nullAt_eq_false (m : Mask) (i : Nat) (h : m.hasNull = false) : m.nullAt i = false :=
  Bool.eq_false_iff.mpr fun hi => Bool.eq_false_iff.mp h (m.hasNull_iff.mpr ⟨i, hi⟩)

/-- The slots that were recorded null are null, and no other ones. -/
theorem nullAt_ofRecorded (slots : Array Bool) (length i : Nat) :
    (ofRecorded slots length).nullAt i = (slots[i]? == some false) := by
  unfold ofRecorded
  split
  · rfl
  · next h =>
    have h : (marked slots).hasNull ≠ true := h
    rw [Ne, hasNull_iff] at h
    exact (Bool.eq_false_iff.mpr fun hi => h ⟨i, hi⟩).symm

theorem nullAt_ofSlots (slots : Array Bool) (i : Nat) :
    (ofSlots slots).nullAt i = (slots[i]? == some false) :=
  nullAt_ofRecorded slots slots.size i

end Mask
end ColumnLog
