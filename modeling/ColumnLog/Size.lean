/-!
# Machine sizes

Slots, elements and bytes are counted by natural numbers, but a count that leaves the 64-bit word
does not exist for a caller.  This file names that bound and the two ways in which arithmetic meets
it:

* `Size.addSat` and `Size.mulSat` stop at the largest word;
* `Size.add?` and `Size.mul?` refuse to leave the word.

Where offsets are stored in 32 bits, `Size.signed32` is what a count reads as there.
-/

set_option autoImplicit false

namespace ColumnLog
namespace Size

/-- The largest count that fits a 64-bit word. -/
def largest : Nat := 0xffffffffffffffff

/-- The largest 32-bit signed integer: a list has no offset beyond it. -/
def largestOffset : Nat := 0x7fffffff

/-- The sum, or the largest word if the sum does not fit. -/
def addSat (a b : Nat) : Nat := min (a + b) largest

/-- The product, or the largest word if the product does not fit. -/
def mulSat (a b : Nat) : Nat := min (a * b) largest

/-- The count, if it fits a word. -/
def word? (n : Nat) : Option Nat := if n ≤ largest then some n else none

/-- The sum, if it fits a word. -/
def add? (a b : Nat) : Option Nat := word? (a + b)

/-- The product, if it fits a word. -/
def mul? (a b : Nat) : Option Nat := word? (a * b)

/-- The count as a 32-bit signed integer, which keeps its low bits. -/
def signed32 (n : Nat) : Int :=
  let low := n % 0x100000000
  if low ≤ largestOffset then low else (low : Int) - 0x100000000

/-- The smallest multiple of `width` that is not below `n`. -/
def nextMultiple (n width : Nat) : Nat := (n + width - 1) / width * width

theorem addSat_le (a b : Nat) : addSat a b ≤ largest := Nat.min_le_right _ _

theorem mulSat_le (a b : Nat) : mulSat a b ≤ largest := Nat.min_le_right _ _

theorem addSat_eq_of_le {a b : Nat} (h : a + b ≤ largest) : addSat a b = a + b :=
  Nat.min_eq_left h

theorem mulSat_eq_of_le {a b : Nat} (h : a * b ≤ largest) : mulSat a b = a * b :=
  Nat.min_eq_left h

theorem word?_eq_none_iff {n : Nat} : word? n = none ↔ ¬ n ≤ largest := by
  simp [word?]

/-- A sum with a sum in it is there if all of it fits the word. -/
theorem bind_add? (a b c : Nat) : (add? b c).bind (add? a) = word? (a + (b + c)) := by
  rw [add?, word?]
  split
  · rfl
  · next beyond => exact (word?_eq_none_iff.mpr (by omega)).symm

theorem bind_word? (a b : Nat) : ((word? a).bind fun a => add? a b) = word? (a + b) := by
  rw [word?]
  split
  · rfl
  · next beyond => exact (word?_eq_none_iff.mpr (by omega)).symm

/-- Refusing to leave the word, and then stopping at it, is stopping at it. -/
theorem getD_word? (n : Nat) : (word? n).getD largest = min n largest := by
  rw [word?]
  split
  · next le => exact (Nat.min_eq_left le).symm
  · next beyond => exact (Nat.min_eq_right (Nat.le_of_not_le beyond)).symm

theorem signed32_eq_of_le {n : Nat} (h : n ≤ largestOffset) : signed32 n = n := by
  have low : n % 0x100000000 = n := by
    unfold largestOffset at h
    omega
  simp [signed32, low, h]

/-- A count never reads as more than it is. -/
theorem signed32_le (n : Nat) : signed32 n ≤ n := by
  simp only [signed32]
  split <;> omega

end Size
end ColumnLog
