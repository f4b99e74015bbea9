/-!
# Blank characters

The characters with the Unicode property `White_Space`, and text without them at its ends.

* `Text.isBlank` is the property, `Text.trim` cuts blank characters from both ends.
-/

set_option autoImplicit false

namespace ColumnLog
namespace Text

/-- The property `White_Space`, as ranges of code points with both ends included. -/
def blankRanges : List (Nat × Nat) :=
  [(0x9, 0xd), (0x20, 0x20), (0x85, 0x85), (0xa0, 0xa0), (0x1680, 0x1680), (0x2000, 0x200a),
    (0x2028, 0x2029), (0x202f, 0x202f), (0x205f, 0x205f), (0x3000, 0x3000)]

/-- Whether the character is blank. -/
def isBlank (c : Char) : Bool :=
  blankRanges.any fun (first, last) => decide (first ≤ c.toNat) && decide (c.toNat ≤ last)

/-- The characters without the blank ones in front and behind. -/
def trimChars (cs : List Char) : List Char :=
  ((cs.dropWhile isBlank).reverse.dropWhile isBlank).reverse

/-- The text without the blank characters in front and behind. -/
def trim (s : String) : String := String.ofList (trimChars s.toList)

/-- Whether the text has no character but blank ones. -/
def isAllBlank (s : String) : Bool := s.toList.all isBlank

theorem dropWhile_eq_nil_iff_all (p : Char → Bool) (cs : List Char) :
    cs.dropWhile p = [] ↔ cs.all p = true := by
  induction cs with
  | nil => simp
  | cons c cs ih => by_cases h : p c = true <;> simp [h, ih]

theorem all_dropWhile (p : Char → Bool) (cs : List Char) :
    (cs.dropWhile p).all p = cs.all p := by
  induction cs with
  | nil => rfl
  | cons c cs ih => by_cases h : p c = true <;> simp [h, ih]

/-- Trimming leaves nothing exactly of text that is all blank. -/
theorem trimChars_eq_nil_iff (cs : List Char) : trimChars cs = [] ↔ cs.all isBlank = true := by
  rw [trimChars, List.reverse_eq_nil_iff, dropWhile_eq_nil_iff_all, List.all_reverse,
    all_dropWhile]

end Text
end ColumnLog
