/-!
# Hexadecimal numbers

* `Text.hexDigits` writes a number without leading zeros, `Text.hexFixed` with a given number of
  digits.
* `Text.hexNumber?` reads a number in digits of either case.
-/

set_option autoImplicit false

namespace ColumnLog
namespace Text

/-- The lower-case hexadecimal digits of `n`, without leading zeros. -/
def hexDigits (n : Nat) : String := String.ofList (Nat.toDigits 16 n)

/-- The last `count` lower-case hexadecimal digits of `n`. -/
def hexFixed : Nat → Nat → List Char
  | 0, _ => []
  | count + 1, n => hexFixed count (n / 16) ++ [Nat.digitChar (n % 16)]

/-- The value of a hexadecimal digit, of either case. -/
def hexValue? (c : Char) : Option Nat :=
  if c.isDigit then some (c.toNat - '0'.toNat)
  else if 'a' ≤ c ∧ c ≤ 'f' then some (c.toNat - 'a'.toNat + 10)
  else if 'A' ≤ c ∧ c ≤ 'F' then some (c.toNat - 'A'.toNat + 10)
  else none

/-- The number that hexadecimal digits write. -/
def hexNumber? (cs : List Char) : Option Nat :=
  cs.foldlM (fun n c => (hexValue? c).map (16 * n + ·)) 0

theorem hexValue?_digitChar {d : Nat} (h : d < 16) : hexValue? (Nat.digitChar d) = some d := by
  revert d
  decide

theorem length_hexFixed (count n : Nat) : (hexFixed count n).length = count := by
  induction count generalizing n with
  | zero => rfl
  | succ count ih => simp [hexFixed, ih]

/-- The digits are those of the number. -/
theorem hexNumber?_hexFixed {count n : Nat} (h : n < Nat.pow 16 count) :
    hexNumber? (hexFixed count n) = some n := by
  induction count generalizing n with
  | zero =>
    have : n = 0 := by simpa using h
    subst this
    rfl
  | succ count ih =>
    have step : Nat.pow 16 (count + 1) = Nat.pow 16 count * 16 := rfl
    have high : hexNumber? (hexFixed count (n / 16)) = some (n / 16) := ih (by omega)
    have low := hexValue?_digitChar (Nat.mod_lt n (by decide : 0 < 16))
    unfold hexNumber? at high ⊢
    rw [hexFixed, List.foldlM_append, high]
    simp only [Option.bind_eq_bind, Option.bind_some, List.foldlM_cons, List.foldlM_nil, low,
      Option.map_some]
    simp [Nat.div_add_mod]

end Text
end ColumnLog
