import ColumnLog.Binary

/-!
# Decimal forms of floats

The diagnostic form of a single-precision number: the fewest digits that lie nearer to it than to
any other number, with an exponent where many zeros would stand otherwise.

* `Binary32.shortest?` finds the digits.
* `Binary32.debug` writes them.
-/

set_option autoImplicit false

namespace ColumnLog
namespace Binary32

/-- Everything between the bounds rounds to the number itself.  All three are in units of
`2 ^ -151`. -/
structure Surroundings where
  lower : Nat
  number : Nat
  upper : Nat
  /-- Whether the bounds themselves round to the number. -/
  closed : Bool

/-- The surroundings of a finite magnitude.  Below the first number with a given exponent the
neighbours are twice as close as above it. -/
def surroundings (magnitude : Nat) : Surroundings :=
  let number := 4 * units magnitude
  let gap := 1 <<< scale magnitude
  let near := magnitude % 0x800000 = 0 ∧ scale magnitude ≠ 0
  { lower := number - if near then gap else 2 * gap
    number
    upper := number + 2 * gap
    closed := magnitude % 2 == 0 }

/-- The multiple of `10 ^ exponent` that rounds to the number, if there is one; the nearer one of
two. -/
def multiple? (s : Surroundings) (exponent : Int) : Option Nat :=
  let up := Nat.pow 10 (-exponent).toNat
  let unit := Nat.pow 10 exponent.toNat <<< 151
  let slack := if s.closed then 0 else 1
  let low := s.number * up / unit
  let fitsLow := s.lower * up + slack ≤ low * unit
  let fitsHigh := (low + 1) * unit + slack ≤ s.upper * up
  let lowNearer := 2 * (s.number * up % unit) < unit
  if fitsLow ∧ (lowNearer ∨ ¬ fitsHigh) then some low
  else if fitsHigh then some (low + 1)
  else none

/-- The fewest digits that round to a finite magnitude, as a multiple of a power of ten. -/
def shortest? (magnitude : Nat) : Option (Nat × Int) :=
  (List.range 85).findSome? fun (i : Nat) =>
    let exponent : Int := 39 - i
    (multiple? (surroundings magnitude) exponent).map (·, exponent)

/-- Digits with a decimal point behind the first `point` of them, and with zeros where digits are
missing around it. -/
def positional (digits : List Char) (point : Int) : List Char :=
  let zeros (n : Int) : List Char := List.replicate n.toNat '0'
  if point ≤ 0 then '0' :: '.' :: (zeros (-point) ++ digits)
  else if digits.length ≤ point then digits ++ zeros (point - digits.length) ++ ['.', '0']
  else digits.take point.toNat ++ '.' :: digits.drop point.toNat

/-- Digits with a decimal point behind the first one, and a power of ten. -/
def scientific (digits : List Char) (exponent : Int) : List Char :=
  (match digits with
    | d :: e :: rest => d :: '.' :: e :: rest
    | digits => digits) ++ 'e' :: (toString exponent).toList

/-- The text of a finite magnitude. -/
def finiteText (magnitude : Nat) : List Char :=
  match shortest? magnitude with
  | some (n + 1, exponent) =>
    let digits := Nat.toDigits 10 (n + 1)
    let point := digits.length + exponent
    if point < -3 ∨ 16 < point then scientific digits (point - 1) else positional digits point
  | _ => ['0', '.', '0']

/-- The diagnostic form. -/
def debug (x : Binary32) : String :=
  if x.isNaN then "NaN"
  else
    (if x.isNegative then "-" else "") ++
      if x.magnitude = infinity then "inf" else String.ofList (finiteText x.magnitude)

end Binary32
end ColumnLog
