import ColumnLog.Toml.Quoted
import ColumnLog.Toml.Value

/-!
# Numbers in TOML

Integers of 64 bits with a sign, and floating-point numbers of double precision.  A single
underscore may stand between two digits.

* `Toml.integer?` reads decimal integers, and hexadecimal, octal and binary ones behind `0x`, `0o`
  and `0b`.
* `Toml.float?` reads everything with a fraction or an exponent, and the words for infinity and for
  no number.  Numbers that round to infinity are refused, unless they have a minus sign.
-/

set_option autoImplicit false

namespace ColumnLog
namespace Toml

/-! ## Digits -/

/-- The value of a digit to a base of at most sixteen. -/
def digit? (base : Nat) (c : Char) : Option Nat := (Text.hexValue? c).filter (decide <| · < base)

/-- Reads digits up to the first character that cannot follow. -/
def moreDigits (base : Nat) : List Char → List Nat × List Char
  | [] => ([], [])
  | '_' :: c :: cs =>
    match digit? base c with
    | some d => let (ds, rest) := moreDigits base cs; (d :: ds, rest)
    | none => ([], '_' :: c :: cs)
  | c :: cs =>
    match digit? base c with
    | some d => let (ds, rest) := moreDigits base cs; (d :: ds, rest)
    | none => ([], c :: cs)

/-- Reads at least one digit. -/
def digits? (base : Nat) : Reader (List Nat)
  | [] => none
  | c :: cs => (digit? base c).map fun d => let (ds, rest) := moreDigits base cs; (d :: ds, rest)

/-- The number that digits write, the highest in front. -/
def ofDigits (base : Nat) (ds : List Nat) : Nat := ds.foldl (fun n d => base * n + d) 0

/-- Reads the digits in front of a decimal point: nothing follows a zero. -/
def whole? : Reader (List Nat)
  | '0' :: cs => some ([0], cs)
  | cs => digits? 10 cs

/-- Whether there is a minus sign, and the text behind the sign. -/
def sign : List Char → Bool × List Char
  | '-' :: cs => (true, cs)
  | '+' :: cs => (false, cs)
  | cs => (false, cs)

/-- The number with the given sign. -/
def signed (negative : Bool) (n : Nat) : Int := if negative then -n else n

/-! ## Integers -/

/-- The largest integer. -/
def largestInteger : Nat := 0x7fffffffffffffff

/-- Keeps what was read if it is an integer of 64 bits. -/
def inRange : Int × List Char → Option (Int × List Char)
  | (n, rest) => if -largestInteger - 1 ≤ n ∧ n ≤ largestInteger then some (n, rest) else none

/-- Reads the digits of an integer to the given base. -/
def based? (base : Nat) : Reader Int := fun cs =>
  (digits? base cs).bind fun (ds, rest) => inRange (ofDigits base ds, rest)

/-- Reads an integer. -/
def integer? : Reader Int
  | '0' :: 'x' :: cs => based? 16 cs
  | '0' :: 'o' :: cs => based? 8 cs
  | '0' :: 'b' :: cs => based? 2 cs
  | cs =>
    let (negative, cs) := sign cs
    (whole? cs).bind fun (ds, rest) => inRange (signed negative (ofDigits 10 ds), rest)

/-! ## Floating-point numbers -/

/-- Reads a decimal point and the digits behind it. -/
def fraction? : Reader (List Nat)
  | '.' :: cs => digits? 10 cs
  | _ => none

/-- Reads the power of ten behind a number. -/
def exponent? : Reader Int
  | [] => none
  | c :: cs =>
    if c = 'e' ∨ c = 'E' then
      let (negative, cs) := sign cs
      (digits? 10 cs).map fun (ds, rest) => (signed negative (ofDigits 10 ds), rest)
    else none

/-- Whether digits times a power of ten round to infinity in double precision.  Only numbers of 309
digits have to be computed. -/
def overflows (ds : List Nat) (exponent : Int) : Bool :=
  let ds := ds.dropWhile (· == 0)
  let size := ds.length + exponent
  if ds = [] ∨ size < 309 then false
  else if 309 < size then true
  else
    let bound := 0x3fffffffffffff <<< 970
    decide (bound * Nat.pow 10 (-exponent).toNat ≤ ofDigits 10 ds * Nat.pow 10 exponent.toNat)

/-- Reads the fraction, the exponent or both that make a number a floating-point number. -/
def scale? : Reader (List Nat × Int) := fun cs =>
  match fraction? cs with
  | some (ds, cs) =>
    let (exponent, rest) := (exponent? cs).getD (0, cs)
    some ((ds, exponent - ds.length), rest)
  | none => (exponent? cs).map fun (exponent, rest) => (([], exponent), rest)

/-- Reads a floating-point number. -/
def float? : Reader Value := fun cs =>
  match sign cs with
  | (_, 'i' :: 'n' :: 'f' :: rest) => some (.float, rest)
  | (_, 'n' :: 'a' :: 'n' :: rest) => some (.float, rest)
  | (negative, cs) =>
    (whole? cs).bind fun (ds, cs) =>
      (scale? cs).bind fun ((fraction, exponent), rest) =>
        if !negative && overflows (ds ++ fraction) exponent then none else some (.float, rest)

end Toml
end ColumnLog
