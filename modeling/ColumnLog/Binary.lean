/-!
# Floating-point words

Floats are stored and moved as their IEEE 754 bits, so a payload or a signalling bit of a NaN is
never lost.  What depends on the number behind the bits is defined here.

* `Binary16`, `Binary32` and `Binary64` are the words, and `rank` gives their order: `none` for a
  NaN, else an integer that grows with the number, zero for both zeros.
* `==` and `compare?` are the IEEE comparisons: a NaN equals nothing, the zeros equal each other.
* `Binary32.times` and `Binary32.half` are the two computations that values need, rounded to the
  nearest number.
-/

set_option autoImplicit false

namespace ColumnLog

/-- A half-precision word. -/
structure Binary16 where
  bits : UInt16
  deriving DecidableEq, Inhabited, Repr

/-- A single-precision word. -/
structure Binary32 where
  bits : UInt32
  deriving DecidableEq, Inhabited, Repr

/-- A double-precision word. -/
structure Binary64 where
  bits : UInt64
  deriving DecidableEq, Inhabited, Repr

/-- The rank of a word with the given sign bit and magnitude, where magnitudes above `infinity`
are those of a NaN. -/
def rankOf (negative : Bool) (magnitude infinity : Nat) : Option Int :=
  if infinity < magnitude then none
  else some (if negative then -(magnitude : Int) else magnitude)

/-- Equality of ranks; the missing rank of a NaN differs from itself. -/
def sameRank : Option Int → Option Int → Bool
  | some a, some b => a == b
  | _, _ => false

namespace Binary16

/-- The place among the numbers. -/
def rank (x : Binary16) : Option Int :=
  rankOf (x.bits.toNat / 0x8000 == 1) (x.bits.toNat % 0x8000) 0x7c00

instance : BEq Binary16 := ⟨fun a b => sameRank a.rank b.rank⟩

end Binary16

/-- `n / 2 ^ s` rounded to the nearest integer, or to the even one of two. -/
def roundShift (n s : Nat) : Nat :=
  let unit := 1 <<< s
  let quotient := n / unit
  let rest := n % unit
  if 2 * rest < unit ∨ (2 * rest = unit ∧ quotient % 2 = 0) then quotient else quotient + 1

namespace Binary32

/-- Whether the sign bit is set. -/
def isNegative (x : Binary32) : Bool := x.bits.toNat / 0x80000000 == 1

/-- The bits without the sign. -/
def magnitude (x : Binary32) : Nat := x.bits.toNat % 0x80000000

/-- The magnitude of infinity; those above it are not numbers. -/
def infinity : Nat := 0x7f800000

/-- The word with the given sign and magnitude. -/
def ofMagnitude (negative : Bool) (magnitude : Nat) : Binary32 :=
  ⟨.ofNat (if negative then 0x80000000 + magnitude else magnitude)⟩

/-- The place among the numbers. -/
def rank (x : Binary32) : Option Int := rankOf x.isNegative x.magnitude infinity

instance : BEq Binary32 := ⟨fun a b => sameRank a.rank b.rank⟩

/-- A word that is not a number. -/
def isNaN (x : Binary32) : Bool := x.rank.isNone

/-- The order of two numbers; none if one of them is not a number. -/
def compare? (a b : Binary32) : Option Ordering := do
  return compare (← a.rank) (← b.rank)

/-- The number 0. -/
def zero : Binary32 := ⟨0⟩

/-- The number 1. -/
def one : Binary32 := ⟨0x3f800000⟩

/-! ### Arithmetic -/

/-- How many times the distance between neighbours has doubled at a magnitude, from the `2 ^ -149`
around zero. -/
def scale (magnitude : Nat) : Nat := magnitude / 0x800000 - 1

/-- The number behind a magnitude, in units of `2 ^ -149`. -/
def units (magnitude : Nat) : Nat :=
  (magnitude - 0x800000 * scale magnitude) <<< scale magnitude

/-- The magnitude of the number nearest to `n / 2 ^ s` units. -/
def nearest (n s : Nat) : Nat :=
  let k := Nat.log2 (n >>> s) - 23
  min (0x800000 * k + roundShift n (s + k)) infinity

/-- What a computation makes of a word that is not a number: its quiet form. -/
def quiet (x : Binary32) : Binary32 := ⟨x.bits ||| 0x400000⟩

/-- The product, rounded to nearest. -/
def times (a b : Binary32) : Binary32 :=
  let negative := a.isNegative != b.isNegative
  if a.isNaN then a.quiet
  else if b.isNaN then b.quiet
  else if a.magnitude = infinity ∨ b.magnitude = infinity then
    if a.magnitude = 0 ∨ b.magnitude = 0 then (ofMagnitude false infinity).quiet
    else ofMagnitude negative infinity
  else ofMagnitude negative (nearest (units a.magnitude * units b.magnitude) 149)

/-- Half of the number, rounded to nearest. -/
def half (a : Binary32) : Binary32 :=
  if a.isNaN then a.quiet
  else if a.magnitude = infinity then a
  else ofMagnitude a.isNegative (nearest (units a.magnitude) 1)

end Binary32

namespace Binary64

/-- The place among the numbers. -/
def rank (x : Binary64) : Option Int :=
  rankOf (x.bits.toNat / 0x8000000000000000 == 1) (x.bits.toNat % 0x8000000000000000)
    0x7ff0000000000000

instance : BEq Binary64 := ⟨fun a b => sameRank a.rank b.rank⟩

end Binary64

theorem Binary32.beq_self_eq_false_of_isNaN {x : Binary32} (h : x.isNaN) : (x == x) = false := by
  have : x.rank = none := by simpa [isNaN] using h
  show sameRank x.rank x.rank = false
  simp [this, sameRank]

end ColumnLog
