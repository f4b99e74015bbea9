import ColumnLog.Binary

/-!
# Primitive element types

The flat types that a column's leaves are made of, and the values each of them holds.

* `Primitive.Value` gives the type of the values, so a leaf column cannot hold anything else.
* `Primitive.ofWord` gives the value with the given bits, and `Primitive.toWord` its bits.
* `Primitive.zero` is the value stored where a required slot has to be filled.
* `Primitive.eqv` compares values the way their type compares them.
-/

set_option autoImplicit false

namespace ColumnLog

/-- The type of the values in a flat column. -/
inductive Primitive where
  | boolean
  | uint8
  | uint16
  | uint32
  | uint64
  | int8
  | int16
  | int32
  | int64
  | float16
  | float32
  | float64
  | utf8
  deriving DecidableEq, Repr

namespace Primitive

/-- Every primitive type. -/
def all : List Primitive :=
  [boolean, uint8, uint16, uint32, uint64, int8, int16, int32, int64, float16, float32, float64,
    utf8]

/-- The name of the type in schemas. -/
def name : Primitive → String
  | boolean => "Boolean"
  | uint8 => "UInt8"
  | uint16 => "UInt16"
  | uint32 => "UInt32"
  | uint64 => "UInt64"
  | int8 => "Int8"
  | int16 => "Int16"
  | int32 => "Int32"
  | int64 => "Int64"
  | float16 => "Float16"
  | float32 => "Float32"
  | float64 => "Float64"
  | utf8 => "Utf8"

/-- The primitive type with the given name. -/
def ofName? (name : String) : Option Primitive := all.find? (·.name == name)

/-- The values of a primitive type. -/
@[reducible]
def Value : Primitive → Type
  | boolean => Bool
  | uint8 => UInt8
  | uint16 => UInt16
  | uint32 => UInt32
  | uint64 => UInt64
  | int8 => Int8
  | int16 => Int16
  | int32 => Int32
  | int64 => Int64
  | float16 => Binary16
  | float32 => Binary32
  | float64 => Binary64
  | utf8 => String

instance instDecidableEqValue : (p : Primitive) → DecidableEq p.Value
  | boolean => inferInstanceAs (DecidableEq Bool)
  | uint8 => inferInstanceAs (DecidableEq UInt8)
  | uint16 => inferInstanceAs (DecidableEq UInt16)
  | uint32 => inferInstanceAs (DecidableEq UInt32)
  | uint64 => inferInstanceAs (DecidableEq UInt64)
  | int8 => inferInstanceAs (DecidableEq Int8)
  | int16 => inferInstanceAs (DecidableEq Int16)
  | int32 => inferInstanceAs (DecidableEq Int32)
  | int64 => inferInstanceAs (DecidableEq Int64)
  | float16 => inferInstanceAs (DecidableEq Binary16)
  | float32 => inferInstanceAs (DecidableEq Binary32)
  | float64 => inferInstanceAs (DecidableEq Binary64)
  | utf8 => inferInstanceAs (DecidableEq String)

/-- Equality of values as their type compares them: floats by number, the rest by identity. -/
def eqv : (p : Primitive) → p.Value → p.Value → Bool
  | float16, a, b => (a : Binary16) == b
  | float32, a, b => (a : Binary32) == b
  | float64, a, b => (a : Binary64) == b
  | boolean, a, b => decide (a = b)
  | uint8, a, b => decide (a = b)
  | uint16, a, b => decide (a = b)
  | uint32, a, b => decide (a = b)
  | uint64, a, b => decide (a = b)
  | int8, a, b => decide (a = b)
  | int16, a, b => decide (a = b)
  | int32, a, b => decide (a = b)
  | int64, a, b => decide (a = b)
  | utf8, a, b => decide (a = b)

/-! ## Words -/

/-- The value whose bits are those of the word, as far as they fit; any word but zero is a true
truth value.  Text has no word and is empty. -/
def ofWord : (p : Primitive) → Nat → p.Value
  | boolean, word => word != 0
  | uint8, word => UInt8.ofNat word
  | uint16, word => UInt16.ofNat word
  | uint32, word => UInt32.ofNat word
  | uint64, word => UInt64.ofNat word
  | int8, word => Int8.ofNat word
  | int16, word => Int16.ofNat word
  | int32, word => Int32.ofNat word
  | int64, word => Int64.ofNat word
  | float16, word => (⟨UInt16.ofNat word⟩ : Binary16)
  | float32, word => (⟨UInt32.ofNat word⟩ : Binary32)
  | float64, word => (⟨UInt64.ofNat word⟩ : Binary64)
  | utf8, _ => ""

/-- The bits of a value as a number; text has none. -/
def toWord : (p : Primitive) → p.Value → Nat
  | boolean, b => Bool.toNat b
  | uint8, n => UInt8.toNat n
  | uint16, n => UInt16.toNat n
  | uint32, n => UInt32.toNat n
  | uint64, n => UInt64.toNat n
  | int8, n => (Int8.toUInt8 n).toNat
  | int16, n => (Int16.toUInt16 n).toNat
  | int32, n => (Int32.toUInt32 n).toNat
  | int64, n => (Int64.toUInt64 n).toNat
  | float16, x => (Binary16.bits x).toNat
  | float32, x => (Binary32.bits x).toNat
  | float64, x => (Binary64.bits x).toNat
  | utf8, _ => 0

/-- The value that fills a slot which has none of its own. -/
def zero (p : Primitive) : p.Value := p.ofWord 0

theorem ofWord_toWord {p : Primitive} (h : p ≠ utf8) (x : p.Value) : p.ofWord (p.toWord x) = x := by
  cases p with
  | boolean => exact (by decide : ∀ b : Bool, (b.toNat != 0) = b) x
  | utf8 => exact absurd rfl h
  | _ => simp [ofWord, toWord, Int8.ofNat, Int16.ofNat, Int32.ofNat, Int64.ofNat]

theorem ofName?_name (p : Primitive) : ofName? p.name = some p := by cases p <;> decide +kernel

end Primitive
end ColumnLog
