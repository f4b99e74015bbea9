import ColumnLog.Loggable

/-!
# Colours

A colour packs red, green, blue and alpha into one word, red in the highest byte.

* `Rgba32.ofBytes` packs and `Rgba32.toBytes` unpacks the four channels.
-/

set_option autoImplicit false

namespace ColumnLog

/-- A packed colour. -/
structure Rgba32 where
  packed : UInt32
  deriving DecidableEq, Inhabited

namespace Rgba32

/-- The colour of four channels. -/
def ofBytes (r g b a : UInt8) : Rgba32 :=
  ⟨(r.toUInt32 <<< 24) ||| (g.toUInt32 <<< 16) ||| (b.toUInt32 <<< 8) ||| a.toUInt32⟩

/-- The colour of three channels that hides what lies behind it. -/
def solid (r g b : UInt8) : Rgba32 := ofBytes r g b 255

/-- The channels: red, green, blue, alpha. -/
def toBytes (c : Rgba32) : List UInt8 :=
  [(c.packed >>> 24).toUInt8, (c.packed >>> 16).toUInt8, (c.packed >>> 8).toUInt8,
    c.packed.toUInt8]

/-- Solid white. -/
def white : Rgba32 := solid 255 255 255

/-- Solid black. -/
def black : Rgba32 := solid 0 0 0

instance : Loggable Rgba32 .datatype where
  schema := .flat "Rgba32" .uint32 4
  entry c := .scalar .uint32 c.packed

end Rgba32
end ColumnLog
