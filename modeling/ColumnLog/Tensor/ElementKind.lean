import ColumnLog.Error
import ColumnLog.Size
import ColumnLog.Text.Blank

/-!
# Element kinds of tensors

The closed set of kinds that the elements of a tensor can have: numbers of the usual widths, truth
values, and the bytes of an encoded image.

* `ElementKind.tag` numbers the kinds, `ElementKind.ofTag` reads a number back.
* `ElementKind.ofName` accepts the names in common use for a kind.
* `ElementKind.ofBytes` reads an element from its little-endian bytes, `ElementKind.decode` a whole
  buffer, which must hold whole elements.
-/

set_option autoImplicit false

namespace ColumnLog

/-- The kind of the elements of a tensor. -/
inductive ElementKind where
  | u8
  | u16
  | u32
  | u64
  | i8
  | i16
  | i32
  | i64
  | f16
  | f32
  | f64
  | bool
  /-- The bytes of an encoded image. -/
  | jpeg
  deriving DecidableEq, Repr, Inhabited

namespace ElementKind

/-- Every kind, in the order of the tags. -/
def all : List ElementKind := [u8, u16, u32, u64, i8, i16, i32, i64, f16, f32, f64, bool, jpeg]

/-- The stable number of a kind, also its id in the union of the buffers. -/
def tag : ElementKind → Nat
  | u8 => 1
  | u16 => 2
  | u32 => 3
  | u64 => 4
  | i8 => 5
  | i16 => 6
  | i32 => 7
  | i64 => 8
  | f16 => 9
  | f32 => 10
  | f64 => 11
  | bool => 12
  | jpeg => 13

/-- The name of a kind. -/
def name : ElementKind → String
  | u8 => "U8"
  | u16 => "U16"
  | u32 => "U32"
  | u64 => "U64"
  | i8 => "I8"
  | i16 => "I16"
  | i32 => "I32"
  | i64 => "I64"
  | f16 => "F16"
  | f32 => "F32"
  | f64 => "F64"
  | bool => "BOOL"
  | jpeg => "JPEG"

/-- The kind as it is called in diagnostics. -/
def debug : ElementKind → String
  | bool => "Bool"
  | jpeg => "Jpeg"
  | kind => kind.name

/-- The names in common use, in small letters. -/
def aliases : ElementKind → List String
  | u8 => ["u8", "uint8"]
  | u16 => ["u16", "uint16"]
  | u32 => ["u32", "uint32"]
  | u64 => ["u64", "uint64"]
  | i8 => ["i8", "int8"]
  | i16 => ["i16", "int16"]
  | i32 => ["i32", "int32"]
  | i64 => ["i64", "int64"]
  | f16 => ["f16", "float16", "half"]
  | f32 => ["f32", "float32", "float"]
  | f64 => ["f64", "float64", "double"]
  | bool => ["bool", "boolean"]
  | jpeg => ["jpeg", "jpg"]

/-- The kind with the given number. -/
def ofTag (tag : Nat) : Except LogError ElementKind :=
  match all.find? (·.tag == tag) with
  | some kind => .ok kind
  | none => .error (.unsupportedElementKind ("tensor element tag " ++ toString tag))

/-- The kind with the given name; the name is not told apart by ASCII case, nor by blanks around
it. -/
def ofName (name : String) : Except LogError ElementKind :=
  match all.find? (·.aliases.contains (Text.trim name).toLower) with
  | some kind => .ok kind
  | none => .error (.unsupportedElementKind ("tensor dtype '" ++ name ++ "'"))

/-- The kind with exactly the given name. -/
def ofExactName? (name : String) : Option ElementKind := all.find? (·.name == name)

/-- The type of the elements in columns. -/
@[reducible]
def primitive : ElementKind → Primitive
  | u8 => .uint8
  | u16 => .uint16
  | u32 => .uint32
  | u64 => .uint64
  | i8 => .int8
  | i16 => .int16
  | i32 => .int32
  | i64 => .int64
  | f16 => .float16
  | f32 => .float32
  | f64 => .float64
  | bool => .boolean
  | jpeg => .uint8

/-- The elements of a kind. -/
abbrev Element (kind : ElementKind) : Type := kind.primitive.Value

/-- The bytes of an element. -/
def width : ElementKind → Nat
  | u8 | i8 | bool | jpeg => 1
  | u16 | i16 | f16 => 2
  | u32 | i32 | f32 => 4
  | u64 | i64 | f64 => 8

/-- Whether the number of elements says nothing about the shape. -/
def isEncoded (kind : ElementKind) : Bool := kind == jpeg

/-! ## Little-endian bytes -/

/-- The number written by the bytes, the first byte counting ones. -/
def ofLittleEndian (bytes : List UInt8) : Nat := bytes.foldr (fun b n => b.toNat + 256 * n) 0

/-- The element with the given bytes; a truth value is true unless its byte is zero. -/
def ofBytes (kind : ElementKind) (bytes : List UInt8) : kind.Element :=
  kind.primitive.ofWord (ofLittleEndian bytes)

/-- The first groups of `width` bytes. -/
def groups (width : Nat) : Nat → List UInt8 → List (List UInt8)
  | 0, _ => []
  | count + 1, bytes => bytes.take width :: groups width count (bytes.drop width)

/-- The elements that the bytes consist of. -/
def decode (kind : ElementKind) (bytes : List UInt8) : Except LogError (List kind.Element) :=
  if bytes.length % kind.width = 0 then
    .ok ((groups kind.width (bytes.length / kind.width) bytes).map kind.ofBytes)
  else
    .error (.sizeMismatch (Size.nextMultiple bytes.length kind.width) bytes.length
      (kind.name ++ " tensor bytes (" ++ toString kind.width ++ " per element)"))

theorem ofTag_tag (kind : ElementKind) : ofTag kind.tag = .ok kind := by cases kind <;> rfl

end ElementKind
end ColumnLog
