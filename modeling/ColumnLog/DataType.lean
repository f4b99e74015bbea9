import ColumnLog.Primitive
import ColumnLog.Text.Quoted

/-!
# Column types

A column type describes one column with all columns below it.

* `DataType` and `Field` are the description; `DataType.union` lays out the variants of a dense
  union behind the child that counts its null slots.
* `DataType.text` is the compact spelling of a type, `DataType.debug` the full one that mismatch
  reports quote.
* Column types can be compared: `DecidableEq DataType`.
-/

set_option autoImplicit false

namespace ColumnLog

mutual

/-- The type of a column. -/
inductive DataType where
  /-- Slots that hold nothing. -/
  | null
  /-- Flat values. -/
  | leaf (p : Primitive)
  /-- Entries of `size` items each. -/
  | fixedSizeList (item : Field) (size : Nat)
  /-- Entries of any number of items. -/
  | list (item : Field)
  /-- One value per field. -/
  | struct (fields : List Field)
  /-- A value of one of the fields; `ids` names the fields, in the same order. -/
  | denseUnion (ids : List Nat) (fields : List Field)

/-- A named part of a column type. -/
structure Field where
  name : String
  type : DataType
  /-- Whether the part may be missing where the whole is present. -/
  nullable : Bool

end

namespace DataType

instance : Inhabited DataType := ⟨null⟩

mutual

/-- Decides equality of column types. -/
def decEq : (a b : DataType) → Decidable (a = b)
  | null, null => isTrue rfl
  | leaf p, leaf q =>
    if h : p = q then isTrue (by rw [h]) else isFalse (by simpa using h)
  | fixedSizeList f m, fixedSizeList g n =>
    match decEqField f g with
    | isTrue hf =>
      if h : m = n then isTrue (by rw [hf, h]) else isFalse (by simp [h])
    | isFalse hf => isFalse (by simp [hf])
  | list f, list g =>
    match decEqField f g with
    | isTrue hf => isTrue (by rw [hf])
    | isFalse hf => isFalse (by simpa using hf)
  | struct fs, struct gs =>
    match decEqFields fs gs with
    | isTrue hf => isTrue (by rw [hf])
    | isFalse hf => isFalse (by simpa using hf)
  | denseUnion is fs, denseUnion js gs =>
    match decEqFields fs gs with
    | isTrue hf =>
      if h : is = js then isTrue (by rw [hf, h]) else isFalse (by simp [h])
    | isFalse hf => isFalse (by simp [hf])
  | null, leaf _ | null, fixedSizeList _ _ | null, list _ | null, struct _ | null, denseUnion _ _
  | leaf _, null | leaf _, fixedSizeList _ _ | leaf _, list _ | leaf _, struct _
  | leaf _, denseUnion _ _
  | fixedSizeList _ _, null | fixedSizeList _ _, leaf _ | fixedSizeList _ _, list _
  | fixedSizeList _ _, struct _ | fixedSizeList _ _, denseUnion _ _
  | list _, null | list _, leaf _ | list _, fixedSizeList _ _ | list _, struct _
  | list _, denseUnion _ _
  | struct _, null | struct _, leaf _ | struct _, fixedSizeList _ _ | struct _, list _
  | struct _, denseUnion _ _
  | denseUnion _ _, null | denseUnion _ _, leaf _ | denseUnion _ _, fixedSizeList _ _
  | denseUnion _ _, list _ | denseUnion _ _, struct _ => isFalse (by simp)

/-- Decides equality of fields. -/
def decEqField : (a b : Field) → Decidable (a = b)
  | ⟨m, s, x⟩, ⟨n, t, y⟩ =>
    match decEq s t with
    | isTrue ht =>
      if h : m = n ∧ x = y then isTrue (by rw [ht, h.1, h.2])
      else isFalse (by simp only [Field.mk.injEq]; rintro ⟨rfl, _, rfl⟩; exact h ⟨rfl, rfl⟩)
    | isFalse ht => isFalse (by simp [ht])

/-- Decides equality of field lists. -/
def decEqFields : (a b : List Field) → Decidable (a = b)
  | [], [] => isTrue rfl
  | [], _ :: _ => isFalse (by simp)
  | _ :: _, [] => isFalse (by simp)
  | f :: fs, g :: gs =>
    match decEqField f g with
    | isTrue hf =>
      match decEqFields fs gs with
      | isTrue hfs => isTrue (by rw [hf, hfs])
      | isFalse hfs => isFalse (by simp [hfs])
    | isFalse hf => isFalse (by simp [hf])

end

instance : DecidableEq DataType := decEq

instance : DecidableEq Field := decEqField

/-! ## Dense unions -/

/-- The child of a union that counts its null slots. -/
def nullMarkers : Field := ⟨"_null_markers", null, true⟩

/-- The union of the given variants: null slots have id 0, the variants the ids behind it. -/
def union (variants : List Field) : DataType :=
  denseUnion (List.range (variants.length + 1)) (nullMarkers :: variants)

/-! ## Spellings -/

/-- The name of a type, without those of its parts. -/
def name : DataType → String
  | null => "Null"
  | leaf p => p.name
  | fixedSizeList _ _ => "FixedSizeList"
  | list _ => "List"
  | struct _ => "Struct"
  | denseUnion _ _ => "Union"

mutual

/-- The compact spelling. -/
def text : DataType → String
  | null => "Null"
  | leaf p => p.name
  | fixedSizeList item size => "FixedSizeList<" ++ fieldText item ++ "; " ++ toString size ++ ">"
  | list item => "List<" ++ fieldText item ++ ">"
  | struct fields => "Struct\x7b" ++ ", ".intercalate (fieldTexts fields) ++ "\x7d"
  | denseUnion ids fields =>
    "DenseUnion\x7b" ++
      ", ".intercalate (List.zipWith (fun id f => toString id ++ "=" ++ f) ids (fieldTexts fields))
      ++ "\x7d"

/-- The name of a field, marked if it may be missing, and its type. -/
def fieldText : Field → String
  | ⟨name, type, nullable⟩ => name ++ (if nullable then "?: " else ": ") ++ text type

/-- The spellings of the fields, in order. -/
def fieldTexts : List Field → List String
  | [] => []
  | f :: fs => fieldText f :: fieldTexts fs

end

mutual

/-- The full spelling. -/
def debug : DataType → String
  | null => "Null"
  | leaf p => p.name
  | fixedSizeList item size => "FixedSizeList(" ++ fieldDebug item ++ ", " ++ toString size ++ ")"
  | list item => "List(" ++ fieldDebug item ++ ")"
  | struct fields => "Struct([" ++ ", ".intercalate (fieldDebugs fields) ++ "])"
  | denseUnion ids fields =>
    "Union([" ++
      ", ".intercalate
        (List.zipWith (fun id f => "(" ++ toString id ++ ", " ++ f ++ ")") ids (fieldDebugs fields))
      ++ "], Dense)"

/-- The full spelling of a field, with the attributes that are always empty. -/
def fieldDebug : Field → String
  | ⟨name, type, nullable⟩ =>
    "Field \x7b name: " ++ Text.quoted name ++ ", data_type: " ++ debug type ++
      ", nullable: " ++ toString nullable ++
      ", dict_id: 0, dict_is_ordered: false, metadata: \x7b\x7d \x7d"

/-- The full spellings of the fields, in order. -/
def fieldDebugs : List Field → List String
  | [] => []
  | f :: fs => fieldDebug f :: fieldDebugs fs

end

/-- The flat type, or the empty one, with the given name. -/
def ofName? (name : String) : Option DataType :=
  if name = "Null" then some null else (Primitive.ofName? name).map leaf

end DataType

namespace Field

/-- A part that is always present. -/
def required (name : String) (type : DataType) : Field := ⟨name, type, false⟩

/-- A part that may be missing. -/
def optional (name : String) (type : DataType) : Field := ⟨name, type, true⟩

/-- The field of a list's items, which are always present. -/
def item (type : DataType) : Field := required "item" type

end Field

/-- Entries of `size` single-precision floats. -/
def DataType.floats (size : Nat) : DataType := .fixedSizeList (.item (.leaf .float32)) size

end ColumnLog
