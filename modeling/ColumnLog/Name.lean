import ColumnLog.Text.Quoted

/-!
# Stable names

Every type that can be logged carries a full name such as `stratalog.components.Color`.  The name
of a component is the name of its column, so names are compared and ordered as plain text.

* `Name.short` cuts the namespace and the kind, where the name has both.
* `Name.ofShort` puts them in front.
-/

set_option autoImplicit false

namespace ColumnLog

/-- What a name names. -/
inductive NameKind where
  | component
  | datatype
  | archetype
  deriving DecidableEq, Repr

/-- The namespace in front of every name of this library. -/
def nameSpace : String := "stratalog"

namespace NameKind

/-- The segment of a full name that tells its kind. -/
def segment : NameKind → String
  | .component => "components"
  | .datatype => "datatypes"
  | .archetype => "archetypes"

/-- The kind as it is called in diagnostics. -/
def title : NameKind → String
  | .component => "ComponentName"
  | .datatype => "DatatypeName"
  | .archetype => "ArchetypeName"

/-- What stands in front of the short name. -/
def lead (kind : NameKind) : String := nameSpace ++ "." ++ kind.segment ++ "."

end NameKind

/-- A full name of the given kind. -/
structure Name (kind : NameKind) where
  text : String
  deriving DecidableEq, Repr

namespace Name

variable {kind : NameKind}

/-- The full name with the given short name. -/
def ofShort (short : String) : Name kind := ⟨kind.lead ++ short⟩

/-- The characters of `s` behind `lead`, if `s` starts with it. -/
def rest? : List Char → List Char → Option (List Char)
  | [], s => some s
  | c :: lead, d :: s => if c = d then rest? lead s else none
  | _ :: _, [] => none

/-- The name without namespace and kind; a name that has other ones stays whole. -/
def short (name : Name kind) : String :=
  match rest? kind.lead.toList name.text.toList with
  | some rest => String.ofList rest
  | none => name.text

/-- Order of the full names, character by character. -/
def order (a b : Name kind) : Ordering := compare a.text b.text

/-- The diagnostic form: the kind, and the full name in quotes. -/
def debug (name : Name kind) : String := kind.title ++ "(" ++ Text.quoted name.text ++ ")"

theorem rest?_append (lead s : List Char) : rest? lead (lead ++ s) = some s := by
  induction lead with
  | nil => rfl
  | cons c lead ih => simpa [rest?] using ih

theorem short_ofShort (s : String) : (ofShort s : Name kind).short = s := by
  simp [short, ofShort, rest?_append]

end Name
end ColumnLog
