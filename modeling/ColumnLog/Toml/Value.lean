import ColumnLog.Keyed

/-!
# TOML values

The values of a TOML document, and the rules by which its lines put tables together.

* `Toml.Value` is the value of a key.  A table remembers how it came about, because that decides
  what later lines may add to it.
* `Toml.assign` sets a dotted key, `Toml.openTable` and `Toml.openItem` are the two headers.  Each
  fails where the document would define something twice.
-/

set_option autoImplicit false

namespace ColumnLog
namespace Toml

/-- How a table came about. -/
inductive Origin where
  /-- It is written between braces, and complete. -/
  | inline
  /-- It has a header of its own, or is the document itself. -/
  | header
  /-- It lies on the way to a table with a header. -/
  | implied
  /-- It lies on the way to a dotted key. -/
  | dotted
  deriving DecidableEq, Repr

/-- The value of a key. -/
inductive Value where
  | text (content : String)
  | integer (n : Int)
  /-- A floating-point number; which one is not kept. -/
  | float
  | boolean (b : Bool)
  /-- A date, a time or both; which one is not kept. -/
  | moment
  | array (items : List Value)
  | table (origin : Origin) (entries : List (String × Value))
  /-- Tables under one name, each with a header of its own. -/
  | tables (items : List (List (String × Value)))

/-- The keys of a table with their values. -/
abbrev Entries := Keyed Value

/-- Works on the table at the end of a path.  Tables that are missing on the way are made; a path to
a dotted key goes through no table that has a header of its own. -/
def modifyAt (dotted : Bool) (work : Origin → Entries → Option Entries) :
    List String → Origin → Entries → Option Entries
  | [], origin, entries => work origin entries
  | key :: path, _, entries =>
    match entries.lookup key with
    | none =>
      let made := if dotted then Origin.dotted else .implied
      (modifyAt dotted work path made []).map fun inner => Keyed.put key (.table made inner) entries
    | some (.table origin inner) =>
      if origin = .inline ∨ (dotted ∧ origin = .header) then none
      else
        (modifyAt dotted work path origin inner).map fun inner =>
          Keyed.put key (.table origin inner) entries
    | some (.tables items) =>
      match items.getLast? with
      | none => none
      | some last =>
        (modifyAt dotted work path .header last).map fun last =>
          Keyed.put key (.tables (items.dropLast ++ [last])) entries
    | some _ => none

/-- Adds a key that is not there yet to the table that a dotted path leads to. -/
def addKey (dotted : Bool) (key : String) (value : Value) (origin : Origin) (entries : Entries) :
    Option Entries :=
  if dotted ∧ origin ≠ .dotted then none
  else if (entries.lookup key).isSome then none
  else some (entries ++ [(key, value)])

/-- Sets a dotted key: all parts but the last lead through tables that only dotted keys made. -/
def assign (keys : List String) (value : Value) (entries : Entries) : Option Entries :=
  match keys.getLast? with
  | none => none
  | some key =>
    let path := keys.dropLast
    modifyAt true (addKey (!path.isEmpty) key value) path .header entries

/-- Gives a table its header; it may have been implied before. -/
def addTable (key : String) (_ : Origin) (entries : Entries) : Option Entries :=
  match entries.lookup key with
  | none => some (Keyed.put key (.table .header []) entries)
  | some (.table .implied inner) => some (Keyed.put key (.table .header inner) entries)
  | some _ => none

/-- Adds a table to those under one name. -/
def addItem (key : String) (_ : Origin) (entries : Entries) : Option Entries :=
  match entries.lookup key with
  | none => some (Keyed.put key (.tables [[]]) entries)
  | some (.tables items) => some (Keyed.put key (.tables (items ++ [[]])) entries)
  | some _ => none

/-- The document after the header of a table. -/
def openTable (keys : List String) (entries : Entries) : Option Entries :=
  match keys.getLast? with
  | none => none
  | some key => modifyAt false (addTable key) keys.dropLast .header entries

/-- The document after the header of one of the tables under a name. -/
def openItem (keys : List String) (entries : Entries) : Option Entries :=
  match keys.getLast? with
  | none => none
  | some key => modifyAt false (addItem key) keys.dropLast .header entries

end Toml
end ColumnLog
