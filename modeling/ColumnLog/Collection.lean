import ColumnLog.Error

/-!
# Collections

A collection is an ordered sequence that owns its elements, borrows them from the caller, or keeps a
single one in place.  It may also stand for a buffer that was never there: a null buffer has a
declared length and no elements, and the first step that reads it fails.

* `Collection.values?` reads the elements, `Collection.mutable?` makes them the collection's own for
  an edit and leaves a collection behind whether or not it succeeds, `Collection.intoOwned` detaches
  them from the caller.
* `Collection.Edit` lists the edits.  One element fits in place; an edit that needs more room moves
  the elements to the heap, where they stay until the room is given back.
* `Collection.ownership` reports how the elements are held.
-/

set_option autoImplicit false

namespace ColumnLog

/-- How a collection holds its elements. -/
inductive Ownership where
  | owned
  | borrowed
  | inline
  deriving DecidableEq, Repr

/-- The ownership as it is called in diagnostics. -/
def Ownership.debug : Ownership → String
  | owned => "Owned"
  | borrowed => "Borrowed"
  | inline => "Inline"

/-- An ordered sequence of elements. -/
inductive Collection (α : Type) where
  /-- The elements are on the heap and belong to the collection. -/
  | owned (values : List α)
  /-- Made for a single element kept in place; `spilled` if the elements have moved to the heap. -/
  | inline (values : List α) (spilled : Bool)
  /-- The elements belong to the caller. -/
  | borrowed (values : List α)
  /-- A null buffer with a declared length. -/
  | null (count : Nat) (count_pos : 0 < count)

namespace Collection

variable {α β : Type}

/-! ## Making and reading -/

/-- The collection without elements. -/
def empty : Collection α := owned []

instance : Inhabited (Collection α) := ⟨empty⟩

/-- The collection of one element, kept in place. -/
def single (a : α) : Collection α := inline [a] false

/-- The collection of a null buffer; without declared elements it is just empty. -/
def ofNull (count : Nat) : Collection α := if h : 0 < count then null count h else empty

/-- The number of elements, for a null buffer the declared one. -/
def length : Collection α → Nat
  | owned values => values.length
  | inline values _ => values.length
  | borrowed values => values.length
  | null count _ => count

/-- Whether there are no elements. -/
def isEmpty (c : Collection α) : Bool := c.length == 0

/-- Whether the collection stands for a null buffer. -/
def isNull : Collection α → Bool
  | null _ _ => true
  | _ => false

/-- How the elements are held. -/
def ownership : Collection α → Ownership
  | owned _ => .owned
  | inline _ spilled => if spilled then .owned else .inline
  | borrowed _ => .borrowed
  | null _ _ => .borrowed

/-- The elements, if there is a buffer to read them from. -/
def values? : Collection α → Except LogError (List α)
  | owned values => .ok values
  | inline values _ => .ok values
  | borrowed values => .ok values
  | null count _ =>
    .error (.unexpectedNull ("Cannot read " ++ toString count ++ " elements from a null pointer"))

/-- The elements, none for a null buffer. -/
def toList : Collection α → List α
  | owned values => values
  | inline values _ => values
  | borrowed values => values
  | null _ _ => []

/-- The collection of the images, held in the same way. -/
def map (f : α → β) : Collection α → Collection β
  | owned values => owned (values.map f)
  | inline values spilled => inline (values.map f) spilled
  | borrowed values => borrowed (values.map f)
  | null count h => null count h

/-- Collections are equal if both can be read and hold equal elements; a null buffer differs from
every collection, itself included. -/
def eqv (same : α → α → Bool) (a b : Collection α) : Bool :=
  match a.values?, b.values? with
  | .ok xs, .ok ys => xs.isEqv ys same
  | _, _ => false

instance [BEq α] : BEq (Collection α) := ⟨eqv (· == ·)⟩

/-- The elements between square brackets, or the declared length of a null buffer. -/
def debug (show1 : α → String) : Collection α → String
  | null count _ => "<null; " ++ toString count ++ ">"
  | c => "[" ++ ", ".intercalate (c.toList.map show1) ++ "]"

/-! ## Ownership -/

/-- A copy.  Elements made for one place are copied into that place if they fit. -/
def clone : Collection α → Collection α
  | inline values _ => inline values (decide (1 < values.length))
  | c => c

/-- The collection detached from the caller's memory. -/
def intoOwned : Collection α → Except LogError (Collection α)
  | borrowed values => .ok (owned values)
  | null count _ =>
    .error (.unexpectedNull ("Cannot copy " ++ toString count ++ " elements from a null pointer"))
  | c => .ok c

/-- Makes the collection ready for an edit: borrowed elements are copied first. -/
def mutable? : Collection α → Outcome (Collection α) Unit
  | borrowed values => .ok () (owned values)
  | null count pos =>
    .error (.unexpectedNull
      ("Cannot mutate " ++ toString count ++ " elements behind a null pointer")) (null count pos)
  | c => .ok () c

/-! ## Edits -/

/-- An edit of the elements. -/
inductive Edit (α : Type) where
  | push (a : α)
  | pop
  | insert (i : Nat) (a : α)
  | remove (i : Nat)
  | set (i : Nat) (a : α)
  | truncate (count : Nat)
  | clear
  | extend (more : List α)
  /-- Asks for room for more elements. -/
  | reserve (more : Nat)
  /-- Gives back the room that is not needed. -/
  | shrink

namespace Edit

/-- The elements after the edit. -/
def apply : Edit α → List α → List α
  | push a, values => values ++ [a]
  | pop, values => values.dropLast
  | insert i a, values => values.insertIdx i a
  | remove i, values => values.eraseIdx i
  | set i a, values => values.set i a
  | truncate count, values => values.take count
  | clear, _ => []
  | extend more, values => values ++ more
  | reserve _, values => values
  | shrink, values => values

/-- The element that the edit takes out. -/
def taken : Edit α → List α → Option α
  | pop, values => values.getLast?
  | remove i, values => values[i]?
  | _, _ => none

/-- The number of places that the edit needs. -/
def room : Edit α → List α → Nat
  | push _, values => values.length + 1
  | insert _ _, values => values.length + 1
  | extend more, values => values.length + more.length
  | reserve more, values => values.length + more
  | _, _ => 0

/-- Whether elements made for one place are on the heap after the edit. -/
def spills (e : Edit α) (values : List α) (spilled : Bool) : Bool :=
  match e with
  | shrink => spilled && decide (1 < values.length)
  | _ => spilled || decide (1 < e.room values)

end Edit

/-- Makes the collection its own and edits it. -/
def edit (e : Edit α) (c : Collection α) : Outcome (Collection α) Unit :=
  match c.mutable? with
  | .ok () (inline values spilled) =>
    .ok () (inline (e.apply values) (e.spills values spilled))
  | .ok () c => .ok () (owned (e.apply c.toList))
  | .error refusal c => .error refusal c

theorem values?_eq_ok_iff {c : Collection α} {xs : List α} :
    c.values? = .ok xs ↔ c.isNull = false ∧ c.toList = xs := by
  cases c <;> simp [values?, isNull, toList]

theorem length_eq_of_isNull_eq_false {c : Collection α} (h : c.isNull = false) :
    c.length = c.toList.length := by
  cases c <;> simp_all [length, isNull, toList]

@[simp]
theorem length_map (f : α → β) (c : Collection α) : (c.map f).length = c.length := by
  cases c <;> simp [map, length]

@[simp]
theorem isNull_map (f : α → β) (c : Collection α) : (c.map f).isNull = c.isNull := by
  cases c <;> simp [map, isNull]

@[simp]
theorem toList_map (f : α → β) (c : Collection α) : (c.map f).toList = c.toList.map f := by
  cases c <;> simp [map, toList]

end Collection
end ColumnLog
