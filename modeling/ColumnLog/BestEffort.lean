import ColumnLog.Error

/-!
# Best effort

Some operations apply what fits and report the rest: they always give a value, and list the problems
they met.

* `BestEffort.toExcept` turns the first problem into a failure.
-/

set_option autoImplicit false

namespace ColumnLog

/-- A value, and the problems met on the way to it, in order. -/
structure BestEffort (α : Type) where
  value : α
  problems : List LogError := []
  deriving DecidableEq

namespace BestEffort

variable {α β : Type}

/-- A value without problems. -/
def clean (a : α) : BestEffort α := ⟨a, []⟩

/-- A value with one problem. -/
def withProblem (a : α) (e : LogError) : BestEffort α := ⟨a, [e]⟩

/-- Whether there was no problem. -/
def isClean (b : BestEffort α) : Bool := b.problems.isEmpty

/-- The image of the value, with the same problems. -/
def map (f : α → β) (b : BestEffort α) : BestEffort β := ⟨f b.value, b.problems⟩

/-- The value if there was no problem, else the first one. -/
def toExcept (b : BestEffort α) : Except LogError α :=
  match b.problems with
  | [] => .ok b.value
  | e :: _ => .error e

theorem toExcept_map (f : α → β) (b : BestEffort α) :
    (b.map f).toExcept = b.toExcept.map f := by
  obtain ⟨value, _ | _⟩ := b <;> rfl

end BestEffort
end ColumnLog
