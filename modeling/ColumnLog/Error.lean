import ColumnLog.DataType

/-!
# Errors

Everything that can go wrong between a value and its finished column.

* `LogError` lists the causes, `LogError.message` is their wording.
* `ErrorKind` classifies them; its codes and names are stable, and `ErrorKind.category` groups them.
* `AssemblyFault` lists what is found wrong when a column is put together; `LogError.ofFault` turns
  it into an error.
-/

set_option autoImplicit false

namespace ColumnLog

/-- Broad grouping of errors. -/
inductive ErrorCategory where
  | inputValidation
  | allocation
  | logic
  deriving DecidableEq, Repr

/-- Classification of errors. -/
inductive ErrorKind where
  | unexpectedNull
  | sizeMismatch
  | allocationFailed
  | unsupportedElementKind
  | typeMismatch
  | columnFailure
  deriving DecidableEq, Repr

namespace ErrorKind

/-- The stable number of a kind. -/
def code : ErrorKind → Nat
  | unexpectedNull => 1
  | sizeMismatch => 2
  | allocationFailed => 3
  | unsupportedElementKind => 4
  | typeMismatch => 5
  | columnFailure => 6

/-- The stable name of a kind. -/
def name : ErrorKind → String
  | unexpectedNull => "unexpected_null_argument"
  | sizeMismatch => "size_mismatch"
  | allocationFailed => "allocation_failed"
  | unsupportedElementKind => "unsupported_element_kind"
  | typeMismatch => "datatype_mismatch"
  | columnFailure => "arrow_failure"

/-- The kind as it is called in diagnostics. -/
def debug : ErrorKind → String
  | unexpectedNull => "UnexpectedNullArgument"
  | sizeMismatch => "SizeMismatch"
  | allocationFailed => "AllocationFailed"
  | unsupportedElementKind => "UnsupportedElementKind"
  | typeMismatch => "DatatypeMismatch"
  | columnFailure => "ArrowFailure"

/-- The group of a kind. -/
def category : ErrorKind → ErrorCategory
  | unexpectedNull | sizeMismatch => .inputValidation
  | allocationFailed => .allocation
  | unsupportedElementKind | typeMismatch | columnFailure => .logic

theorem code_injective {a b : ErrorKind} (h : a.code = b.code) : a = b := by
  cases a <;> cases b <;> simp [code] at h ⊢

end ErrorKind

/-- The group as it is called in diagnostics. -/
def ErrorCategory.debug : ErrorCategory → String
  | inputValidation => "InputValidation"
  | allocation => "Allocation"
  | logic => "Logic"

/-- What is found wrong when the parts of a column are put together. -/
inductive AssemblyFault where
  | memory (text : String)
  | invalidArgument (text : String)
  | compute (text : String)
  | schema (text : String)
  | divideByZero
  deriving DecidableEq, Repr

/-- The wording of a fault. -/
def AssemblyFault.message : AssemblyFault → String
  | memory text => "Memory error: " ++ text
  | invalidArgument text => "Invalid argument error: " ++ text
  | compute text => "Compute error: " ++ text
  | schema text => "Schema error: " ++ text
  | divideByZero => "Divide by zero error"

/-- The causes of failure. -/
inductive LogError where
  /-- A required buffer was null. -/
  | unexpectedNull (what : String)
  /-- Declared and actual counts disagree. -/
  | sizeMismatch (expected actual : Nat) (context : String)
  /-- A pool refused a request. -/
  | allocationFailed (pool : String) (requested available : Nat)
  /-- Memory ran out outside the pools. -/
  | externalAllocation (text : String)
  /-- A tag or a name that belongs to no element kind. -/
  | unsupportedElementKind (what : String)
  /-- A column has another type than the declared one. -/
  | typeMismatch (expected actual : DataType) (context : String)
  /-- The parts of a column do not fit together. -/
  | columnFailure (text : String)
  deriving DecidableEq

namespace LogError

/-- The classification of an error. -/
def kind : LogError → ErrorKind
  | unexpectedNull _ => .unexpectedNull
  | sizeMismatch _ _ _ => .sizeMismatch
  | allocationFailed _ _ _ => .allocationFailed
  | externalAllocation _ => .allocationFailed
  | unsupportedElementKind _ => .unsupportedElementKind
  | typeMismatch _ _ _ => .typeMismatch
  | columnFailure _ => .columnFailure

/-- The group of an error. -/
def category (e : LogError) : ErrorCategory := e.kind.category

/-- The wording of an error. -/
def message : LogError → String
  | unexpectedNull what => "Unexpected null argument: " ++ what
  | sizeMismatch expected actual context =>
    "Size mismatch in " ++ context ++ ": expected " ++ toString expected ++ ", got " ++
      toString actual
  | allocationFailed pool requested available =>
    "Allocation failed in pool '" ++ pool ++ "': requested " ++ toString requested ++ " bytes, " ++
      toString available ++ " available"
  | externalAllocation text => "External allocation failure: " ++ text
  | unsupportedElementKind what => "Unsupported element kind: " ++ what
  | typeMismatch expected actual context =>
    "Datatype mismatch for " ++ context ++ ": expected " ++ expected.debug ++ ", got " ++
      actual.debug
  | columnFailure text => "Arrow error: " ++ text

/-- The diagnostic form: the cause with its parts. -/
def debug : LogError → String
  | unexpectedNull what => "UnexpectedNullArgument(" ++ Text.quoted what ++ ")"
  | sizeMismatch expected actual context =>
    "SizeMismatch \x7b expected: " ++ toString expected ++ ", actual: " ++ toString actual ++
      ", context: " ++ Text.quoted context ++ " \x7d"
  | allocationFailed pool requested available =>
    "AllocationFailed \x7b pool: " ++ Text.quoted pool ++ ", requested: " ++ toString requested ++
      ", available: " ++ toString available ++ " \x7d"
  | externalAllocation text => "ExternalAllocation(" ++ Text.quoted text ++ ")"
  | unsupportedElementKind what => "UnsupportedElementKind(" ++ Text.quoted what ++ ")"
  | typeMismatch expected actual context =>
    "DatatypeMismatch \x7b expected: " ++ Text.quoted expected.debug ++ ", actual: " ++
      Text.quoted actual.debug ++ ", context: " ++ Text.quoted context ++ " \x7d"
  | columnFailure text => "Arrow(" ++ Text.quoted text ++ ")"

/-- A fault as an error: lack of memory counts as a failed allocation. -/
def ofFault : AssemblyFault → LogError
  | .memory text => externalAllocation text
  | fault => columnFailure fault.message

/-- The lead of every report of an id that belongs to no field of a union. -/
def unknownTypeIdLead : String := "Unknown union type id "

/-- A slot was recorded under an id that belongs to no field of a union. -/
def unknownTypeId (id : Int) : LogError := columnFailure (unknownTypeIdLead ++ toString id)

theorem kind_ofFault (fault : AssemblyFault) :
    (ofFault fault).kind = .columnFailure ∨ ∃ text, fault = .memory text := by
  cases fault <;> simp [ofFault, kind]

end LogError

/-- The result of a step that leaves a state behind whether or not it succeeds. -/
abbrev Outcome (σ α : Type) := EStateM.Result LogError σ α

namespace Outcome

variable {σ τ α β : Type}

/-- A result that leaves the state alone. -/
def ofExcept (result : Except LogError α) (state : σ) : Outcome σ α :=
  match result with
  | .ok a => .ok a state
  | .error e => .error e state

/-- The result without the state. -/
def result : Outcome σ α → Except LogError α
  | .ok a _ => .ok a
  | .error e _ => .error e

/-- The state left behind. -/
def state : Outcome σ α → σ
  | .ok _ s => s
  | .error _ s => s

/-- The same result in another state. -/
def mapState (f : σ → τ) : Outcome σ α → Outcome τ α
  | .ok a s => .ok a (f s)
  | .error e s => .error e (f s)

/-- The image of the result, in the same state. -/
def map (f : α → β) : Outcome σ α → Outcome σ β
  | .ok a s => .ok (f a) s
  | .error e s => .error e s

@[simp]
theorem result_ofExcept (r : Except LogError α) (s : σ) : result (ofExcept r s) = r := by
  cases r <;> rfl

@[simp]
theorem state_ofExcept (r : Except LogError α) (s : σ) : state (ofExcept r s) = s := by
  cases r <;> rfl

@[simp]
theorem result_mapState (f : σ → τ) (o : Outcome σ α) : result (o.mapState f) = result o := by
  cases o <;> rfl

@[simp]
theorem state_mapState (f : σ → τ) (o : Outcome σ α) : state (o.mapState f) = f (state o) := by
  cases o <;> rfl

@[simp]
theorem result_map (f : α → β) (o : Outcome σ α) : result (o.map f) = (result o).map f := by
  cases o <;> rfl

@[simp]
theorem state_map (f : α → β) (o : Outcome σ α) : state (o.map f) = state o := by
  cases o <;> rfl

end Outcome

end ColumnLog
