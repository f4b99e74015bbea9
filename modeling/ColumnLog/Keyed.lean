/-!
# Values by name

Lists of names with a value each, in the order in which the names were first met.  `Keyed.put` sets
the value of a name and leaves the others alone; the value is found again by `List.lookup`.
-/

set_option autoImplicit false

namespace ColumnLog

/-- Values by name. -/
abbrev Keyed (α : Type) := List (String × α)

namespace Keyed

variable {α : Type}

/-- Sets the value of a name. -/
def put (name : String) (value : α) : Keyed α → Keyed α
  | [] => [(name, value)]
  | (n, v) :: entries =>
    if n = name then (n, value) :: entries else (n, v) :: put name value entries

theorem lookup_put_self (name : String) (value : α) (entries : Keyed α) :
    (put name value entries).lookup name = some value := by
  fun_induction put name value entries with
  | case1 => simp
  | case2 => simp
  | case3 n v entries h ih =>
    have h : (name == n) = false := by simpa using Ne.symm h
    rw [List.lookup_cons, h, ih]

theorem lookup_put_of_ne {name other : String} (h : other ≠ name) (value : α)
    (entries : Keyed α) : (put name value entries).lookup other = entries.lookup other := by
  have h : (other == name) = false := by simpa using h
  fun_induction put name value entries with
  | case1 => rw [List.lookup_cons, h]
  | case2 => rw [List.lookup_cons, List.lookup_cons, h]
  | case3 n v entries _ ih => rw [List.lookup_cons, List.lookup_cons, ih]

end Keyed
end ColumnLog
