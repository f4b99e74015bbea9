import ColumnLog.Toml.Number

/-!
# Dates and times in TOML

A day of the calendar, a time of day, or a day with a time and perhaps the offset of its time zone.
Which moment it is does not matter here, only that there is one: `Toml.moment?` reads one.
-/

set_option autoImplicit false

namespace ColumnLog
namespace Toml

/-- The text behind a given character. -/
def after? (c : Char) : List Char → Option (List Char)
  | [] => none
  | d :: cs => if d = c then some cs else none

/-- Reads a number of exactly `count` decimal digits between two bounds. -/
def bounded? (count low high : Nat) : Reader Nat := fun cs =>
  if cs.length < count then none
  else
    match (cs.take count).mapM (digit? 10) with
    | none => none
    | some ds =>
      let n := ofDigits 10 ds
      if low ≤ n ∧ n ≤ high then some (n, cs.drop count) else none

/-- How many days a month has. -/
def daysIn (year month : Nat) : Nat :=
  if month = 2 then if year % 4 = 0 ∧ (year % 100 ≠ 0 ∨ year % 400 = 0) then 29 else 28
  else if month ∈ [4, 6, 9, 11] then 30
  else 31

/-- The text behind a day of the calendar. -/
def day? (cs : List Char) : Option (List Char) := do
  let (year, cs) ← bounded? 4 0 9999 cs
  let cs ← after? '-' cs
  let (month, cs) ← bounded? 2 1 12 cs
  let cs ← after? '-' cs
  let (_, rest) ← bounded? 2 1 (daysIn year month) cs
  return rest

/-- The text behind digits that follow a point. -/
def secondFraction? : List Char → Option (List Char)
  | '.' :: c :: cs => if c.isDigit then some (cs.dropWhile Char.isDigit) else none
  | _ => none

/-- The text behind a time of day.  Second 60 is the leap second. -/
def time? (cs : List Char) : Option (List Char) := do
  let (_, cs) ← bounded? 2 0 23 cs
  let cs ← after? ':' cs
  let (_, cs) ← bounded? 2 0 59 cs
  let cs ← after? ':' cs
  let (_, cs) ← bounded? 2 0 60 cs
  return (secondFraction? cs).getD cs

/-- The text behind the offset of a time zone. -/
def offset? : List Char → Option (List Char)
  | [] => none
  | c :: cs =>
    if c = 'Z' ∨ c = 'z' then some cs
    else if c = '+' ∨ c = '-' then do
      let (_, cs) ← bounded? 2 0 23 cs
      let cs ← after? ':' cs
      let (_, rest) ← bounded? 2 0 59 cs
      return rest
    else none

/-- The text behind the time of a day. -/
def timeOfDay? : List Char → Option (List Char)
  | [] => none
  | c :: cs =>
    if c = 'T' ∨ c = 't' ∨ c = ' ' then (time? cs).map fun rest => (offset? rest).getD rest
    else none

/-- Reads a date, a time or both. -/
def moment? : Reader Value := fun cs =>
  match day? cs with
  | some rest => some (.moment, (timeOfDay? rest).getD rest)
  | none => (time? cs).map fun rest => (.moment, rest)

end Toml
end ColumnLog
