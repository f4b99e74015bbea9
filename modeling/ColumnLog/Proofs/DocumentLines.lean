import ColumnLog.Proofs.QuotedText
import ColumnLog.Toml.Document

/-!
# Written lines are read back

A document is written as headers of tables, and as lines `key = value` with quoted text or a decimal
number for the value.  Each line is read for what it says, whatever the lines behind it are.

* `Toml.value?_quote` and `Toml.value?_toDigits` read the two kinds of values.  The number is
  neither a date nor a time nor a floating-point number: `Toml.moment?_digits`,
  `Toml.float?_toDigits`.
* `Toml.line?_header` and `Toml.line?_pair` read the two kinds of lines.
* `Toml.lines?_cons` reads a line in front of others.
-/

set_option autoImplicit false

namespace ColumnLog
namespace Toml

variable {cs rest : List Char} {c : Char} {n : Nat}

/-! ## Digits -/

/-- The characters are decimal digits. -/
def AllDigits (cs : List Char) : Prop := ∀ c ∈ cs, c.isDigit = true

theorem allDigits_toDigits (n : Nat) : AllDigits (Nat.toDigits 10 n) :=
  fun _ mem => Nat.isDigit_of_mem_toDigits (by decide) (by decide) mem

theorem ne_of_isDigit {d : Char} (digit : c.isDigit = true) (other : d.isDigit = false) :
    c ≠ d := by
  rintro rfl
  exact absurd digit (by simp [other])

/-- The first of the digits of a number. -/
theorem exists_cons_toDigits (n : Nat) :
    ∃ c cs, Nat.toDigits 10 n = c :: cs ∧ c.isDigit = true := by
  cases eq : Nat.toDigits 10 n with
  | nil => exact absurd eq Nat.toDigits_ne_nil
  | cons c cs => exact ⟨c, cs, rfl, allDigits_toDigits n c (by rw [eq]; exact List.mem_cons_self)⟩

/-- Decimal digits do not begin with a zero, unless they are those of zero. -/
theorem head?_toDigits (pos : 0 < n) : (Nat.toDigits 10 n).head? ≠ some '0' := by
  induction n using Nat.strongRecOn with
  | ind n ih =>
    rw [Nat.toDigits_eq_if (by decide)]
    split
    · simp [Nat.ne_of_gt pos]
    · have high := ih (n / 10) (by omega) (by omega)
      obtain ⟨c, cs, eq, -⟩ := exists_cons_toDigits (n / 10)
      rw [eq] at high ⊢
      exact high

theorem digit?_of_isDigit (digit : c.isDigit = true) :
    digit? 10 c = some (c.toNat - '0'.toNat) := by
  have range := Char.isDigit_iff_toNat.mp digit
  have small : c.toNat - '0'.toNat < 10 := by
    have : '0'.toNat = 48 := rfl
    have : '9'.toNat = 57 := rfl
    omega
  rw [digit?, Text.hexValue?, if_pos digit, Option.filter_some, if_pos (by simpa using small)]

/-- Digits are read up to the end of the line. -/
theorem moreDigits_append (digits : AllDigits cs) (rest : List Char) :
    moreDigits 10 (cs ++ '\n' :: rest) = (cs.map fun c => c.toNat - '0'.toNat, '\n' :: rest) := by
  induction cs with
  | nil => rfl
  | cons c cs ih =>
    have digit := digits c List.mem_cons_self
    have others := ih fun d mem => digits d (List.mem_cons_of_mem c mem)
    rw [List.cons_append, moreDigits, digit?_of_isDigit digit, others]
    · rfl
    · rintro d behind rfl
      cases digit

theorem digits?_append (digits : AllDigits cs) (ne : cs ≠ []) (rest : List Char) :
    digits? 10 (cs ++ '\n' :: rest) =
      some (cs.map fun c => c.toNat - '0'.toNat, '\n' :: rest) := by
  cases cs with
  | nil => exact absurd rfl ne
  | cons c cs =>
    rw [List.cons_append, digits?, digit?_of_isDigit (digits c List.mem_cons_self),
      moreDigits_append fun d mem => digits d (List.mem_cons_of_mem c mem)]
    rfl

theorem ofDigits_map (cs : List Char) :
    ofDigits 10 (cs.map fun c => c.toNat - '0'.toNat) = Nat.ofDigitChars 10 cs 0 := by
  rw [ofDigits, List.foldl_map, Nat.ofDigitChars]

/-- The digits of a number are those in front of a decimal point, too. -/
theorem whole?_toDigits (n : Nat) (rest : List Char) :
    ∃ ds, whole? (Nat.toDigits 10 n ++ '\n' :: rest) = some (ds, '\n' :: rest) ∧
      ofDigits 10 ds = n := by
  rcases Nat.eq_zero_or_pos n with rfl | pos
  · exact ⟨[0], rfl, rfl⟩
  · refine ⟨_, ?_, (ofDigits_map _).trans (Nat.ofDigitChars_toDigits (by decide) (by decide))⟩
    rw [← digits?_append (allDigits_toDigits n) Nat.toDigits_ne_nil, whole?]
    intro behind eq
    obtain ⟨c, cs, digits, -⟩ := exists_cons_toDigits n
    have first := head?_toDigits pos
    rw [digits] at first eq
    exact first (congrArg some (List.cons.inj eq).1)

/-! ## Numbers -/

theorem sign_toDigits (n : Nat) (rest : List Char) :
    sign (Nat.toDigits 10 n ++ rest) = (false, Nat.toDigits 10 n ++ rest) := by
  obtain ⟨c, cs, eq, digit⟩ := exists_cons_toDigits n
  rw [eq, List.cons_append, sign]
  · rintro _ eq
    exact ne_of_isDigit digit (by decide) (List.cons.inj eq).1
  · rintro _ eq
    exact ne_of_isDigit digit (by decide) (List.cons.inj eq).1

/-- No letter follows the first digit. -/
theorem toDigits_ne (n : Nat) (letter : c.isDigit = false) (line : c ≠ '\n') (d : Char)
    (tail : List Char) : Nat.toDigits 10 n ++ '\n' :: rest ≠ d :: c :: tail := by
  intro eq
  have digits := allDigits_toDigits n
  obtain ⟨first, others, written, -⟩ := exists_cons_toDigits n
  rw [written] at digits eq
  have behind := (List.cons.inj eq).2
  cases others with
  | nil => exact line (List.cons.inj behind).1.symm
  | cons second others =>
    have digit := digits second (List.mem_cons_of_mem first List.mem_cons_self)
    exact ne_of_isDigit digit letter (List.cons.inj behind).1

/-- The digits of a number of at most 63 bits are read as that number. -/
theorem integer?_toDigits (le : n ≤ largestInteger) (rest : List Char) :
    integer? (Nat.toDigits 10 n ++ '\n' :: rest) = some ((n : Int), '\n' :: rest) := by
  obtain ⟨ds, whole, value⟩ := whole?_toDigits n rest
  have range : inRange ((n : Int), '\n' :: rest) = some ((n : Int), '\n' :: rest) :=
    if_pos (by omega)
  rw [integer?, sign_toDigits]
  · simp only [whole, Option.bind_some, value]
    exact range
  all_goals exact toDigits_ne n (by decide) (by decide) '0'

/-- Nothing makes the digits a floating-point number. -/
theorem float?_toDigits (n : Nat) (rest : List Char) :
    float? (Nat.toDigits 10 n ++ '\n' :: rest) = none := by
  obtain ⟨ds, whole, -⟩ := whole?_toDigits n rest
  have unscaled : scale? ('\n' :: rest) = none := rfl
  rw [float?, sign_toDigits]
  split
  · next eq => exact absurd (Prod.mk.inj eq).2 (toDigits_ne n (by decide) (by decide) _ _)
  · next eq => exact absurd (Prod.mk.inj eq).2 (toDigits_ne n (by decide) (by decide) _ _)
  · next negative behind _ _ eq =>
    simp only [← (Prod.mk.inj eq).2, whole, Option.bind_some, unscaled, Option.bind_none]

/-! ## Dates and times -/

theorem isSome_of_mapM {f : Char → Option Nat} {ds : List Nat} (values : cs.mapM f = some ds)
    (mem : c ∈ cs) : (f c).isSome = true := by
  induction cs generalizing ds with
  | nil => cases mem
  | cons d cs ih =>
    simp only [List.mapM_cons, Option.bind_eq_bind, Option.bind_eq_some_iff] at values
    obtain ⟨value, first, values, others, -⟩ := values
    rcases List.mem_cons.mp mem with rfl | mem
    · rw [first]
      rfl
    · exact ih others mem

/-- A number of a fixed size ends within the digits. -/
theorem bounded?_digits {count low high : Nat} {tail : List Char} (digits : AllDigits cs)
    (read : bounded? count low high (cs ++ '\n' :: rest) = some (n, tail)) :
    ∃ behind, AllDigits behind ∧ tail = behind ++ '\n' :: rest := by
  simp only [bounded?] at read
  split at read
  · cases read
  · split at read
    · cases read
    · next ds values =>
      have within : count ≤ cs.length := by
        refine Nat.le_of_not_lt fun short => ?_
        have line : '\n' ∈ (cs ++ '\n' :: rest).take count := by
          refine List.mem_take_iff_getElem.mpr ⟨cs.length, ?_, ?_⟩
          · simp only [List.length_append, List.length_cons]
            omega
          · simp
        exact absurd (isSome_of_mapM values line) (by decide)
      split at read
      · cases read
        refine ⟨cs.drop count, fun c mem => digits c (List.mem_of_mem_drop mem), ?_⟩
        exact List.drop_append_of_le_length within
      · cases read

theorem after?_digits (digits : AllDigits cs) (letter : c.isDigit = false) (line : c ≠ '\n')
    (rest : List Char) : after? c (cs ++ '\n' :: rest) = none := by
  cases cs with
  | nil => exact if_neg line.symm
  | cons d cs => exact if_neg (ne_of_isDigit (digits d List.mem_cons_self) letter)

/-- Behind the first number of a date there is a dash, and of a time a colon. -/
theorem moment?_digits (digits : AllDigits cs) (rest : List Char) :
    moment? (cs ++ '\n' :: rest) = none := by
  have day : day? (cs ++ '\n' :: rest) = none := by
    cases read : bounded? 4 0 9999 (cs ++ '\n' :: rest) with
    | none => simp [day?, read]
    | some pair =>
      obtain ⟨behind, digits, eq⟩ := bounded?_digits digits read
      have dash := after?_digits digits (by decide : '-'.isDigit = false) (by decide) rest
      simp [day?, read, eq, dash]
  have time : time? (cs ++ '\n' :: rest) = none := by
    cases read : bounded? 2 0 23 (cs ++ '\n' :: rest) with
    | none => simp [time?, read]
    | some pair =>
      obtain ⟨behind, digits, eq⟩ := bounded?_digits digits read
      have colon := after?_digits digits (by decide : ':'.isDigit = false) (by decide) rest
      simp [time?, read, eq, colon]
  rw [moment?, day, time]
  rfl

/-! ## Values -/

/-- Only a bracket or a brace begins a value that holds others. -/
theorem value?_cons (array : c ≠ '[') (table : c ≠ '\x7b') (cs : List Char) :
    value? (c :: cs) = simple? (c :: cs) := by
  -- The limit as a successor, so that one step of the recursion can be taken.
  change nested? (depthLimit - 1 + 1) (c :: cs) = _
  rw [nested?]
  dsimp only
  split
  · next eq => exact absurd (List.cons.inj eq).1 array
  · next eq => exact absurd (List.cons.inj eq).1 table
  · rfl

/-- There are two words without quotes, told by their first letters. -/
theorem word?_cons (t : c ≠ 't') (f : c ≠ 'f') (cs : List Char) :
    word? (c :: cs) = (quotedText? (c :: cs)).map fun (content, rest) => (.text content, rest) := by
  unfold word?
  split
  · next eq => exact absurd (List.cons.inj eq).1 t
  · next eq => exact absurd (List.cons.inj eq).1 f
  · rfl

theorem quotedText?_cons (basic : c ≠ '"') (literal : c ≠ '\'') (cs : List Char) :
    quotedText? (c :: cs) = none := by
  unfold quotedText?
  split
  · next eq => exact absurd (List.cons.inj eq).1 basic
  · next eq => exact absurd (List.cons.inj eq).1 basic
  · next eq => exact absurd (List.cons.inj eq).1 literal
  · next eq => exact absurd (List.cons.inj eq).1 literal
  · rfl

/-- A written number is read as that number. -/
theorem value?_toDigits (le : n ≤ largestInteger) (rest : List Char) :
    value? (Nat.toDigits 10 n ++ '\n' :: rest) = some (.integer n, '\n' :: rest) := by
  have integer := integer?_toDigits le rest
  have float := float?_toDigits n rest
  have moment := moment?_digits (allDigits_toDigits n) rest
  obtain ⟨c, cs, written, digit⟩ := exists_cons_toDigits n
  have ne : ∀ d, d.isDigit = false → c ≠ d := fun d other => ne_of_isDigit digit other
  rw [written, List.cons_append] at integer float moment ⊢
  rw [value?_cons (ne _ (by decide)) (ne _ (by decide)), simple?,
    word?_cons (ne _ (by decide)) (ne _ (by decide)),
    quotedText?_cons (ne _ (by decide)) (ne _ (by decide)), moment, float, integer]
  rfl

/-- Written text is read as that text. -/
theorem value?_quote (s : String) (rest : List Char) :
    value? ((quote s).toList ++ '\n' :: rest) = some (.text s, '\n' :: rest) := by
  have quoted : quotedText? ((quote s).toList ++ '\n' :: rest) = some (s, '\n' :: rest) :=
    quotedText?_quote s (by simp) (by simp)
  obtain ⟨c, cs, written, first⟩ := exists_cons_quote s
  have ne : ∀ d, d ≠ '"' → d ≠ '\'' → c ≠ d := by
    rintro d basic literal rfl
    exact first.elim basic literal
  rw [written, List.cons_append] at quoted ⊢
  rw [value?_cons (ne _ (by decide) (by decide)) (ne _ (by decide) (by decide)), simple?,
    word?_cons (ne _ (by decide) (by decide)) (ne _ (by decide) (by decide)), quoted]
  rfl

/-! ## Lines -/

/-- The characters make a key without quotes. -/
def Bare (key : List Char) : Prop := key ≠ [] ∧ key.all isBare = true

theorem ne_of_isBare {d : Char} (bare : isBare c = true) (other : isBare d = false) : c ≠ d := by
  rintro rfl
  exact absurd bare (by simp [other])

theorem Bare.exists_cons {key : List Char} (bare : Bare key) :
    ∃ c cs, key = c :: cs ∧ isBare c = true := by
  cases key with
  | nil => exact absurd rfl bare.1
  | cons c cs => exact ⟨c, cs, rfl, List.all_eq_true.mp bare.2 c List.mem_cons_self⟩

theorem skipSpaces_cons (visible : isSpace c = false) (cs : List Char) :
    skipSpaces (c :: cs) = c :: cs := List.dropWhile_cons_of_neg (by simp [visible])

theorem isSpace_of_isBare (bare : isBare c = true) : isSpace c = false := by
  have space : c ≠ ' ' := ne_of_isBare bare (by decide)
  have tab : c ≠ '\t' := ne_of_isBare bare (by decide)
  simp [isSpace, space, tab]

theorem key?_bare {key : List Char} (bare : Bare key) (stop : isBare c = false)
    (rest : List Char) :
    key? (key ++ c :: rest) = some (String.ofList key, c :: rest) := by
  have letters := List.all_eq_true.mp bare.2
  have taken : (key ++ c :: rest).takeWhile isBare = key := by
    rw [List.takeWhile_append_of_pos letters, List.takeWhile_cons_of_neg (by simp [stop]),
      List.append_nil]
  have dropped : (key ++ c :: rest).dropWhile isBare = c :: rest := by
    rw [List.dropWhile_append_of_pos letters, List.dropWhile_cons_of_neg (by simp [stop])]
  obtain ⟨first, others, rfl, letter⟩ := bare.exists_cons
  unfold key?
  split
  · next eq => exact absurd (List.cons.inj eq).1 (ne_of_isBare letter (by decide))
  · next eq => exact absurd (List.cons.inj eq).1 (ne_of_isBare letter (by decide))
  · rw [taken, dropped]

/-- A key without dots. -/
theorem keys?_bare {key : List Char} (bare : Bare key) (stop : isBare c = false)
    (rest : List Char) (single : ∀ tail, skipSpaces (c :: rest) ≠ '.' :: tail) :
    keys? (key ++ c :: rest) = some ([String.ofList key], skipSpaces (c :: rest)) := by
  have read := key?_bare bare stop rest
  obtain ⟨first, others, rfl, letter⟩ := bare.exists_cons
  change dotted? (depthLimit - 1 + 1) (first :: (others ++ c :: rest)) = _
  rw [dotted?, skipSpaces_cons (isSpace_of_isBare letter), ← List.cons_append, read]
  simp only [Option.bind_some]

/-- Something else than a comment. -/
theorem endOfLine?_bare (bare : isBare c = true) (cs : List Char) :
    endOfLine? (c :: cs) = none := by
  have comment : c ≠ '#' := ne_of_isBare bare (by decide)
  have line : c ≠ '\n' := ne_of_isBare bare (by decide)
  have cr : c ≠ '\r' := ne_of_isBare bare (by decide)
  have starts : startsWithBreak (c :: cs) = false := by
    unfold startsWithBreak
    split
    · next eq => exact absurd (List.cons.inj eq).1 line
    · next eq => exact absurd (List.cons.inj eq).1 cr
    · rfl
  simp [endOfLine?, skipSpaces_cons (isSpace_of_isBare bare), comment, starts]

/-- The line with the header of a table. -/
theorem line?_header (draft : Draft) {key : List Char} (bare : Bare key) (rest : List Char) :
    line? draft ('[' :: (key ++ ']' :: '\n' :: rest)) =
      (draft.openTable [String.ofList key]).map (·, rest) := by
  have read := keys?_bare bare (by decide : isBare ']' = false) ('\n' :: rest) (by
    rintro tail eq
    cases eq)
  obtain ⟨first, others, rfl, letter⟩ := bare.exists_cons
  unfold line?
  rw [skipSpaces_cons (by decide)]
  split
  · next eq =>
    exact absurd (List.cons.inj (List.cons.inj eq).2).1 (ne_of_isBare letter (by decide))
  · next eq =>
    rw [← (List.cons.inj eq).2, read, Option.map_eq_bind]
    rfl
  · next no => exact absurd rfl (no _)

/-- The line that sets a key. -/
theorem line?_pair (draft : Draft) {key written : List Char} {value : Value} (bare : Bare key)
    (read : value? (written ++ '\n' :: rest) = some (value, '\n' :: rest))
    (visible : skipSpaces (written ++ '\n' :: rest) = written ++ '\n' :: rest) :
    line? draft (key ++ ' ' :: '=' :: ' ' :: (written ++ '\n' :: rest)) =
      (draft.set [String.ofList key] value).map (·, rest) := by
  have keys := keys?_bare bare (by decide : isBare ' ' = false)
    ('=' :: ' ' :: (written ++ '\n' :: rest)) (by
      rintro tail eq
      cases eq)
  have pair : pair? value? (key ++ ' ' :: '=' :: ' ' :: (written ++ '\n' :: rest)) =
      some (([String.ofList key], value), '\n' :: rest) := by
    have equals : after? '=' (skipSpaces (' ' :: '=' :: ' ' :: (written ++ '\n' :: rest))) =
        some (' ' :: (written ++ '\n' :: rest)) := rfl
    have space : skipSpaces (' ' :: (written ++ '\n' :: rest)) = written ++ '\n' :: rest := visible
    simp only [pair?, keys, Option.bind_some, equals, space, read, Option.map_some]
  obtain ⟨first, others, rfl, letter⟩ := bare.exists_cons
  unfold line?
  rw [List.cons_append, skipSpaces_cons (isSpace_of_isBare letter)]
  split
  · next eq => exact absurd (List.cons.inj eq).1 (ne_of_isBare letter (by decide))
  · next eq => exact absurd (List.cons.inj eq).1 (ne_of_isBare letter (by decide))
  · rw [endOfLine?_bare letter]
    rw [← List.cons_append, pair, Option.map_eq_bind]
    rfl

/-- A line in front of others. -/
theorem lines?_cons {fuel : Nat} {draft next : Draft} (ne : cs ≠ [])
    (read : line? draft cs = some (next, rest)) :
    lines? (fuel + 1) draft cs = lines? fuel next rest := by
  rw [lines?, read, Option.bind_some]
  exact ne

end Toml
end ColumnLog
