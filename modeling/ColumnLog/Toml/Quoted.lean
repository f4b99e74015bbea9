import ColumnLog.Text.Hex

/-!
# Quoted text in TOML

The four ways to put text between quotes.  Basic text has backslash forms, literal text has none;
between triple quotes either may run over several lines, and a line break behind the opening quotes
does not count.

* `Toml.quotedText?` reads text in any of the four ways.
* `Toml.quote` writes text in the first way that needs no backslash form, or as basic text.
-/

set_option autoImplicit false

namespace ColumnLog
namespace Toml

/-- What is read off the front of a text, and the rest. -/
abbrev Reader (α : Type) := List Char → Option (α × List Char)

/-- Puts a character in front of what was read. -/
def push (c : Char) : List Char × List Char → List Char × List Char
  | (cs, rest) => (c :: cs, rest)

/-- Whether the character may stand in a line as it is: all but the control characters, of which
only the tab may. -/
def isPlain (c : Char) : Bool := c == '\t' || (decide (0x20 ≤ c.toNat) && c != '\x7f')

/-! ## Reading -/

/-- The character whose number is written by exactly `count` hexadecimal digits. -/
def numbered? (count : Nat) : Reader Char := fun cs =>
  if cs.length < count then none
  else
    match Text.hexNumber? (cs.take count) with
    | some n => if n.isValidChar then some (Char.ofNat n, cs.drop count) else none
    | none => none

/-- The characters with a backslash form of one letter. -/
def named : List (Char × Char) :=
  [('b', '\x08'), ('t', '\t'), ('n', '\n'), ('f', '\x0c'), ('r', '\r'), ('"', '"'), ('\\', '\\')]

/-- The character that stands behind a backslash. -/
def escaped? : Reader Char
  | [] => none
  | c :: cs =>
    match named.lookup c with
    | some d => some (d, cs)
    | none => if c = 'u' then numbered? 4 cs else if c = 'U' then numbered? 8 cs else none

theorem length_numbered? {count : Nat} {cs rest : List Char} {c : Char}
    (h : numbered? count cs = some (c, rest)) : rest.length ≤ cs.length := by
  unfold numbered? at h
  grind

theorem length_escaped? {cs rest : List Char} {c : Char} (h : escaped? cs = some (c, rest)) :
    rest.length < cs.length := by
  cases cs with
  | nil => simp [escaped?] at h
  | cons d cs =>
    simp only [escaped?] at h
    split at h
    · grind
    · split at h
      · have := length_numbered? h
        grind
      · split at h
        · have := length_numbered? h
          grind
        · simp at h

/-- The rest of basic text, behind its opening quote. -/
def basicText? (cs : List Char) : Option (List Char × List Char) :=
  match cs with
  | [] => none
  | c :: cs =>
    if c = '"' then some ([], cs)
    else if c = '\\' then
      match _h : escaped? cs with
      | some (d, rest) => (basicText? rest).map (push d)
      | none => none
    else if isPlain c then (basicText? cs).map (push c)
    else none
termination_by cs.length
decreasing_by
  · have := length_escaped? _h
    grind
  · grind

/-- The rest of literal text, behind its opening quote. -/
def literalText? : List Char → Option (List Char × List Char)
  | [] => none
  | c :: cs =>
    if c = '\'' then some ([], cs)
    else if isPlain c then (literalText? cs).map (push c)
    else none

/-- The text without the line break in front. -/
def skipBreak : List Char → List Char
  | '\n' :: cs => cs
  | '\r' :: '\n' :: cs => cs
  | cs => cs

/-- Whether the text begins with a line break. -/
def startsWithBreak : List Char → Bool
  | '\n' :: _ => true
  | '\r' :: '\n' :: _ => true
  | _ => false

/-- Whether the character is a space or a tab. -/
def isSpace (c : Char) : Bool := c == ' ' || c == '\t'

/-- The text without the spaces and line breaks in front. -/
def skipBlanks : List Char → List Char
  | [] => []
  | c :: cs =>
    if isSpace c || c == '\n' then skipBlanks cs
    else if startsWithBreak (c :: cs) then skipBlanks cs
    else c :: cs

/-- The text at the first character that is no quote, if it stands behind at least three of them:
up to two more belong to the text itself. -/
def closing? (quote : Char) (cs : List Char) : Option (List Char × List Char) :=
  let count := (cs.takeWhile (· == quote)).length
  if count < 3 then none
  else some (List.replicate (min (count - 3) 2) quote, cs.drop (min count 5))

theorem length_skipBlanks (cs : List Char) : (skipBlanks cs).length ≤ cs.length := by
  fun_induction skipBlanks cs <;> grind

/-- The rest of basic text over several lines.  A backslash at the end of a line takes away the
blanks and line breaks behind it. -/
def basicLines? (cs : List Char) : Option (List Char × List Char) :=
  match cs with
  | [] => none
  | c :: cs =>
    if c = '"' then
      match closing? '"' (c :: cs) with
      | some closed => some closed
      | none => (basicLines? cs).map (push c)
    else if c = '\\' then
      if startsWithBreak (cs.dropWhile isSpace) then basicLines? (skipBlanks cs)
      else
        match _h : escaped? cs with
        | some (d, rest) => (basicLines? rest).map (push d)
        | none => none
    else if c = '\n' ∨ isPlain c then (basicLines? cs).map (push c)
    else if startsWithBreak (c :: cs) then basicLines? cs
    else none
termination_by cs.length
decreasing_by
  · grind
  · have := length_skipBlanks cs
    grind
  · have := length_escaped? _h
    grind
  · grind
  · grind

/-- The rest of literal text over several lines. -/
def literalLines? : List Char → Option (List Char × List Char)
  | [] => none
  | c :: cs =>
    if c = '\'' then
      match closing? '\'' (c :: cs) with
      | some closed => some closed
      | none => (literalLines? cs).map (push c)
    else if c = '\n' ∨ isPlain c then (literalLines? cs).map (push c)
    else if startsWithBreak (c :: cs) then literalLines? cs
    else none

/-- Reads quoted text. -/
def quotedText? : Reader String := fun cs =>
  let read := match cs with
    | '"' :: '"' :: '"' :: cs => basicLines? (skipBreak cs)
    | '"' :: cs => basicText? cs
    | '\'' :: '\'' :: '\'' :: cs => literalLines? (skipBreak cs)
    | '\'' :: cs => literalText? cs
    | _ => none
  read.map fun (text, rest) => (String.ofList text, rest)

/-! ## Writing -/

/-- A way to quote text. -/
inductive QuoteStyle where
  | basic
  | literal
  | basicLines
  | literalLines
  deriving DecidableEq, Repr

/-- Whether the character cannot stand in any text as it is. -/
def needsEscape (c : Char) : Bool := !(c == '\n' || isPlain c)

/-- The most copies of a character in a row; `run` of them stand in front. -/
def longestRun (c : Char) (run : Nat) : List Char → Nat
  | [] => run
  | d :: cs => if d = c then longestRun c (run + 1) cs else max run (longestRun c 0 cs)

/-- Whether text can be written in a style without backslash forms, those of tabs apart. -/
def QuoteStyle.fits (cs : List Char) : QuoteStyle → Bool
  | basic => cs.all fun c => !needsEscape c && c != '\\' && c != '"' && c != '\n'
  | literal => cs.all fun c => !needsEscape c && c != '\'' && c != '\n'
  | basicLines => (cs.all fun c => !needsEscape c && c != '\\') && decide (longestRun '"' 0 cs < 3)
  | literalLines => (cs.all fun c => !needsEscape c) && decide (longestRun '\'' 0 cs < 3)

/-- The first style that fits, or basic text with backslash forms. -/
def QuoteStyle.choose (cs : List Char) : QuoteStyle :=
  match [basic, literal, basicLines, literalLines].find? (fits cs) with
  | some style => style
  | none => if '\n' ∈ cs then basicLines else basic

/-- A character in basic text, in its backslash form if it has one. -/
def basicChar (c : Char) : List Char :=
  match named.find? (·.2 == c) with
  | some (letter, _) => ['\\', letter]
  | none => if isPlain c then [c] else '\\' :: 'u' :: (Text.hexFixed 4 c.toNat).map Char.toUpper

/-- Basic text over several lines; `run` quotes stand in front.  The third quote in a row takes its
backslash form. -/
def basicLines (run : Nat) : List Char → List Char
  | [] => []
  | c :: cs =>
    if c = '"' then
      if run = 2 then '\\' :: '"' :: basicLines 0 cs else '"' :: basicLines (run + 1) cs
    else if c = '\n' then '\n' :: basicLines 0 cs
    else basicChar c ++ basicLines 0 cs

/-- The line break behind triple quotes: text of several lines begins on a line of its own. -/
def openingBreak (cs : List Char) : List Char := if '\n' ∈ cs then ['\n'] else []

/-- Text between quotes of the given style. -/
def QuoteStyle.write (cs : List Char) : QuoteStyle → List Char
  | basic => ['"'] ++ cs.flatMap basicChar ++ ['"']
  | literal => ['\''] ++ cs ++ ['\'']
  | .basicLines => ['"', '"', '"'] ++ openingBreak cs ++ Toml.basicLines 0 cs ++ ['"', '"', '"']
  | literalLines => ['\'', '\'', '\''] ++ openingBreak cs ++ cs ++ ['\'', '\'', '\'']

/-- Writes text between quotes. -/
def quote (s : String) : String :=
  String.ofList ((QuoteStyle.choose s.toList).write s.toList)

end Toml
end ColumnLog
