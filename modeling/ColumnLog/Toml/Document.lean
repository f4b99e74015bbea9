import ColumnLog.Toml.Moment

/-!
# TOML documents

A document is read line by line: blank lines and comments, headers of tables, and keys with their
values.

* `Toml.value?` reads a value, with at most `depthLimit` arrays and inline tables in one another.
* `Toml.line?` reads a line into a `Toml.Draft`, the document so far and the header last met.
* `Toml.parse` reads a document, or answers nothing if some line is malformed or defines something
  twice.
-/

set_option autoImplicit false

namespace ColumnLog
namespace Toml

/-! ## Keys -/

/-- Whether the character may stand in a key without quotes. -/
def isBare (c : Char) : Bool := c.isAlphanum || c == '-' || c == '_'

/-- The text without the spaces in front. -/
def skipSpaces (cs : List Char) : List Char := cs.dropWhile isSpace

/-- Reads a single key: quoted text of one line, or a word. -/
def key? : Reader String := fun cs =>
  match cs with
  | '"' :: cs => (basicText? cs).map fun (key, rest) => (String.ofList key, rest)
  | '\'' :: cs => (literalText? cs).map fun (key, rest) => (String.ofList key, rest)
  | cs =>
    match cs.takeWhile isBare with
    | [] => none
    | key => some (String.ofList key, cs.dropWhile isBare)

/-- Reads a dotted key of at most the given number of parts, and the spaces around them. -/
def dotted? : Nat → Reader (List String)
  | 0, _ => none
  | limit + 1, cs =>
    (key? (skipSpaces cs)).bind fun (key, cs) =>
      match skipSpaces cs with
      | '.' :: cs => (dotted? limit cs).map fun (keys, rest) => (key :: keys, rest)
      | rest => some ([key], rest)

/-- How deep arrays and inline tables may lie in one another; a dotted key has no more parts
either. -/
def depthLimit : Nat := 79

/-- Reads a dotted key. -/
def keys? : Reader (List String) := dotted? depthLimit

/-! ## Values -/

/-- The text without the spaces, line breaks and comments in front.  The flag tells whether it
begins inside a comment. -/
def skipLines (comment : Bool) : List Char → List Char
  | [] => []
  | c :: cs =>
    if comment && isPlain c then skipLines true cs
    else if isSpace c || c == '\n' then skipLines false cs
    else if startsWithBreak (c :: cs) then skipLines false cs
    else if c == '#' then skipLines true cs
    else c :: cs

/-- Reads the items of an array, behind its bracket.  A comma may follow the last one. -/
def items? (value? : Reader Value) : Nat → Reader (List Value)
  | 0, _ => none
  | fuel + 1, cs =>
    match skipLines false cs with
    | ']' :: rest => some ([], rest)
    | cs =>
      (value? cs).bind fun (value, cs) =>
        match skipLines false cs with
        | ']' :: rest => some ([value], rest)
        | ',' :: cs => (items? value? fuel cs).map fun (values, rest) => (value :: values, rest)
        | _ => none

/-- Reads a dotted key, an equals sign and a value. -/
def pair? (value? : Reader Value) : Reader (List String × Value) := fun cs =>
  (keys? cs).bind fun (keys, cs) =>
    (after? '=' cs).bind fun cs =>
      (value? (skipSpaces cs)).map fun (value, rest) => ((keys, value), rest)

/-- Reads the pairs of an inline table, behind its brace. -/
def pairs? (value? : Reader Value) : Nat → Reader (List (List String × Value))
  | 0, _ => none
  | fuel + 1, cs =>
    (pair? value? cs).bind fun (pair, cs) =>
      match skipSpaces cs with
      | '\x7d' :: rest => some ([pair], rest)
      | ',' :: cs => (pairs? value? fuel cs).map fun (pairs, rest) => (pair :: pairs, rest)
      | _ => none

/-- Reads an inline table, behind its brace. -/
def inlineTable? (value? : Reader Value) : Reader Value := fun cs =>
  match skipSpaces cs with
  | '\x7d' :: rest => some (.table .inline [], rest)
  | _ =>
    (pairs? value? cs.length cs).bind fun (pairs, rest) =>
      let entries? : Option Entries :=
        pairs.foldlM (fun entries (keys, value) => assign keys value entries) []
      entries?.map fun entries => (.table .inline entries, rest)

/-- Reads a value that is no number. -/
def word? : Reader Value
  | 't' :: 'r' :: 'u' :: 'e' :: rest => some (.boolean true, rest)
  | 'f' :: 'a' :: 'l' :: 's' :: 'e' :: rest => some (.boolean false, rest)
  | cs => (quotedText? cs).map fun (content, rest) => (.text content, rest)

/-- Reads a value that holds no others. -/
def simple? : Reader Value := fun cs =>
  word? cs <|> moment? cs <|> float? cs <|> (integer? cs).map fun (n, rest) => (.integer n, rest)

/-- Reads a value, with at most the given number of arrays and inline tables in one another. -/
def nested? : Nat → Reader Value
  | 0 => fun cs => simple? cs
  | depth + 1 => fun cs =>
    match cs with
    | '[' :: cs =>
      (items? (nested? depth) cs.length cs).map fun (items, rest) => (.array items, rest)
    | '\x7b' :: cs => inlineTable? (nested? depth) cs
    | cs => simple? cs

/-- Reads a value. -/
def value? : Reader Value := nested? depthLimit

/-! ## Lines -/

/-- A document that is being read. -/
structure Draft where
  /-- What the lines so far define. -/
  entries : Entries
  /-- The path of the header last met, to which the next keys belong. -/
  header : List String

/-- The text behind the end of a line, in front of which there may be a comment. -/
def endOfLine? (cs : List Char) : Option (List Char) :=
  let rest := match skipSpaces cs with
    | '#' :: cs => cs.dropWhile isPlain
    | cs => cs
  if rest = [] ∨ startsWithBreak rest then some (skipBreak rest) else none

/-- Sets a dotted key below the header last met. -/
def Draft.set (draft : Draft) (keys : List String) (value : Value) : Option Draft :=
  (modifyAt false (fun _ => assign keys value) draft.header .header draft.entries).map
    fun entries => { draft with entries }

/-- The draft behind the header of a table. -/
def Draft.openTable (draft : Draft) (keys : List String) : Option Draft :=
  (Toml.openTable keys draft.entries).map fun entries => ⟨entries, keys⟩

/-- The draft behind the header of one of the tables under a name. -/
def Draft.openItem (draft : Draft) (keys : List String) : Option Draft :=
  (Toml.openItem keys draft.entries).map fun entries => ⟨entries, keys⟩

/-- Reads a line. -/
def line? (draft : Draft) : Reader Draft := fun cs =>
  match skipSpaces cs with
  | '[' :: '[' :: cs => do
    let (keys, cs) ← keys? cs
    let rest ← endOfLine? (← after? ']' (← after? ']' cs))
    return (← draft.openItem keys, rest)
  | '[' :: cs => do
    let (keys, cs) ← keys? cs
    let rest ← endOfLine? (← after? ']' cs)
    return (← draft.openTable keys, rest)
  | cs =>
    match endOfLine? cs with
    | some rest => some (draft, rest)
    | none => do
      let ((keys, value), cs) ← pair? value? cs
      let rest ← endOfLine? cs
      return (← draft.set keys value, rest)

/-- Reads lines up to the end of the text. -/
def lines? : Nat → Draft → List Char → Option Entries
  | _, draft, [] => some draft.entries
  | 0, _, _ => none
  | fuel + 1, draft, cs => (line? draft cs).bind fun (draft, rest) => lines? fuel draft rest

/-- The text without a byte order mark. -/
def skipMark : List Char → List Char
  | '\ufeff' :: cs => cs
  | cs => cs

/-- The table that a document describes. -/
def parse (text : String) : Option Entries :=
  let cs := skipMark text.toList
  lines? cs.length ⟨[], []⟩ cs

end Toml
end ColumnLog
