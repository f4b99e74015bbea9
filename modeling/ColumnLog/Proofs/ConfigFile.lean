import ColumnLog.Config
import ColumnLog.Proofs.DocumentLines
import ColumnLog.Proofs.Files

/-!
# The configuration in its file

A configuration is written without a look at its values, and read with one.  What was written is
read as the same configuration, or refused for a value that is out of order; only a capacity that is
no integer of TOML cannot be written, and then nothing happens to the file.

* `Config.Fits` and `Config.Valid` are what writing and reading ask for.
* `Config.parse_write` reads what was written, `Config.parse_defaultText` the default text.
* `Config.file_exact` is the result, for files: wherever there is room for one
  (`FileTree.HasRoom`).
-/

set_option autoImplicit false

namespace ColumnLog
namespace Config

variable {config : Config}

/-! ## Values in order -/

/-- The capacity is an integer of TOML, if there is one. -/
def Fits (config : Config) : Prop := ∀ n, config.capacity = some n → n ≤ Nat.pow 2 63 - 1

/-- The name is not blank, and the capacity not zero. -/
def Valid (config : Config) : Prop := Text.trim config.name ≠ "" ∧ config.capacity ≠ some 0

theorem trim_eq_empty_iff (s : String) : Text.trim s = "" ↔ Text.isAllBlank s = true := by
  rw [Text.isAllBlank, ← Text.trimChars_eq_nil_iff, Text.trim, String.ofList_eq_empty_iff]

theorem checked_of_valid (valid : config.Valid) : config.checked = .ok config := by
  have name : ¬ Text.isAllBlank config.name = true := fun blank =>
    valid.1 ((trim_eq_empty_iff _).mpr blank)
  rw [checked, validate, if_neg name, if_neg valid.2]
  rfl

theorem checked_of_not_valid (invalid : ¬ config.Valid) :
    ∃ flaw, config.checked = .error (.invalid flaw) := by
  unfold checked validate
  split
  · exact ⟨.emptyName, rfl⟩
  · next name =>
    have zero : config.capacity = some 0 := by
      refine Decidable.of_not_not fun capacity => invalid ⟨?_, capacity⟩
      exact fun blank => name ((trim_eq_empty_iff _).mp blank)
    rw [if_pos zero]
    exact ⟨.zeroCapacity, rfl⟩

/-! ## Writing and reading -/

theorem any_largestInteger : config.capacity.any (Toml.largestInteger < ·) = true ↔
    ¬ config.Fits := by
  have largest : Toml.largestInteger = Nat.pow 2 63 - 1 := rfl
  simp [Fits, largest, Option.any_eq_true]

theorem write_of_not_fits (large : ¬ config.Fits) : config.write = .error .serialize :=
  if_pos (any_largestInteger.mpr large)

/-- The text of a configuration, line by line. -/
def lines (config : Config) : List Char :=
  '[' :: ("pool".toList ++ ']' :: '\n' ::
    ("name".toList ++ ' ' :: '=' :: ' ' :: ((Toml.quote config.name).toList ++ '\n' ::
      (capacityLine config.capacity).toList)))

theorem write_of_fits (fits : config.Fits) :
    ∃ text, config.write = .ok text ∧ text.toList = config.lines := by
  refine ⟨_, if_neg fun large => any_largestInteger.mp large fits, ?_⟩
  simp only [String.toList_append, toString]
  simp [lines]

theorem toList_capacityLine (n : Nat) :
    (capacityLine (some n)).toList =
      "capacity_bytes".toList ++ ' ' :: '=' :: ' ' :: (Nat.toDigits 10 n ++ ['\n']) := by
  have line : capacityLine (some n) = "capacity_bytes = " ++ n.repr ++ "\n" := rfl
  simp [line]

/-- The document of a configuration: one table, with its settings. -/
def document (config : Config) : Toml.Entries :=
  [("pool", .table .header (("name", .text config.name) ::
    (config.capacity.map fun n => ("capacity_bytes", Toml.Value.integer n)).toList))]

theorem ofDocument_document (config : Config) : ofDocument config.document = some config := by
  obtain ⟨name, capacity⟩ := config
  cases capacity with
  | none => rfl
  | some n => rfl

/-- The draft below the header of the section. -/
def sectionDraft (entries : Toml.Entries) : Toml.Draft :=
  ⟨[("pool", .table .header entries)], ["pool"]⟩

theorem set_sectionDraft {entries : Toml.Entries} {key : String} (value : Toml.Value)
    (fresh : entries.lookup key = none) :
    (sectionDraft entries).set [key] value = some (sectionDraft (entries ++ [(key, value)])) := by
  simp [sectionDraft, Toml.Draft.set, Toml.modifyAt, Toml.assign, Toml.addKey, Keyed.put, fresh]

/-- A line of the section, in front of others. -/
theorem line?_setting {entries : Toml.Entries} {key : String} {written rest : List Char}
    {value : Toml.Value} (bare : Toml.Bare key.toList) (fresh : entries.lookup key = none)
    (read : Toml.value? (written ++ '\n' :: rest) = some (value, '\n' :: rest))
    (visible : Toml.skipSpaces (written ++ '\n' :: rest) = written ++ '\n' :: rest) :
    Toml.line? (sectionDraft entries)
        (key.toList ++ ' ' :: '=' :: ' ' :: (written ++ '\n' :: rest)) =
      some (sectionDraft (entries ++ [(key, value)]), rest) := by
  rw [Toml.line?_pair _ bare read visible, String.ofList_toList, set_sectionDraft value fresh]
  rfl

theorem line?_section (rest : List Char) :
    Toml.line? ⟨[], []⟩ ('[' :: ("pool".toList ++ ']' :: '\n' :: rest)) =
      some (sectionDraft [], rest) := by
  have bare : Toml.Bare "pool".toList := ⟨by decide, by decide⟩
  rw [Toml.line?_header _ bare, String.ofList_toList]
  rfl

theorem line?_name (name : String) (rest : List Char) :
    Toml.line? (sectionDraft [])
        ("name".toList ++ ' ' :: '=' :: ' ' :: ((Toml.quote name).toList ++ '\n' :: rest)) =
      some (sectionDraft [("name", .text name)], rest) := by
  refine line?_setting ⟨by decide, by decide⟩ rfl (Toml.value?_quote name rest) ?_
  obtain ⟨c, cs, written, rfl | rfl⟩ := Toml.exists_cons_quote name <;> rw [written] <;> rfl

theorem line?_capacity {n : Nat} (le : n ≤ Toml.largestInteger) (name : String) :
    Toml.line? (sectionDraft [("name", .text name)]) (capacityLine (some n)).toList =
      some (sectionDraft [("name", .text name), ("capacity_bytes", .integer n)], []) := by
  rw [toList_capacityLine]
  refine line?_setting ⟨by decide, by decide⟩ rfl (Toml.value?_toDigits le []) ?_
  obtain ⟨c, cs, written, digit⟩ := Toml.exists_cons_toDigits n
  have space : c ≠ ' ' := Toml.ne_of_isDigit digit (by decide)
  have tab : c ≠ '\t' := Toml.ne_of_isDigit digit (by decide)
  rw [written]
  exact Toml.skipSpaces_cons (by simp [Toml.isSpace, space, tab]) _

theorem lines?_nil (fuel : Nat) (draft : Toml.Draft) :
    Toml.lines? fuel draft [] = some draft.entries := by
  rw [Toml.lines?]

/-- The lines of a configuration, read one after the other. -/
theorem parse_lines {text : String} (fits : config.Fits) (written : text.toList = config.lines) :
    Toml.parse text = some config.document := by
  have unmarked : Toml.skipMark config.lines = config.lines := rfl
  -- There are at most three lines, and more characters than that.
  obtain ⟨fuel, size⟩ : ∃ fuel, config.lines.length = fuel + 3 :=
    ⟨config.lines.length - 3, by simp [lines]⟩
  simp only [Toml.parse, written, unmarked, size]
  rw [lines, Toml.lines?_cons (by simp) (line?_section _),
    Toml.lines?_cons (by simp) (line?_name config.name _)]
  cases capacity : config.capacity with
  | none =>
    have nothing : (capacityLine none).toList = [] := rfl
    rw [nothing, lines?_nil, document, capacity]
    rfl
  | some n =>
    have some : (capacityLine (some n)).toList ≠ [] := by simp [toList_capacityLine]
    rw [Toml.lines?_cons some (line?_capacity (fits n capacity) config.name), lines?_nil,
      document, capacity]
    rfl

/-- What was written is read as the same configuration, up to the look at its values. -/
theorem parse_write (fits : config.Fits) :
    ∃ text, config.write = .ok text ∧ parse text = config.checked := by
  obtain ⟨text, written, lines⟩ := write_of_fits fits
  refine ⟨text, written, ?_⟩
  rw [parse, parse_lines fits lines, Option.bind_some, ofDocument_document]

/-- The parts of a text can be taken apart one by one: long text as a whole is slow to compute
with. -/
theorem parse_append (a b c : String) :
    Toml.parse (a ++ b ++ c) =
      Toml.lines? (Toml.skipMark (a.toList ++ b.toList ++ c.toList)).length ⟨[], []⟩
        (Toml.skipMark (a.toList ++ b.toList ++ c.toList)) := by
  simp only [Toml.parse, String.toList_append]

/-- The default text sets what is set without it. -/
theorem parse_defaultText : parse defaultText = .ok {} := by
  have read : (Toml.parse defaultText).bind ofDocument = some {} := by
    refine (congrArg (Option.bind · ofDocument) (parse_append _ _ _)).trans ?_
    decide +kernel
  rw [parse, read]
  rfl

/-! ## The file -/

/-- A file in which there is a text is loaded as that text is read. -/
theorem load_of_follow {root : FileTree} {path text : String}
    (found : root.follow path = .ok (.text text)) :
    load root path = (parse text).mapError (inFile path) := by
  have read : root.read path = .ok text := by
    rw [FileTree.read, found]
    rfl
  rw [load, read]
  rfl

/-- The default settings are not written over a file, nor does any other file change. -/
theorem find_root_saveDefault {root file : FileTree} {other : List String} (path : String)
    (found : root.find other = .ok file) (plain : file.isFile = true) :
    (saveDefault root path).root.find other = .ok file := by
  unfold saveDefault
  split
  · exact found
  · next missing =>
    rw [FileTree.Attempt.root_mapError]
    refine FileTree.find_root_write found plain (fun led => missing ?_) _
    obtain ⟨checked, asks, located⟩ := FileTree.target_eq_ok led
    rw [FileTree.holds, FileTree.follow_eq_find checked asks located, found]
    rfl

/-- **The configuration goes through its file.**  Wherever there is room for a file, and whatever
it has in it so far:

* A configuration that fits is written, and what is loaded then is that configuration if it is
  valid, and an error about one of its values if it is not.
* One that does not fit is not written, and the directory is left as it was.
* The default settings are not written over anything, and no other file changes, whatever comes of
  it; where there was nothing, the default configuration is loaded afterwards. -/
theorem file_exact (config : Config) (root : FileTree) (path : String) :
    (config.Fits → root.HasRoom path →
      ∃ new, config.save root path = .ok () new ∧
        (config.Valid → load new path = .ok config) ∧
        (¬ config.Valid → ∃ flaw, load new path = .error (.invalid flaw))) ∧
    (¬ config.Fits → config.save root path = .error .serialize root) ∧
    (root.holds path = true → saveDefault root path = .ok () root) ∧
    (∀ other file, root.find other = .ok file → file.isFile = true →
      (saveDefault root path).root.find other = .ok file) ∧
    (root.holds path = false → root.HasRoom path →
      ∃ new, saveDefault root path = .ok () new ∧ load new path = .ok {}) := by
  refine ⟨fun fits room => ?_, fun large => ?_, fun held => if_pos held,
    fun other file found plain => find_root_saveDefault path found plain, fun missing room => ?_⟩
  · obtain ⟨text, written, read⟩ := parse_write fits
    obtain ⟨new, placed, found⟩ := room.exists_write (.text text)
    have loaded := load_of_follow found
    rw [read] at loaded
    refine ⟨new, ?_, fun valid => ?_, fun invalid => ?_⟩
    · rw [save, written]
      exact congrArg (FileTree.Attempt.mapError (ConfigError.io path)) placed
    · rw [loaded, checked_of_valid valid]
      rfl
    · obtain ⟨flaw, refused⟩ := checked_of_not_valid invalid
      refine ⟨flaw, ?_⟩
      rw [loaded, refused]
      rfl
  · rw [save, write_of_not_fits large]
  · obtain ⟨new, placed, found⟩ := room.exists_write (.text defaultText)
    refine ⟨new, ?_, ?_⟩
    · rw [saveDefault, if_neg (by simp [missing]), placed]
      rfl
    · rw [load_of_follow found, parse_defaultText]
      rfl

/-- A name with quotes, a backslash, a line break, a control character and a letter beyond ASCII; a
blank name; a capacity of 64 bits; and the default settings, with a file there and without, and
under a path that leads back to the directory it starts in. -/
theorem file_exact_unusual :
    (∃ new, save ⟨"'''\"\"\"\\\n\x01é", some 4096⟩ (.folder [(fileName, .binary)]) fileName =
        .ok () new ∧
      load new fileName = .ok ⟨"'''\"\"\"\\\n\x01é", some 4096⟩) ∧
    (∃ new flaw, save ⟨" \t", none⟩ (.folder [(fileName, .text "x")]) fileName = .ok () new ∧
      load new fileName = .error (.invalid flaw)) ∧
    save ⟨"large", some (Nat.pow 2 63)⟩ (.folder [(fileName, .text "x")]) fileName =
      .error .serialize (.folder [(fileName, .text "x")]) ∧
    saveDefault (.folder [(fileName, .text "x")]) fileName =
      .ok () (.folder [(fileName, .text "x")]) ∧
    (saveDefault (.folder [("y", .binary)]) fileName).root.find ["y"] = .ok .binary ∧
    ∃ new, saveDefault (.folder [("sub", .folder [])]) "sub/..//stratalog.toml" = .ok () new ∧
      load new "sub/..//stratalog.toml" = .ok {} := by
  have room : ∀ entries, (∀ sub, entries.lookup fileName ≠ some (.folder sub)) →
      (FileTree.folder entries).HasRoom fileName := by
    intro entries free
    refine ⟨[fileName], rfl, fun sub found => ?_⟩
    rw [FileTree.find] at found
    split at found
    · next entry inside => cases found; exact free sub inside
    · cases found
  refine ⟨?_, ?_, ?_, ?_, ?_, ?_⟩
  · have law := (file_exact ⟨"'''\"\"\"\\\n\x01é", some 4096⟩ (.folder [(fileName, .binary)])
      fileName).1 (by simp [Fits]) (room _ (by simp))
    obtain ⟨new, saved, loaded, -⟩ := law
    exact ⟨new, saved, loaded ⟨by decide, by decide⟩⟩
  · have law := (file_exact ⟨" \t", none⟩ (.folder [(fileName, .text "x")]) fileName).1
      (by simp [Fits]) (room _ (by simp))
    obtain ⟨new, saved, -, refused⟩ := law
    obtain ⟨flaw, refused⟩ := refused fun valid => valid.1 (by decide)
    exact ⟨new, flaw, saved, refused⟩
  · exact (file_exact ⟨"large", some (Nat.pow 2 63)⟩ (.folder [(fileName, .text "x")])
      fileName).2.1 fun fits => absurd (fits _ rfl) (by decide)
  · exact (file_exact {} (.folder [(fileName, .text "x")]) fileName).2.2.1 (by decide)
  · exact (file_exact {} (.folder [("y", .binary)]) fileName).2.2.2.1 ["y"] .binary rfl rfl
  · refine (file_exact {} (.folder [("sub", .folder [])]) "sub/..//stratalog.toml").2.2.2.2
      (by decide) ⟨["stratalog.toml"], rfl, ?_⟩
    intro entries found
    cases found

end Config
end ColumnLog
