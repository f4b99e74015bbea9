import ColumnLog.Toml.Quoted

/-!
# Quoted text is read back

Text is put between quotes in one of four styles, and the reader tells from the quotes which one it
is.  Whatever the characters, it gets the same text back and stops right behind the closing quotes.

* `Toml.Spelling` tells how a character may stand in basic text: as it is, or in a backslash form.
  `Toml.spelling_basicChar` and `Toml.basicText?_spelling` are the two sides.
* `Toml.closing?_replicate` says what quotes in a row do between triple quotes.
  `Toml.basicLines_leading` and `Toml.longestRun_leading` bound how many of them text begins with.
* `Toml.quotedText?_quote` is the result.
-/

set_option autoImplicit false

namespace ColumnLog

/-! ## Hexadecimal digits in upper case -/

namespace Text

variable {c : Char} {cs : List Char} {count n : Nat}

theorem exists_of_mem_hexFixed (mem : c ∈ hexFixed count n) : ∃ d < 16, c = Nat.digitChar d := by
  induction count generalizing n with
  | zero => cases mem
  | succ count ih =>
    rcases List.mem_append.mp mem with high | low
    · exact ih high
    · exact ⟨n % 16, Nat.mod_lt n (by decide), List.mem_singleton.mp low⟩

theorem hexValue?_toUpper {d : Nat} (lt : d < 16) :
    hexValue? (Nat.digitChar d).toUpper = hexValue? (Nat.digitChar d) := by
  revert d
  decide

theorem hexNumber?_map {f : Char → Char} (same : ∀ c ∈ cs, hexValue? (f c) = hexValue? c) :
    hexNumber? (cs.map f) = hexNumber? cs := by
  unfold hexNumber?
  rw [List.foldlM_map]
  generalize 0 = start
  induction cs generalizing start with
  | nil => rfl
  | cons c cs ih =>
    rw [List.foldlM_cons, List.foldlM_cons, same c List.mem_cons_self]
    exact bind_congr fun n => ih (fun d mem => same d (List.mem_cons_of_mem c mem)) n

/-- The case of the digits does not matter. -/
theorem hexNumber?_map_toUpper (lt : n < Nat.pow 16 count) :
    hexNumber? ((hexFixed count n).map Char.toUpper) = some n := by
  rw [hexNumber?_map, hexNumber?_hexFixed lt]
  intro c mem
  obtain ⟨d, lt, rfl⟩ := exists_of_mem_hexFixed mem
  exact hexValue?_toUpper lt

end Text

namespace Toml

variable {c quote : Char} {cs form rest text written : List Char} {run k most : Nat}

/-! ## One character in basic text -/

/-- The ways in which a character may stand in basic text. -/
inductive Spelling (c : Char) : List Char → Prop where
  | plain (isPlain : isPlain c = true) (quote : c ≠ '"') (backslash : c ≠ '\\') : Spelling c [c]
  /-- The form does not look like the backslash at the end of a line. -/
  | backslash (form : List Char)
      (inLine : ∀ rest, startsWithBreak ((form ++ rest).dropWhile isSpace) = false)
      (escaped : ∀ rest, escaped? (form ++ rest) = some (c, rest)) : Spelling c ('\\' :: form)

theorem spelling_named {letter : Char} (mem : (letter, c) ∈ named) :
    Spelling c ['\\', letter] := by
  simp only [named, List.mem_cons, List.not_mem_nil, or_false, Prod.mk.injEq] at mem
  rcases mem with ⟨rfl, rfl⟩ | ⟨rfl, rfl⟩ | ⟨rfl, rfl⟩ | ⟨rfl, rfl⟩ | ⟨rfl, rfl⟩ | ⟨rfl, rfl⟩ |
    ⟨rfl, rfl⟩ <;> exact .backslash _ (fun _ => rfl) (fun _ => rfl)

theorem toNat_lt_of_not_isPlain (plain : isPlain c = false) : c.toNat < 0x80 := by
  refine Nat.lt_of_not_le fun big => ?_
  have visible : 0x20 ≤ c.toNat := Nat.le_trans (by decide) big
  have ne : c ≠ '\x7f' := by
    rintro rfl
    exact absurd big (by decide)
  simp [isPlain, visible, ne] at plain

/-- A control character is found again by its number. -/
theorem numbered?_hexFixed (plain : isPlain c = false) (rest : List Char) :
    numbered? 4 ((Text.hexFixed 4 c.toNat).map Char.toUpper ++ rest) = some (c, rest) := by
  have lt := toNat_lt_of_not_isPlain plain
  have size : ((Text.hexFixed 4 c.toNat).map Char.toUpper).length = 4 := by
    rw [List.length_map, Text.length_hexFixed]
  have number : Text.hexNumber? ((Text.hexFixed 4 c.toNat).map Char.toUpper) = some c.toNat :=
    Text.hexNumber?_map_toUpper (Nat.lt_trans lt (by decide))
  have valid : c.toNat.isValidChar := c.valid
  rw [numbered?, List.take_left' size, List.drop_left' size, number, List.length_append, size,
    if_neg (by omega)]
  simp only [valid, if_true, Char.ofNat_toNat]

theorem spelling_numbered (plain : isPlain c = false) :
    Spelling c ('\\' :: 'u' :: (Text.hexFixed 4 c.toNat).map Char.toUpper) :=
  .backslash _ (fun _ => rfl) (numbered?_hexFixed plain)

/-- Every character is spelled in some way when it is written. -/
theorem spelling_basicChar (c : Char) : Spelling c (basicChar c) := by
  unfold basicChar
  cases found : named.find? (·.2 == c) with
  | some pair =>
    obtain ⟨letter, d⟩ := pair
    have eq : d = c := by simpa using List.find?_some found
    subst eq
    exact spelling_named (List.mem_of_find?_eq_some found)
  | none =>
    have unnamed : ∀ pair ∈ named, pair.2 ≠ c := by simpa using List.find?_eq_none.mp found
    by_cases plain : isPlain c = true
    · have quote : c ≠ '"' := (unnamed ('"', '"') (by decide)).symm
      have backslash : c ≠ '\\' := (unnamed ('\\', '\\') (by decide)).symm
      rw [if_pos plain]
      exact .plain plain quote backslash
    · rw [if_neg plain]
      exact spelling_numbered (by simpa using plain)

/-- A spelled character begins neither with a quote nor with a line break. -/
theorem Spelling.exists_cons (spelling : Spelling c form) :
    ∃ d tail, form = d :: tail ∧ d ≠ '"' ∧ d ≠ '\n' ∧ d ≠ '\r' := by
  cases spelling with
  | plain isPlain quote _ =>
    refine ⟨c, [], rfl, quote, ?_, ?_⟩ <;> rintro rfl <;> cases isPlain
  | backslash form => exact ⟨'\\', form, rfl, by decide, by decide, by decide⟩

/-- A spelled character is read as itself. -/
theorem basicText?_spelling (spelling : Spelling c form) (rest : List Char) :
    basicText? (form ++ rest) = (basicText? rest).map (push c) := by
  cases spelling with
  | plain isPlain quote backslash =>
    rw [List.singleton_append, basicText?, if_neg quote, if_neg backslash, if_pos isPlain]
  | backslash form _ escaped =>
    rw [List.cons_append, basicText?, if_neg (by decide), if_pos rfl]
    split
    · next d behind eq =>
      rw [escaped] at eq
      cases eq
      rfl
    · next eq =>
      rw [escaped] at eq
      cases eq

theorem basicLines?_spelling (spelling : Spelling c form) (rest : List Char) :
    basicLines? (form ++ rest) = (basicLines? rest).map (push c) := by
  cases spelling with
  | plain isPlain quote backslash =>
    rw [List.singleton_append, basicLines?, if_neg quote, if_neg backslash,
      if_pos (Or.inr isPlain)]
  | backslash form inLine escaped =>
    rw [List.cons_append, basicLines?, if_neg (by decide), if_pos rfl, inLine,
      if_neg Bool.false_ne_true]
    split
    · next d behind eq =>
      rw [escaped] at eq
      cases eq
      rfl
    · next eq =>
      rw [escaped] at eq
      cases eq

/-! ## Text of one line -/

theorem basicText?_flatMap (cs rest : List Char) :
    basicText? (cs.flatMap basicChar ++ '"' :: rest) = some (cs, rest) := by
  induction cs with
  | nil => rw [List.flatMap_nil, List.nil_append, basicText?, if_pos rfl]
  | cons c cs ih =>
    rw [List.flatMap_cons, List.append_assoc, basicText?_spelling (spelling_basicChar c), ih]
    rfl

theorem literalText?_append (fits : QuoteStyle.fits cs .literal = true) (rest : List Char) :
    literalText? (cs ++ '\'' :: rest) = some (cs, rest) := by
  induction cs with
  | nil => rfl
  | cons c cs ih =>
    simp only [QuoteStyle.fits, List.all_cons, Bool.and_eq_true, bne_iff_ne, needsEscape,
      Bool.not_not, Bool.or_eq_true, beq_iff_eq] at fits ih
    obtain ⟨⟨⟨plain, quote⟩, line⟩, others⟩ := fits
    have plain : isPlain c = true := plain.resolve_left line
    rw [List.cons_append, literalText?, if_neg quote, if_pos plain, ih others]
    rfl

/-! ## Quotes in a row -/

theorem takeWhile_replicate (apart : rest.head? ≠ some quote) :
    (List.replicate k quote ++ rest).takeWhile (· == quote) = List.replicate k quote := by
  rw [List.takeWhile_append_of_pos (by simp)]
  cases rest with
  | nil => simp
  | cons c rest =>
    have ne : c ≠ quote := by simpa using apart
    simp [ne]

/-- Of three quotes or more, up to two in front belong to the text. -/
theorem closing?_replicate (apart : rest.head? ≠ some quote) :
    closing? quote (List.replicate k quote ++ rest) =
      if k < 3 then none
      else some (List.replicate (min (k - 3) 2) quote,
        (List.replicate k quote ++ rest).drop (min k 5)) := by
  simp only [closing?, takeWhile_replicate apart, List.length_replicate]

/-- What is written of text between triple quotes begins with at most `most` quotes, and has nothing
else in it only if the text has not. -/
def Leading (quote : Char) (most : Nat) (text written : List Char) : Prop :=
  ∃ k ≤ most, (text = List.replicate k quote ∧ written = List.replicate k quote) ∨
    ∃ c tail, c ≠ quote ∧ written = List.replicate k quote ++ c :: tail

theorem Leading.nil : Leading quote most [] [] := ⟨0, Nat.zero_le most, .inl ⟨rfl, rfl⟩⟩

theorem Leading.other (ne : c ≠ quote) : Leading quote most text (c :: written) :=
  ⟨0, Nat.zero_le most, .inr ⟨c, written, ne, rfl⟩⟩

theorem Leading.cons (leading : Leading quote most text written) :
    Leading quote (most + 1) (quote :: text) (quote :: written) := by
  obtain ⟨k, le, ⟨rfl, rfl⟩ | ⟨c, tail, ne, rfl⟩⟩ := leading
  · exact ⟨k + 1, Nat.succ_le_succ le, .inl ⟨List.replicate_succ.symm, List.replicate_succ.symm⟩⟩
  · exact ⟨k + 1, Nat.succ_le_succ le, .inr ⟨c, tail, ne, by rw [List.replicate_succ]; rfl⟩⟩

theorem Leading.mono {n : Nat} (leading : Leading quote most text written) (le : most ≤ n) :
    Leading quote n text written := by
  obtain ⟨k, bound, lead⟩ := leading
  exact ⟨k, Nat.le_trans bound le, lead⟩

/-- The last quotes of the text, and the closing ones. -/
theorem closing?_end (apart : rest.head? ≠ some quote) (le : k ≤ 2) :
    closing? quote (List.replicate k quote ++ quote :: quote :: quote :: rest) =
      some (List.replicate k quote, rest) := by
  have all : List.replicate k quote ++ quote :: quote :: quote :: rest =
      List.replicate (k + 3) quote ++ rest := by
    rw [← List.replicate_append_replicate, List.append_assoc]
    rfl
  rw [all, closing?_replicate apart, if_neg (by omega), Nat.add_sub_cancel, Nat.min_eq_left le,
    Nat.min_eq_left (by omega), List.drop_left' List.length_replicate]

/-- The closing quotes alone. -/
theorem closing?_closed (apart : rest.head? ≠ some quote) :
    closing? quote (quote :: quote :: quote :: rest) = some ([], rest) :=
  closing?_end (k := 0) apart (Nat.zero_le 2)

/-- At most two quotes do not close the text, unless they are its last ones: then it ends behind
those that follow. -/
theorem Leading.closing? (leading : Leading quote 2 text written)
    (apart : rest.head? ≠ some quote) :
    closing? quote (written ++ quote :: quote :: quote :: rest) = none ∨
      closing? quote (written ++ quote :: quote :: quote :: rest) = some (text, rest) := by
  obtain ⟨k, le, ⟨rfl, rfl⟩ | ⟨c, tail, ne, rfl⟩⟩ := leading
  · exact .inr (closing?_end apart le)
  · left
    rw [List.append_assoc, List.cons_append, closing?_replicate (by simpa using ne),
      if_pos (by omega)]

/-! ## Text of several lines -/

/-- With `run` quotes in front, basic text goes on with so few that there are at most two. -/
theorem basicLines_leading (cs : List Char) (le : run ≤ 2) :
    Leading '"' (2 - run) cs (basicLines run cs) := by
  fun_induction basicLines run cs with
  | case1 => exact .nil
  | case2 => exact .other (by decide)
  | case3 run cs ne ih => exact (ih (by omega)).cons.mono (by omega)
  | case4 => exact .other (by decide)
  | case5 run c cs =>
    obtain ⟨d, tail, form, ne, -⟩ := (spelling_basicChar c).exists_cons
    rw [form]
    exact .other ne

/-- Basic text over several lines is read up to the closing quotes. -/
theorem basicLines?_basicLines (cs : List Char) (apart : rest.head? ≠ some '"') (le : run ≤ 2) :
    basicLines? (basicLines run cs ++ '"' :: '"' :: '"' :: rest) = some (cs, rest) := by
  fun_induction basicLines run cs with
  | case1 =>
    rw [List.nil_append, basicLines?, if_pos rfl, closing?_closed apart]
  | case2 cs ih =>
    have escaped : Spelling '"' ['\\', '"'] := spelling_named (by decide)
    have third : '\\' :: '"' :: basicLines 0 cs = ['\\', '"'] ++ basicLines 0 cs := rfl
    rw [third, List.append_assoc, basicLines?_spelling escaped, ih (by decide)]
    rfl
  | case3 run cs ne ih =>
    -- A quote closes nothing unless all that follows it in the text are quotes, too.
    have leading := (basicLines_leading cs (by omega : run + 1 ≤ 2)).cons.mono (by omega : _ ≤ 2)
    rw [List.cons_append, basicLines?, if_pos rfl]
    rcases leading.closing? apart with within | closed
    · rw [List.cons_append] at within
      rw [within, ih (by omega)]
      rfl
    · rw [List.cons_append] at closed
      rw [closed]
  | case4 run cs _ ih =>
    rw [List.cons_append, basicLines?, if_neg (by decide), if_neg (by decide),
      if_pos (Or.inl rfl), ih (by decide)]
    rfl
  | case5 run c cs _ _ ih =>
    rw [List.append_assoc, basicLines?_spelling (spelling_basicChar c), ih (by decide)]
    rfl

theorem le_longestRun (quote : Char) (run : Nat) (cs : List Char) :
    run ≤ longestRun quote run cs := by
  fun_induction longestRun quote run cs with
  | case1 => exact Nat.le_refl _
  | case2 run cs ih => omega
  | case3 run d cs ne ih => exact Nat.le_max_left _ _

/-- Literal text without three quotes in a row. -/
theorem longestRun_leading (cs : List Char) (short : longestRun quote run cs < 3) :
    Leading quote (2 - run) cs cs := by
  fun_induction longestRun quote run cs with
  | case1 => exact .nil
  | case2 run cs ih =>
    have := le_longestRun quote (run + 1) cs
    exact (ih short).cons.mono (by omega)
  | case3 run d cs ne ih => exact .other ne

/-- Literal text over several lines is read up to the closing quotes. -/
theorem literalLines?_append (cs : List Char) (plain : ∀ c ∈ cs, needsEscape c = false)
    (short : longestRun '\'' run cs < 3) (apart : rest.head? ≠ some '\'') :
    literalLines? (cs ++ '\'' :: '\'' :: '\'' :: rest) = some (cs, rest) := by
  fun_induction longestRun '\'' run cs with
  | case1 =>
    rw [List.nil_append, literalLines?, if_pos rfl, closing?_closed apart]
  | case2 run cs ih =>
    have bound := le_longestRun '\'' (run + 1) cs
    have leading := (longestRun_leading cs short).cons.mono (by omega : _ ≤ 2)
    have others := ih (fun c mem => plain c (List.mem_cons_of_mem _ mem)) short
    rw [List.cons_append, literalLines?, if_pos rfl]
    rcases leading.closing? apart with within | closed
    · rw [List.cons_append] at within
      rw [within, others]
      rfl
    · rw [List.cons_append] at closed
      rw [closed]
  | case3 run c cs ne ih =>
    have others := ih (fun d mem => plain d (List.mem_cons_of_mem c mem)) (by omega)
    have kept : c = '\n' ∨ isPlain c = true := by
      have := plain c List.mem_cons_self
      rwa [needsEscape, Bool.not_eq_false', Bool.or_eq_true, beq_iff_eq] at this
    rw [List.cons_append, literalLines?, if_neg ne, if_pos kept, others]
    rfl

/-! ## The four styles -/

/-- The line break behind the opening quotes does not count. -/
theorem skipBreak_openingBreak (cs : List Char)
    (starts : '\n' ∉ cs → ∃ c tail, form = c :: tail ∧ c ≠ '\n' ∧ c ≠ '\r') :
    skipBreak (openingBreak cs ++ form) = form := by
  unfold openingBreak
  split
  · rfl
  · next unbroken =>
    obtain ⟨c, tail, rfl, line, cr⟩ := starts unbroken
    rw [List.nil_append]
    unfold skipBreak
    split
    · next eq => exact absurd (List.cons.inj eq).1 line
    · next eq => exact absurd (List.cons.inj eq).1 cr
    · rfl

/-- Basic text over several lines begins with a line break only if there is one in the text. -/
theorem basicLines_head (cs rest : List Char) (unbroken : '\n' ∉ cs) :
    ∃ c tail, basicLines 0 cs ++ '"' :: rest = c :: tail ∧ c ≠ '\n' ∧ c ≠ '\r' := by
  cases cs with
  | nil => exact ⟨'"', rest, rfl, by decide, by decide⟩
  | cons c cs =>
    have line : c ≠ '\n' := fun eq => unbroken (eq ▸ List.mem_cons_self)
    rw [basicLines]
    split
    · exact ⟨'"', _, rfl, by decide, by decide⟩
    · obtain ⟨d, tail, form, -, line, cr⟩ := (spelling_basicChar c).exists_cons
      rw [form]
      exact ⟨d, _, rfl, line, cr⟩

theorem literalLines_head (rest : List Char) (plain : ∀ c ∈ cs, needsEscape c = false)
    (unbroken : '\n' ∉ cs) :
    ∃ c tail, cs ++ '\'' :: rest = c :: tail ∧ c ≠ '\n' ∧ c ≠ '\r' := by
  cases cs with
  | nil => exact ⟨'\'', rest, rfl, by decide, by decide⟩
  | cons c cs =>
    have line : c ≠ '\n' := fun eq => unbroken (eq ▸ List.mem_cons_self)
    have cr : c ≠ '\r' := by
      rintro rfl
      exact absurd (plain '\r' List.mem_cons_self) (by decide)
    exact ⟨c, _, rfl, line, cr⟩

theorem basic_head (cs : List Char) : (cs.flatMap basicChar).head? ≠ some '"' := by
  cases cs with
  | nil => simp
  | cons c cs =>
    obtain ⟨d, tail, written, ne, -⟩ := (spelling_basicChar c).exists_cons
    simpa [written] using ne

theorem literal_head (fits : QuoteStyle.fits cs .literal = true) : cs.head? ≠ some '\'' := by
  cases cs with
  | nil => simp
  | cons c cs =>
    simp only [QuoteStyle.fits, List.all_cons, Bool.and_eq_true, bne_iff_ne] at fits
    simpa using fits.1.1.2

/-- The style can be read back: literal text has no backslash forms, so it has to fit. -/
def QuoteStyle.Sound (cs : List Char) : QuoteStyle → Prop
  | basic | basicLines => True
  | literal => fits cs literal = true
  | literalLines => fits cs literalLines = true

theorem sound_choose (cs : List Char) : (QuoteStyle.choose cs).Sound cs := by
  unfold QuoteStyle.choose
  split
  · next style found =>
    have fits := List.find?_some found
    cases style <;> first | exact trivial | exact fits
  · split <;> trivial

/-- Text of one line has no two quotes behind the opening one. -/
theorem ne_quotes (first : form.head? ≠ some quote) (apart : rest.head? ≠ some quote)
    (tail : List Char) : form ++ quote :: rest ≠ quote :: quote :: tail := by
  intro eq
  cases form with
  | nil =>
    cases eq
    exact apart rfl
  | cons c form => exact first (congrArg some (List.cons.inj eq).1)

theorem quotedText?_basic (single : ∀ tail, form ≠ '"' :: '"' :: tail) :
    quotedText? ('"' :: form) =
      (basicText? form).map fun (text, rest) => (String.ofList text, rest) := by
  unfold quotedText?
  split
  · next tail eq => exact absurd (List.cons.inj eq).2 (single tail)
  · next eq => rw [(List.cons.inj eq).2]
  · next eq => cases eq
  · next eq => cases eq
  · next no _ _ => exact absurd rfl (no form)

theorem quotedText?_literal (single : ∀ tail, form ≠ '\'' :: '\'' :: tail) :
    quotedText? ('\'' :: form) =
      (literalText? form).map fun (text, rest) => (String.ofList text, rest) := by
  unfold quotedText?
  split
  · next eq => cases eq
  · next eq => cases eq
  · next tail eq => exact absurd (List.cons.inj eq).2 (single tail)
  · next eq => rw [(List.cons.inj eq).2]
  · next no => exact absurd rfl (no form)

/-- Text in a sound style is read back, whatever follows but another quote. -/
theorem quotedText?_write {style : QuoteStyle} (sound : style.Sound cs)
    (basic : rest.head? ≠ some '"') (literal : rest.head? ≠ some '\'') :
    quotedText? (style.write cs ++ rest) = some (String.ofList cs, rest) := by
  cases style with
  | basic =>
    have written : QuoteStyle.write cs .basic ++ rest =
        '"' :: (cs.flatMap basicChar ++ '"' :: rest) := by simp [QuoteStyle.write]
    rw [written, quotedText?_basic (ne_quotes (basic_head cs) basic), basicText?_flatMap]
    rfl
  | literal =>
    have written : QuoteStyle.write cs .literal ++ rest = '\'' :: (cs ++ '\'' :: rest) := by
      simp [QuoteStyle.write]
    rw [written, quotedText?_literal (ne_quotes (literal_head sound) literal),
      literalText?_append sound]
    rfl
  | basicLines =>
    have written : QuoteStyle.write cs .basicLines ++ rest = '"' :: '"' :: '"' ::
        (openingBreak cs ++ (Toml.basicLines 0 cs ++ '"' :: '"' :: '"' :: rest)) := by
      simp [QuoteStyle.write]
    simp only [written, quotedText?, skipBreak_openingBreak cs (basicLines_head cs _),
      basicLines?_basicLines cs basic (Nat.zero_le 2)]
    rfl
  | literalLines =>
    have fits : QuoteStyle.fits cs .literalLines = true := sound
    simp only [QuoteStyle.fits, Bool.and_eq_true, List.all_eq_true, Bool.not_eq_true',
      decide_eq_true_eq] at fits
    obtain ⟨plain, short⟩ := fits
    have written : QuoteStyle.write cs .literalLines ++ rest = '\'' :: '\'' :: '\'' ::
        (openingBreak cs ++ (cs ++ '\'' :: '\'' :: '\'' :: rest)) := by
      simp [QuoteStyle.write]
    simp only [written, quotedText?, skipBreak_openingBreak cs (literalLines_head _ plain),
      literalLines?_append cs plain short literal]
    rfl

/-- **Quoted text is read back**, whatever its characters are, up to the closing quotes. -/
theorem quotedText?_quote (s : String) (basic : rest.head? ≠ some '"')
    (literal : rest.head? ≠ some '\'') :
    quotedText? ((Toml.quote s).toList ++ rest) = some (s, rest) := by
  rw [Toml.quote, String.toList_ofList, quotedText?_write (sound_choose s.toList) basic literal,
    String.ofList_toList]

/-- Quoted text begins with a quote. -/
theorem exists_cons_quote (s : String) :
    ∃ c cs, (Toml.quote s).toList = c :: cs ∧ (c = '"' ∨ c = '\'') := by
  rw [Toml.quote, String.toList_ofList]
  cases QuoteStyle.choose s.toList with
  | basic => exact ⟨'"', _, rfl, .inl rfl⟩
  | literal => exact ⟨'\'', _, rfl, .inr rfl⟩
  | basicLines => exact ⟨'"', _, rfl, .inl rfl⟩
  | literalLines => exact ⟨'\'', _, rfl, .inr rfl⟩

end Toml
end ColumnLog
