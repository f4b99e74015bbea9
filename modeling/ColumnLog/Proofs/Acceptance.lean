import ColumnLog.Proofs.ElementCount
import ColumnLog.Proofs.Layout

/-!
# Which tensors are accepted

A tensor can be logged if its shape can be read, its buffer is there, and the elements are as many
as the shape asks for; how many bytes an encoded image has is its own affair.  The check multiplies
the sizes before it looks at the buffer.  So a product that leaves the word on the way stands
against every tensor, also one whose elements are not counted or are none.

* `TensorData.Acceptable` are the tensors that can be logged, `TensorData.Counted` those whose sizes
  can be multiplied.
* `TensorData.Verdict` lists the answers of the check, each with the tensors it is given for, and
  `TensorData.verdict` places the check in it.
* `TensorData.acceptance_exact` is the result, for the check and for appends to any builder.
-/

set_option autoImplicit false

namespace ColumnLog
namespace TensorData

variable {t : TensorData} {e : LogError}

/-! ## Tensors that agree with their shape -/

/-- The number of elements that the shape asks for, whether or not it fits the word. -/
def wanted (t : TensorData) : Nat := (sizes t.shape.toList).prod

/-- Whether a tensor can be logged. -/
structure Acceptable (t : TensorData) : Prop where
  readable : t.shape.isNull = false
  present : t.buffer.isNull = false
  agrees : t.buffer.kind.isEncoded = true ∨ t.buffer.length = t.wanted

/-- Whether the sizes can be multiplied within the word. -/
def Counted (t : TensorData) : Prop := frontProduct (sizes t.shape.toList) ≤ Size.largest

/-- Whether one of the dimensions has no places. -/
def Vacant (t : TensorData) : Prop := 0 ∈ sizes t.shape.toList

instance (t : TensorData) : Decidable t.Counted := Nat.decLe _ _

instance (t : TensorData) : Decidable t.Vacant := inferInstanceAs (Decidable (_ ∈ _))

theorem Acceptable.length_eq (acceptable : t.Acceptable) (raw : t.buffer.kind.isEncoded = false) :
    t.buffer.length = t.wanted := by
  refine acceptable.agrees.resolve_left fun encoded => ?_
  rw [raw] at encoded
  cases encoded

/-- Where the elements are counted and there are some, their number has to fit the word. -/
theorem Acceptable.counted (acceptable : t.Acceptable) (raw : t.buffer.kind.isEncoded = false)
    (occupied : ¬ t.Vacant) (word : t.buffer.length ≤ Size.largest) : t.Counted := by
  rw [Counted, frontProduct_eq_prod occupied, ← wanted, ← acceptable.length_eq raw]
  exact word

theorem Acceptable.length_eq_zero (acceptable : t.Acceptable)
    (raw : t.buffer.kind.isEncoded = false) (vacant : t.Vacant) : t.buffer.length = 0 := by
  rw [acceptable.length_eq raw, wanted, List.prod_eq_zero vacant]

/-! ## The check -/

/-- The answers of the check, each with the tensors that it is given for. -/
inductive Verdict (t : TensorData) : Except LogError Unit → Prop where
  | accepted (acceptable : t.Acceptable) (counted : t.Counted) : Verdict t (.ok ())
  | nullShape (null : t.shape.isNull = true) :
    Verdict t (.error (.unexpectedNull
      ("Cannot read " ++ toString t.shape.length ++ " elements from a null pointer")))
  | tooLarge (readable : t.shape.isNull = false) (beyond : ¬ t.Counted) :
    Verdict t (.error
      (.sizeMismatch Size.largest t.buffer.length "tensor shape product overflows usize"))
  | nullBuffer (readable : t.shape.isNull = false) (counted : t.Counted)
    (null : t.buffer.isNull = true) :
    Verdict t (.error
      (.unexpectedNull (t.buffer.kind.name ++ " tensor buffer has a null data pointer")))
  | disagreement (readable : t.shape.isNull = false) (counted : t.Counted)
    (present : t.buffer.isNull = false) (raw : t.buffer.kind.isEncoded = false)
    (ne : t.buffer.length ≠ t.wanted) :
    Verdict t (.error
      (.sizeMismatch t.wanted t.buffer.length (t.buffer.kind.name ++ " tensor buffer")))

theorem validate_of_null (null : t.shape.isNull = true) :
    t.validate = .error (.unexpectedNull
      ("Cannot read " ++ toString t.shape.length ++ " elements from a null pointer")) := by
  obtain ⟨shape, buffer⟩ := t
  cases shape with
  | null count pos => rfl
  | _ => cases null

theorem validate_of_elementCount_error (h : t.elementCount = .error e) :
    t.validate = .error e := by
  rw [validate, h]
  rfl

theorem verdict_of_elementCount_ok (readable : t.shape.isNull = false) (counted : t.Counted) :
    Verdict t t.validate := by
  have count : t.elementCount = .ok t.wanted := elementCount_of_le readable counted
  cases null : t.buffer.isNull with
  | true =>
    have refused : t.validate = .error
        (.unexpectedNull (t.buffer.kind.name ++ " tensor buffer has a null data pointer")) := by
      rw [validate, count]
      exact if_pos null
    rw [refused]
    exact .nullBuffer readable counted null
  | false =>
    have checked : t.validate =
        if !t.buffer.kind.isEncoded && t.buffer.length != t.wanted then
          .error (.sizeMismatch t.wanted t.buffer.length (t.buffer.kind.name ++ " tensor buffer"))
        else .ok () := by
      rw [validate, count]
      simp only [bind, Except.bind, null]
      rfl
    rw [checked]
    by_cases agrees : t.buffer.kind.isEncoded = true ∨ t.buffer.length = t.wanted
    · rw [if_neg (by rcases agrees with encoded | eq <;> simp [*])]
      exact .accepted ⟨readable, null, agrees⟩ counted
    · obtain ⟨raw, ne⟩ := not_or.mp agrees
      rw [Bool.not_eq_true] at raw
      rw [if_pos (by simp [raw, ne])]
      exact .disagreement readable counted null raw ne

/-- The check gives one of its answers, in the order in which it looks. -/
theorem verdict (t : TensorData) : Verdict t t.validate := by
  cases shape : t.shape.isNull with
  | true =>
    rw [validate_of_null shape]
    exact .nullShape shape
  | false =>
    by_cases counted : t.Counted
    · exact verdict_of_elementCount_ok shape counted
    · rw [validate_of_elementCount_error (elementCount_of_lt shape (Nat.not_le.mp counted))]
      exact .tooLarge shape counted

theorem validate_eq_ok_iff_acceptable : t.validate = .ok () ↔ t.Acceptable ∧ t.Counted := by
  have verdict := t.verdict
  generalize t.validate = answer at verdict
  cases verdict with
  | accepted acceptable counted => exact iff_of_true rfl ⟨acceptable, counted⟩
  | nullShape null => exact iff_of_false nofun fun ⟨h, _⟩ => by simp [h.readable] at null
  | tooLarge readable beyond => exact iff_of_false nofun fun ⟨_, counted⟩ => beyond counted
  | nullBuffer readable counted null =>
    exact iff_of_false nofun fun ⟨h, _⟩ => by simp [h.present] at null
  | disagreement readable counted present raw ne =>
    exact iff_of_false nofun fun ⟨h, _⟩ => by simpa [raw, ne] using h.agrees

/-! ## Appends -/

/-- What an append of a tensor does, by the answer of the check: a tensor that is refused leaves
the builder alone, and one that is accepted adds a slot unless a list overflows its offsets. -/
structure AppendsBy (t : TensorData) (b : Builder) : Prop where
  refused : ∀ e, t.validate = .error e → b.add (Loggable.entry t) = .error e b
  accepted : t.validate = .ok () →
    (∃ later, b.add (Loggable.entry t) = .ok () later ∧ later.length = b.length + 1) ∨
    ∃ count left, Size.largestOffset < count ∧ b.add (Loggable.entry t) =
      .error (.sizeMismatch Size.largestOffset count "list offsets") left

theorem appendsBy_of_shaped {b : Builder} (shaped : Builder.Shaped type b) : t.AppendsBy b := by
  refine ⟨fun e refused => Builder.add_of_error ?_ b, fun accepted => ?_⟩
  · show t.checkedDatum = .error e
    rw [checkedDatum, refused]
    rfl
  · have written : (Loggable.entry t).datum = .ok t.datum := by
      show t.checkedDatum = _
      rw [checkedDatum, accepted]
      rfl
    have ends := Builder.extending_of_regular regular b t.datum shaped t.admits
    rw [Builder.add_of_ok written]
    obtain ⟨later, added, -⟩ | ⟨left, count, added, -, beyond⟩ := ends.ok_or_overflow
    · exact .inl ⟨later, added, Builder.length_append added⟩
    · exact .inr ⟨count, left, beyond, added⟩

theorem appendsBy_run (t : TensorData) (capacity : Nat) (steps : List (Option TensorData)) :
    t.AppendsBy ((Loggable.newBuilder TensorData capacity).run (Loggable.steps steps)) := by
  refine appendsBy_of_shaped (Builder.shaped_run regular (Readable.fitting_steps steps) ?_)
  rw [Readable.newBuilder_eq_holding]
  exact Builder.shaped_holding regular false []

/-! ## The result -/

/-- **Which tensors are accepted.**  The check answers as listed, so it accepts exactly the tensors
that can be logged and whose sizes can be multiplied; those that it misses are encoded images, or
have a dimension without places and no elements.  Appends to any builder of tensors go by the check,
whatever was appended to it before, with or without success. -/
theorem acceptance_exact (t : TensorData) :
    Verdict t t.validate ∧
    (t.validate = .ok () ↔ t.Acceptable ∧ t.Counted) ∧
    (t.Acceptable → t.validate ≠ .ok () → t.buffer.length ≤ Size.largest →
      t.buffer.kind.isEncoded = true ∨ t.Vacant ∧ t.buffer.length = 0) ∧
    ∀ (capacity : Nat) (steps : List (Option TensorData)),
      t.AppendsBy ((Loggable.newBuilder TensorData capacity).run (Loggable.steps steps)) := by
  refine ⟨t.verdict, validate_eq_ok_iff_acceptable, fun acceptable missed word => ?_,
    t.appendsBy_run⟩
  cases encoded : t.buffer.kind.isEncoded with
  | true => exact .inl rfl
  | false =>
    refine .inr ?_
    by_cases vacant : t.Vacant
    · exact ⟨vacant, acceptable.length_eq_zero encoded vacant⟩
    · exact absurd (validate_eq_ok_iff_acceptable.mpr
        ⟨acceptable, acceptable.counted encoded vacant word⟩) missed

/-- Three bytes for six places are enough for an encoded image, and too few for numbers. -/
theorem acceptance_exact_image :
    let image : TensorData :=
      ⟨.owned [.unnamed 2, .unnamed 3], ⟨.jpeg, .owned [0xFF, 0xD8, 0xFF]⟩⟩
    let short : TensorData := .ofSizes [2, 3] ⟨.u8, .borrowed [1, 2, 3]⟩
    let b := (Loggable.newBuilder TensorData 2).run (Loggable.steps [some short])
    image.validate = .ok () ∧
      short.validate = .error (.sizeMismatch 6 3 "U8 tensor buffer") ∧
      b.add (Loggable.entry short) = .error (.sizeMismatch 6 3 "U8 tensor buffer") b := by
  intro image short b
  obtain ⟨-, accepts, -, -⟩ := acceptance_exact image
  obtain ⟨-, -, -, appends⟩ := acceptance_exact short
  refine ⟨accepts.mpr ⟨⟨rfl, rfl, .inl rfl⟩, by decide⟩, rfl, ?_⟩
  exact (appends 2 [some short]).refused _ rfl

/-- An encoded image is not exempt from the product of its sizes. -/
theorem acceptable_image_refused :
    let image : TensorData :=
      ⟨.owned [.unnamed 0x8000000000000000, .unnamed 2], ⟨.jpeg, .owned [0xFF, 0xD8, 0xFF]⟩⟩
    image.Acceptable ∧ image.validate = .error
      (.sizeMismatch Size.largest 3 "tensor shape product overflows usize") :=
  ⟨⟨rfl, rfl, .inl rfl⟩, rfl⟩

end TensorData
end ColumnLog
