import ColumnLog.Proofs.Library

/-!
# Rejected values leave no trace

Tensors and their buffers are checked when they are appended.  A value that is rejected leaves the
builder as it was, so a run ends where it would have ended without its rejected steps.

* `Readable.run_kept` deletes the rejected steps of a run.
* `TensorBuffer.appendTo` and `TensorData.appendTo` write a value piece by piece; all checks stand
  before the first piece, so this is the append of the whole (`TensorBuffer.appendTo_eq_add`,
  `TensorData.appendTo_eq_add`).
* `TensorType.run_rejected` is the result, for tensors, their buffers and tensor components.
-/

set_option autoImplicit false

namespace ColumnLog

/-! ## Runs without their rejected steps -/

namespace Readable

variable {α : Type} {kind : NameKind} [Loggable α kind] [Readable α] {a : α}
  {values before after : List (Option α)} {capacity : Nat}

theorem add_of_not_accepts (h : ¬ Accepts a) (b : Builder) :
    ∃ e, b.add (Loggable.entry a) = .error e b := by
  obtain ⟨e, error⟩ := entry_of_not_accepts a h
  exact ⟨e, Builder.add_of_error error b⟩

/-- Whether a step is not rejected. -/
def keeps [DecidablePred (Accepts : α → Prop)] : Option α → Bool
  | some a => decide (Accepts a)
  | none => true

/-- The steps that are not rejected. -/
def kept [DecidablePred (Accepts : α → Prop)] (values : List (Option α)) : List (Option α) :=
  values.filter keeps

/-- A run ends where it ends without its rejected steps. -/
theorem run_kept [DecidablePred (Accepts : α → Prop)] (b : Builder) (values : List (Option α)) :
    b.run (Loggable.steps values) = b.run (Loggable.steps (kept values)) := by
  induction values generalizing b with
  | nil => rfl
  | cons v values ih =>
    show (b.step (v.map Loggable.entry)).state.run (Loggable.steps values) = _
    cases v with
    | none =>
      rw [kept, List.filter_cons_of_pos rfl, ih]
      rfl
    | some a =>
      by_cases h : Accepts a
      · rw [kept, List.filter_cons_of_pos (by simpa [keeps] using h), ih]
        rfl
      · obtain ⟨e, error⟩ := add_of_not_accepts h b
        rw [kept, List.filter_cons_of_neg (by simpa [keeps] using h), Option.map_some,
          Builder.step, error]
        exact ih b

/-- The builder in the middle of a run that ends bounded. -/
theorem run_before (bounded :
      ((Loggable.newBuilder α capacity).run (Loggable.steps (before ++ after))).Bounded) :
    (Loggable.newBuilder α capacity).run (Loggable.steps before) =
      .holding false (Loggable.schema α).type (Builder.slotsOf (Loggable.steps before)) := by
  rw [Loggable.steps_append, Builder.run_append] at bounded
  exact run_newBuilder ((Builder.within_run _ _).2 bounded)

/-- A value that is accepted in the middle of a run adds one slot. -/
theorem add_of_accepts (h : Accepts a) (bounded : ((Loggable.newBuilder α capacity).run
      (Loggable.steps (before ++ some a :: after))).Bounded) :
    ∃ b', ((Loggable.newBuilder α capacity).run (Loggable.steps before)).add (Loggable.entry a) =
        .ok () b' ∧
      b'.length = ((Loggable.newBuilder α capacity).run (Loggable.steps before)).length + 1 := by
  have slot : Builder.slotOf? (some (Loggable.entry a)) = some (datum a) := by
    rw [Builder.slotOf?, entry_of_accepts a h]
    rfl
  have at' := run_before bounded
  rw [Loggable.steps_append, Builder.run_append, at'] at bounded
  have ok := Builder.step_holding regular (fitting_steps [some a]) List.mem_cons_self slot
    ((Builder.within_run _ (Loggable.steps after)).2 bounded)
  rw [at']
  refine ⟨_, ok, ?_⟩
  rw [Builder.length_holding, Builder.length_holding, List.length_append, List.length_singleton]

end Readable

/-! ## Writing piece by piece -/

namespace TensorBuffer

/-- Appends a buffer: after the check its slot is recorded, then its elements go to the list of
their kind. -/
def appendTo (b : TensorBuffer) : EStateM LogError Builder Unit := do
  let _ ← ofExcept b.checkedDatum
  Builder.recordVariant b.kind.tag
  let values ← ofExcept b.values.values?
  Builder.modifyAt (Builder.append (.scalars b.kind.primitive values)) [b.kind.tag - 1]

theorem tag_pos (kind : ElementKind) : 0 < kind.tag := by cases kind <;> decide

/-- A buffer written piece by piece is the buffer appended as a whole. -/
theorem appendTo_eq_add (b : TensorBuffer) (builder : Builder) :
    b.appendTo builder = builder.add (Loggable.entry b) := by
  cases null : b.isNull with
  | true =>
    obtain ⟨e, error⟩ := checkedDatum_of_isNull null
    rw [Builder.add_of_error (show (Loggable.entry b).datum = .error e from error), appendTo, error]
    rfl
  | false =>
    have ok : b.checkedDatum = .ok b.datum := if_neg (by simp [null])
    rw [Builder.add_of_ok (show (Loggable.entry b).datum = .ok b.datum from ok)]
    have values : b.values.values? = .ok b.values.toList :=
      Collection.values?_eq_ok_iff.mpr ⟨null, rfl⟩
    obtain ⟨k, hk⟩ : ∃ k, b.kind.tag = k + 1 :=
      Nat.exists_eq_succ_of_ne_zero (Nat.ne_of_gt (tag_pos b.kind))
    rw [appendTo, ok, values, datum, hk]
    cases builder with
    | denseUnion ids fields slots variants =>
      by_cases accepts : slots.accepts ((k + 1 : Nat) : Int) = true
      · simp only [bind, EStateM.bind, Builder.recordVariant, Builder.append, if_pos accepts,
          Int.toNat_natCast, ofExcept, pure, EStateM.pure, Nat.add_sub_cancel, Builder.modifyAt]
      · simp only [bind, EStateM.bind, Builder.recordVariant, Builder.append, if_neg accepts,
          ofExcept, pure, EStateM.pure]
    | _ => rfl

end TensorBuffer

namespace TensorData

/-- Appends a tensor: after the check its dimensions go to the list of the shape, which is closed,
then the buffer is appended, and last the slot is recorded. -/
def appendTo (t : TensorData) : EStateM LogError Builder Unit := do
  ofExcept t.validate
  let dims ← ofExcept t.shape.values?
  Builder.modifyAt (Builder.appendItems (dims.map TensorDimension.datum)) [0, 0]
  Builder.modifyAt Builder.closeEntry [0]
  Builder.modifyAt t.buffer.appendTo [1]
  Builder.recordSlot true

variable {fields : List Field} {mask lists : Array Bool} {item : Field} {offsets : Array Nat}
  {items other : Builder}

/-- The pieces of a tensor, one after the other. -/
theorem pieces_eq_append (dims : List Datum) (buffer : Datum) :
    (match Builder.appendItems dims items with
      | .error e items => .error e (.struct fields mask [.list item offsets lists items, other])
      | .ok () items =>
        match (Builder.list item offsets lists items).closeEntry with
        | .error e shape => .error e (.struct fields mask [shape, other])
        | .ok () shape =>
          match other.append buffer with
          | .error e other => .error e (.struct fields mask [shape, other])
          | .ok () other => .ok () (.struct fields (mask.push true) [shape, other])) =
      Builder.append (.record [.items dims, buffer])
        (.struct fields mask [.list item offsets lists items, other]) := by
  cases hitems : Builder.appendItems dims items with
  | error e items => simp only [Builder.append, Builder.appendParts, hitems]
  | ok u items =>
    cases hshape : (Builder.list item offsets lists items).closeEntry with
    | error e shape => simp only [Builder.append, Builder.appendParts, hitems, hshape]
    | ok u shape =>
      cases hother : other.append buffer with
      | error e other => simp only [Builder.append, Builder.appendParts, hitems, hshape, hother]
      | ok u other => simp only [Builder.append, Builder.appendParts, hitems, hshape, hother]

/-- A tensor written piece by piece is the tensor appended as a whole. -/
theorem appendTo_eq_add (t : TensorData) (data : List Datum) :
    t.appendTo (.holding false type data) =
      (Builder.holding false type data).add (Loggable.entry t) := by
  have opened : ∃ fields mask item offsets lists items other,
      Builder.holding false type data =
        .struct fields mask [.list item offsets lists items, other] :=
    ⟨_, _, _, _, _, _, _, rfl⟩
  obtain ⟨fields, mask, item, offsets, lists, items, other, opened⟩ := opened
  rw [opened]
  cases valid : t.validate with
  | error e =>
    have error : (Loggable.entry t).datum = .error e := by
      show t.checkedDatum = _
      rw [checkedDatum, valid]
      rfl
    rw [Builder.add_of_error error, appendTo, valid]
    rfl
  | ok u =>
    have consistent : t.Consistent := validate_eq_ok_iff.mp valid
    have dims : t.shape.values? = .ok t.shape.toList :=
      Collection.values?_eq_ok_iff.mpr ⟨consistent.1, rfl⟩
    have buffer (b : Builder) : t.buffer.appendTo b = b.append t.buffer.datum := by
      rw [TensorBuffer.appendTo_eq_add]
      exact Builder.add_of_ok (Readable.entry_of_accepts t.buffer consistent.2.1) b
    have ok : (Loggable.entry t).datum = .ok t.datum := Readable.entry_of_accepts t consistent
    rw [Builder.add_of_ok ok, datum, ← pieces_eq_append, appendTo, valid, dims]
    simp only [bind, EStateM.bind, ofExcept, pure, EStateM.pure, Builder.modifyAt, Builder.workAt]
    cases hitems : Builder.appendItems (t.shape.toList.map TensorDimension.datum) items with
    | error e items => rfl
    | ok u items =>
      simp only [Outcome.mapState, Builder.modifyAt, Builder.workAt]
      cases hshape : (Builder.list item offsets lists items).closeEntry with
      | error e shape => rfl
      | ok u shape =>
        simp only [Builder.modifyAt, Builder.workAt, buffer]
        cases hother : other.append t.buffer.datum with
        | error e other => rfl
        | ok u other => rfl

end TensorData

/-! ## Runs of tensors -/

instance (t : TensorData) : Decidable t.Consistent :=
  match h : t.validate with
  | .ok () => isTrue (TensorData.validate_eq_ok_iff.mp h)
  | .error _ => isFalse fun consistent => by
      rw [TensorData.validate_eq_ok_iff.mpr consistent] at h
      cases h

/-- The loggable types that check their values. -/
inductive TensorType where
  | buffer
  | data
  | component
  deriving DecidableEq, Repr

namespace TensorType

/-- The values of a type. -/
@[reducible]
def Value : TensorType → Type
  | buffer => TensorBuffer
  | data => TensorData
  | component => Component.TensorData

/-- Whether the type is a datatype or a component. -/
@[reducible]
def kind : TensorType → NameKind
  | component => .component
  | _ => .datatype

instance (t : TensorType) : Loggable t.Value t.kind := by
  cases t <;> exact inferInstance

instance (t : TensorType) : Readable t.Value := by
  cases t <;> exact inferInstance

instance (t : TensorType) : DecidablePred (Readable.Accepts : t.Value → Prop) :=
  match t with
  | buffer => fun b => inferInstanceAs (Decidable (b.isNull = false))
  | data => fun t => inferInstanceAs (Decidable t.Consistent)
  | component => fun t => inferInstanceAs (Decidable t.value.Consistent)

/-- Appends a value piece by piece. -/
def appendTo : (t : TensorType) → t.Value → EStateM LogError Builder Unit
  | buffer, b => TensorBuffer.appendTo b
  | data, t => TensorData.appendTo t
  | component, t => TensorData.appendTo t.value

theorem appendTo_eq_add (t : TensorType) (a : t.Value) (slots : List Datum) :
    t.appendTo a (.holding false (Loggable.schema t.Value).type slots) =
      (Builder.holding false (Loggable.schema t.Value).type slots).add (Loggable.entry a) := by
  cases t with
  | buffer => exact TensorBuffer.appendTo_eq_add a _
  | data => exact TensorData.appendTo_eq_add a slots
  | component => exact TensorData.appendTo_eq_add a.value slots

/-- **Rejected values leave no trace.**  In a run of tensors, of their buffers or of tensor
components, a value that is not accepted leaves the builder as it was, an accepted one adds a slot,
and the run finishes as it does without its rejected steps.  Both hold of values that are written
piece by piece as well. -/
theorem run_rejected (t : TensorType) (capacity : Nat) (values : List (Option t.Value))
    (bounded : ((Loggable.newBuilder t.Value capacity).run (Loggable.steps values)).Bounded) :
    (∀ before a after, values = before ++ some a :: after →
      let b := (Loggable.newBuilder t.Value capacity).run (Loggable.steps before)
      t.appendTo a b = b.add (Loggable.entry a) ∧
      (¬ Readable.Accepts a → ∃ e, b.add (Loggable.entry a) = .error e b) ∧
      (Readable.Accepts a → ∃ b', b.add (Loggable.entry a) = .ok () b' ∧
        b'.length = b.length + 1)) ∧
    (Loggable.newBuilder t.Value capacity).run (Loggable.steps values) =
      (Loggable.newBuilder t.Value capacity).run (Loggable.steps (Readable.kept values)) ∧
    ∃ c, ((Loggable.newBuilder t.Value capacity).run (Loggable.steps values)).finish = .ok c ∧
      ((Loggable.newBuilder t.Value capacity).run
        (Loggable.steps (Readable.kept values))).finish = .ok c ∧
      c.length = (Readable.kept values).length := by
  have deleted := Readable.run_kept (Loggable.newBuilder t.Value capacity) values
  refine ⟨?_, deleted, ?_⟩
  · rintro before a after rfl
    refine ⟨?_, fun rejected => Readable.add_of_not_accepts rejected _,
      fun accepted => Readable.add_of_accepts accepted bounded⟩
    rw [Readable.run_before bounded]
    exact t.appendTo_eq_add a _
  · have kept : ∀ a, some a ∈ Readable.kept values → Readable.Accepts a := fun a mem =>
      of_decide_eq_true (List.mem_filter.mp mem).2
    rw [deleted] at bounded ⊢
    refine ⟨_, Readable.finish_run_newBuilder bounded, Readable.finish_run_newBuilder bounded, ?_⟩
    rw [DataType.length_columnOf, Readable.slotsOf_steps kept, List.length_map]

theorem run_rejected_tensors :
    let fitting : TensorData := .ofSizes [1, 2] ⟨.u16, .borrowed [7, 8]⟩
    let short : TensorData := .ofSizes [2, 2] ⟨.u16, .borrowed [7, 8]⟩
    let missing : TensorData := .ofSizes [3] ⟨.f32, .null 3 (by decide)⟩
    ∃ c, ((Loggable.newBuilder TensorData 4).run
        (Loggable.steps [some short, some fitting, none, some missing])).finish = .ok c ∧
      ((Loggable.newBuilder TensorData 4).run
        (Loggable.steps [some fitting, none])).finish = .ok c ∧
      c.length = 2 := by
  intro fitting short missing
  exact (run_rejected .data 4 [some short, some fitting, none, some missing] (by decide)).2.2

end TensorType
end ColumnLog
