import ColumnLog.Proofs.Library
import ColumnLog.Proofs.Read

/-!
# What is logged reads back

A run of appends on a fresh builder finishes into a column with one slot per step, and every slot
reads back as the value that its step appended, or as a null.

* `Readable.slot?` reads a slot of a column as a value.
* `LibraryType.run_roundTrip` is the result, for every loggable type.
-/

set_option autoImplicit false

namespace ColumnLog

namespace Readable

variable {α : Type} {kind : NameKind} [Loggable α kind] [Readable α] {values : List (Option α)}

/-- The value that a slot of a column was made of, none for a null slot. -/
def slot? (α : Type) {kind : NameKind} [Loggable α kind] [Readable α] (c : Column) (i : Nat) :
    Option (Option α) :=
  (c.read? i).bind (Datum.option? read?)

theorem option?_ofOption_datum (v : Option α) :
    Datum.option? read? (.ofOption datum v) = some (v.map settled) := by
  cases v with
  | none => rfl
  | some a =>
    have opened : Datum.option? read? (datum a) = (read? (datum a)).map (some : α → Option α) := by
      cases h : datum a with
      | null => exact absurd h (admits a).ne_null
      | _ => rfl
    rw [Datum.ofOption, opened, read?_datum]
    rfl

theorem slot?_columnOf {data : List Datum} (stores : (Loggable.schema α).type.Stores data) {i : Nat}
    {v : Option α} (h : data[i]? = some (.ofOption datum v)) :
    slot? α ((Loggable.schema α).type.columnOf false data) i = some (v.map settled) := by
  rw [slot?, DataType.read?_columnOf regular stores h, Option.bind_some, option?_ofOption_datum]

theorem nullAt_columnOf {data : List Datum} (stores : (Loggable.schema α).type.Stores data)
    {i : Nat} {v : Option α} (h : data[i]? = some (.ofOption datum v)) :
    ((Loggable.schema α).type.columnOf false data).nullAt i = v.isNone := by
  cases v with
  | none => exact DataType.nullAt_columnOf_of_null regular (fun _ _ => rfl) h
  | some a =>
    refine Bool.eq_false_iff.mpr fun null => ?_
    rw [DataType.eq_null_of_nullAt_columnOf regular stores null] at h
    exact (admits a).ne_null (Option.some.inj h).symm

theorem slot?_finish_run {capacity : Nat} (accepted : ∀ a, some a ∈ values → Accepts a)
    (bounded : ((Loggable.newBuilder α capacity).run (Loggable.steps values)).Bounded) :
    ∃ c, ((Loggable.newBuilder α capacity).run (Loggable.steps values)).finish = .ok c ∧
      c.length = values.length ∧
      ∀ i v, values[i]? = some v →
        c.nullAt i = v.isNone ∧ slot? α c i = some (v.map settled) := by
  have stores := Builder.stores_slotsOf (fitting_steps values)
  refine ⟨_, finish_run_newBuilder bounded, ?_, fun i v hv => ?_⟩
  · rw [DataType.length_columnOf, slotsOf_steps accepted, List.length_map]
  · have slot : (Builder.slotsOf (Loggable.steps values))[i]? = some (.ofOption datum v) := by
      rw [slotsOf_steps accepted, List.getElem?_map, hv, Option.map_some]
    exact ⟨nullAt_columnOf stores slot, slot?_columnOf stores slot⟩

end Readable

/-- **What is logged reads back.**  For every loggable type, a run of accepted values and null slots
on a fresh builder finishes into a column of one slot per step.  A slot is null exactly if its step
was, and it reads back as the value of its step. -/
theorem LibraryType.run_roundTrip (t : LibraryType) (capacity : Nat)
    (values : List (Option t.Value)) (accepted : ∀ a, some a ∈ values → Readable.Accepts a)
    (bounded : ((Loggable.newBuilder t.Value capacity).run (Loggable.steps values)).Bounded) :
    ∃ c, ((Loggable.newBuilder t.Value capacity).run (Loggable.steps values)).finish = .ok c ∧
      c.length = values.length ∧
      ∀ i v, values[i]? = some v →
        c.nullAt i = v.isNone ∧ Readable.slot? t.Value c i = some (v.map t.settled) := by
  obtain ⟨c, finished, length, slots⟩ := Readable.slot?_finish_run accepted bounded
  refine ⟨c, finished, length, fun i v hv => ?_⟩
  rw [show t.settled = Readable.settled from funext fun a => (t.readable_settled a).symm]
  exact slots i v hv

theorem LibraryType.run_roundTrip_transforms :
    let turn : Transform3D := .translationRotationScale
      { rotation := some (.axisAngle ⟨.ones, .inDegrees .one⟩), fromParent := true }
    let shift : Transform3D := .translationAndMat3x3 { translation := some .ones }
    ∃ c, ((Loggable.newBuilder Transform3D 1).run
        (Loggable.steps [some turn, none, some shift])).finish = .ok c ∧
      c.nullAt 1 = true ∧ Readable.slot? Transform3D c 0 = some (some turn) ∧
      Readable.slot? Transform3D c 2 = some (some shift) := by
  intro turn shift
  obtain ⟨c, finished, -, slots⟩ := run_roundTrip .transform3D 1 [some turn, none, some shift]
    (fun _ _ => trivial) (by decide)
  exact ⟨c, finished, (slots 1 _ rfl).1, (slots 0 _ rfl).2, (slots 2 _ rfl).2⟩

end ColumnLog
