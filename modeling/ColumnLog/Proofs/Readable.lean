import ColumnLog.Proofs.Finish
import ColumnLog.Proofs.Run

/-!
# Types that can be read back

A loggable type can be read back if there is a reader that gets every value out of the datum that
was written of it.

* `Readable` is the reader of a type with its laws; `Readable.wrapping` is the one of a component
  that consists of one value.
* `Datum.scalars?` and `Datum.option?` are the parts that readers are made of.
* `DataType.admits_scalars`, `DataType.admits_items` and `Field.allows_ofOption` say that what is
  written in these ways is data of the types declared for it.
* `Loggable.newBuilder` and `Loggable.steps` make runs of values; `Readable.run_newBuilder` and
  `Readable.finish_run_newBuilder` say what the fresh builder of a type comes to.
-/

set_option autoImplicit false

namespace ColumnLog

/-- A loggable type whose accepted values can be read back from what is written of them. -/
class Readable (α : Type) {kind : outParam NameKind} [Loggable α kind] where
  /-- The values that are written; the others are rejected. -/
  Accepts : α → Prop
  /-- What is written of an accepted value. -/
  datum : α → Datum
  /-- The value that was written. -/
  read? : Datum → Option α
  /-- The value as it is read, with elements of its own where the written one borrowed them. -/
  settled : α → α
  start_eq : (Loggable.schema α).start = .new (Loggable.schema α).type
  regular : (Loggable.schema α).type.Regular
  entry_of_accepts : ∀ a, Accepts a → (Loggable.entry a).datum = .ok (datum a)
  entry_of_not_accepts : ∀ a, ¬ Accepts a → ∃ e, (Loggable.entry a).datum = .error e
  admits : ∀ a, (Loggable.schema α).type.Admits (datum a)
  read?_datum : ∀ a, read? (datum a) = some (settled a)

namespace Readable

variable {α β : Type} {kind : NameKind}

/-- The reader of a component that consists of one value. -/
@[reducible]
def wrapping [Loggable β kind] [inner : Readable β] {short : String} {content : α → β}
    (wrap : β → α) :
    @Readable α .component (Component.wrapping short content).toLoggable :=
  letI := Component.wrapping short content
  { Accepts := fun a => inner.Accepts (content a)
    datum := fun a => inner.datum (content a)
    read? := fun d => (inner.read? d).map wrap
    settled := fun a => wrap (inner.settled (content a))
    start_eq := inner.start_eq
    regular := inner.regular
    entry_of_accepts := fun a => inner.entry_of_accepts (content a)
    entry_of_not_accepts := fun a => inner.entry_of_not_accepts (content a)
    admits := fun a => inner.admits (content a)
    read?_datum := fun a => by rw [inner.read?_datum (content a), Option.map_some] }

end Readable

/-! ## Parts of readers -/

namespace Datum

/-- The flat values of an entry. -/
def scalars? (p : Primitive) : Datum → Option (List p.Value)
  | items data => data.mapM (scalar? p)
  | _ => none

/-- A part that may be missing. -/
def option? {α : Type} (read? : Datum → Option α) : Datum → Option (Option α)
  | null => some none
  | d => (read? d).map some

@[simp]
theorem scalars?_scalars {p : Primitive} (values : List p.Value) :
    scalars? p (scalars p values) = some values := by
  rw [scalars, scalars?]
  induction values with
  | nil => rfl
  | cons value values ih => simp [ih]

theorem option?_ofOption {α : Type} (write : α → Datum) {read? : Datum → Option α}
    (read : ∀ a, read? (write a) = some a) (ne : ∀ a, write a ≠ null) (o : Option α) :
    option? read? (ofOption write o) = some o := by
  cases o with
  | none => rfl
  | some a =>
    have opened : option? read? (write a) = (read? (write a)).map some := by
      cases h : write a with
      | null => exact absurd h (ne a)
      | _ => rfl
    rw [ofOption, opened, read, Option.map_some]

end Datum

/-! ## What is written is data of the type -/

theorem Field.regular_nil : ∀ f ∈ ([] : List Field), f.type.Regular := List.forall_mem_nil _

theorem Field.regular_cons {f : Field} {fs : List Field} (head : f.type.Regular)
    (tail : ∀ g ∈ fs, g.type.Regular) : ∀ g ∈ f :: fs, g.type.Regular :=
  List.forall_mem_cons.mpr ⟨head, tail⟩

theorem DataType.admits_scalar (p : Primitive) (value : p.Value) :
    (leaf p).Admits (.scalar p value) := rfl

theorem DataType.admits_scalars {p : Primitive} {size : Nat} {values : List p.Value}
    (h : values.length = size) :
    (fixedSizeList (.item (.leaf p)) size).Admits (.scalars p values) := by
  refine ⟨by simpa using h, fun d hd => ?_⟩
  obtain ⟨value, -, rfl⟩ := List.mem_map.mp hd
  exact .inr rfl

theorem DataType.admits_items {α : Type} {type : DataType} (write : α → Datum)
    (h : ∀ a, type.Admits (write a)) (values : List α) :
    (list (.item type)).Admits (.items (values.map write)) := by
  intro d hd
  obtain ⟨a, -, rfl⟩ := List.mem_map.mp hd
  exact .inr (h a)

theorem Field.allows_of_admits {f : Field} {d : Datum} (h : f.type.Admits d) : f.Allows d :=
  (f.allows_iff d).mpr (.inr h)

theorem Field.allows_ofOption {α : Type} {name : String} {type : DataType} (write : α → Datum)
    (h : ∀ a, type.Admits (write a)) (o : Option α) :
    (optional name type).Allows (.ofOption write o) := by
  cases o with
  | none => exact .inl ⟨rfl, rfl⟩
  | some a => exact .inr (h a)

/-! ## Runs of values -/

namespace Loggable

variable {α : Type} {kind : NameKind}

/-- A fresh builder.  The capacity asks for memory in advance; it is no part of what the builder
holds. -/
def newBuilder (α : Type) [Loggable α kind] (_capacity : Nat) : Builder := (schema α).start

/-- The steps that append values, and a null slot for none. -/
def steps [Loggable α kind] (values : List (Option α)) : List (Option Entry) :=
  values.map (Option.map entry)

theorem steps_append [Loggable α kind] (xs ys : List (Option α)) :
    steps (xs ++ ys) = steps xs ++ steps ys := List.map_append

end Loggable

namespace Readable

variable {α : Type} {kind : NameKind} [Loggable α kind] [Readable α] {values : List (Option α)}

theorem newBuilder_eq_holding (capacity : Nat) :
    Loggable.newBuilder α capacity = .holding false (Loggable.schema α).type [] := by
  rw [Loggable.newBuilder, start_eq, Builder.new_eq_holding regular]

theorem fitting_steps (values : List (Option α)) :
    Builder.Fitting (Loggable.schema α).type (Loggable.steps values) := by
  intro entry mem d ok
  obtain ⟨v, -, hv⟩ := List.mem_map.mp mem
  obtain ⟨a, -, rfl⟩ := Option.map_eq_some_iff.mp hv
  by_cases accepts : Accepts a
  · rw [entry_of_accepts a accepts] at ok
    cases ok
    exact admits a
  · obtain ⟨e, error⟩ := entry_of_not_accepts a accepts
    rw [error] at ok
    cases ok

theorem slotOf?_of_accepts {v : Option α} (h : ∀ a, v = some a → Accepts a) :
    Builder.slotOf? (v.map Loggable.entry) = some (.ofOption datum v) := by
  cases v with
  | none => rfl
  | some a =>
    rw [Option.map_some, Builder.slotOf?, entry_of_accepts a (h a rfl)]
    rfl

/-- Accepted values and null slots are written one by one. -/
theorem slotsOf_steps (accepted : ∀ a, some a ∈ values → Accepts a) :
    Builder.slotsOf (Loggable.steps values) = values.map (Datum.ofOption datum) := by
  induction values with
  | nil => rfl
  | cons v values ih =>
    have head : Builder.slotOf? (v.map Loggable.entry) = some (.ofOption datum v) :=
      slotOf?_of_accepts fun a h => accepted a (h ▸ List.mem_cons_self)
    have tail := ih fun a h => accepted a (List.mem_cons_of_mem v h)
    rw [Builder.slotsOf, Loggable.steps, List.map_cons, List.filterMap_cons_some head,
      List.map_cons, ← tail]
    rfl

/-- A fresh builder after a run. -/
theorem run_newBuilder {capacity : Nat}
    (bounded : ((Loggable.newBuilder α capacity).run (Loggable.steps values)).Bounded) :
    (Loggable.newBuilder α capacity).run (Loggable.steps values) =
      .holding false (Loggable.schema α).type (Builder.slotsOf (Loggable.steps values)) := by
  rw [newBuilder_eq_holding] at bounded ⊢
  exact Builder.run_holding regular (fitting_steps values) bounded

/-- A fresh builder after a run, finished. -/
theorem finish_run_newBuilder {capacity : Nat}
    (bounded : ((Loggable.newBuilder α capacity).run (Loggable.steps values)).Bounded) :
    ((Loggable.newBuilder α capacity).run (Loggable.steps values)).finish =
      .ok ((Loggable.schema α).type.columnOf false
        (Builder.slotsOf (Loggable.steps values))) := by
  have run := run_newBuilder bounded
  rw [run] at bounded ⊢
  exact Builder.finish_holding regular (Builder.stores_slotsOf (fitting_steps values)) bounded

end Readable

end ColumnLog
