import ColumnLog.Loggable
import ColumnLog.Proofs.Append
import Mathlib.Data.List.Forall2

/-!
# Runs of a builder

A run adds entries and null slots to a builder, in any order; an entry that is rejected does not end
it.  Children never get shorter, so a run whose last state is bounded was bounded all along, and the
builder then holds exactly the data of the accepted steps.

* `Builder.Within` compares a builder with a later one, `Builder.within_run` says that a run only
  leads to later ones.
* `Builder.run_holding` is the state after a run, `Builder.step_holding` the outcome of a step.
-/

set_option autoImplicit false

namespace ColumnLog

namespace UnionSlots

theorem used_le_record (u : UnionSlots) (id k : Nat) : u.used k ≤ (u.record id).used k := by
  by_cases h : id < u.counts.size
  · rw [used_record h]
    split
    · next hk => subst hk; exact Nat.le_succ _
    · exact Nat.le_refl _
  · simp [used, record, Array.setIfInBounds_eq_of_size_le (Nat.le_of_not_lt h)]

theorem used_le_pushNulls (u : UnionSlots) (count k : Nat) :
    u.used k ≤ (u.pushNulls count).used k := by
  induction count with
  | zero => exact Nat.le_refl _
  | succ count ih => exact Nat.le_trans ih (used_le_record _ 0 k)

theorem length_pushNulls (u : UnionSlots) (count : Nat) :
    (u.pushNulls count).length = u.length + count := by
  induction count with
  | zero => rfl
  | succ count ih =>
    show ((u.pushNulls count).record 0).length = _
    rw [length_record, ih, Nat.add_assoc]

end UnionSlots

namespace Builder

/-! ## Later builders -/

/-- Whether a builder is no longer than a later one, and bounded if that is. -/
def Within (b later : Builder) : Prop := b.length ≤ later.length ∧ (later.Bounded → b.Bounded)

theorem Within.refl (b : Builder) : b.Within b := ⟨Nat.le_refl _, id⟩

theorem Within.trans {a b c : Builder} (hab : a.Within b) (hbc : b.Within c) : a.Within c :=
  ⟨Nat.le_trans hab.1 hbc.1, hab.2 ∘ hbc.2⟩

theorem boundedEach_of_within {bs later : List Builder} (h : List.Forall₂ Within bs later) :
    BoundedEach later → BoundedEach bs := by
  induction h with
  | nil => exact id
  | cons head _ ih => exact fun hb => ⟨head.2 hb.1, ih hb.2⟩

theorem boundedVariants_of_within {bs later : List Builder} (h : List.Forall₂ Within bs later) :
    BoundedVariants later → BoundedVariants bs := by
  induction h with
  | nil => exact id
  | cons head _ ih =>
    exact fun hb => ⟨⟨Nat.le_trans head.1 hb.1.1, head.2 hb.1.2⟩, ih hb.2⟩

theorem within_each_refl (bs : List Builder) : List.Forall₂ Within bs bs := by
  induction bs with
  | nil => exact .nil
  | cons b bs ih => exact .cons (.refl b) ih

section Parts

variable {item : Field} {fields : List Field} {size : Nat} {mask mask' : Array Bool}
  {offsets offsets' : Array Nat} {items items' : Builder} {bs bs' : List Builder}

theorem Within.fixedSizeList (h : items.Within items') (grew : mask.size ≤ mask'.size) :
    (fixedSizeList item size mask items).Within (.fixedSizeList item size mask' items') :=
  ⟨grew, h.2⟩

theorem Within.list (h : items.Within items') (grew : mask.size ≤ mask'.size) :
    (list item offsets mask items).Within (.list item offsets' mask' items') :=
  ⟨grew, fun hb => ⟨Nat.le_trans h.1 hb.1, h.2 hb.2⟩⟩

theorem Within.struct (h : List.Forall₂ Within bs bs') (grew : mask.size ≤ mask'.size) :
    (struct fields mask bs).Within (.struct fields mask' bs') :=
  ⟨grew, boundedEach_of_within h⟩

theorem Within.denseUnion {ids : List Nat} {slots slots' : UnionSlots}
    (h : List.Forall₂ Within bs bs') (grew : slots.length ≤ slots'.length)
    (used : slots.used 0 ≤ slots'.used 0) :
    (denseUnion ids fields slots bs).Within (.denseUnion ids fields slots' bs') :=
  ⟨grew, fun hb => ⟨Nat.le_trans used hb.1, boundedVariants_of_within h hb.2⟩⟩

end Parts

mutual

theorem within_appendNulls (n : Nat) : (b : Builder) → b.Within (b.appendNulls n)
  | null count => ⟨Nat.le_add_right count n, id⟩
  | leaf p blank slots => ⟨by simp [appendNulls, length], id⟩
  | fixedSizeList item size mask items =>
    .fixedSizeList (within_appendNulls (n * size) items) (by simp)
  | list item offsets mask items => .list (.refl items) (by simp)
  | struct fields mask children => .struct (within_appendNullsEach n children) (by simp)
  | denseUnion ids fields slots variants =>
    .denseUnion (within_each_refl variants) (by simp [UnionSlots.length_pushNulls])
      (slots.used_le_pushNulls n 0)

theorem within_appendNullsEach (n : Nat) :
    (bs : List Builder) → List.Forall₂ Within bs (appendNullsEach n bs)
  | [] => .nil
  | b :: bs => .cons (within_appendNulls n b) (within_appendNullsEach n bs)

end

theorem within_closeEntry (b : Builder) : b.Within b.closeEntry.state := by
  cases b with
  | list item offsets mask items =>
    rw [closeEntry]
    split
    · exact .list (.refl items) (by simp)
    · exact .refl _
  | _ => exact .refl _

theorem within_workAt {work : Builder → Appended} (h : ∀ b : Builder, b.Within (work b).state)
    (k : Nat) (bs : List Builder) : List.Forall₂ Within bs (workAt work k bs).state := by
  induction bs generalizing k with
  | nil => cases k <;> exact .nil
  | cons b bs ih =>
    cases k with
    | zero =>
      rw [workAt, Outcome.state_mapState]
      exact .cons (h b) (within_each_refl bs)
    | succ k =>
      rw [workAt, Outcome.state_mapState]
      exact .cons (.refl b) (ih k)

mutual

theorem within_append : (d : Datum) → (b : Builder) → b.Within (append d b).state
  | .null, b => within_appendNulls 1 b
  | .scalar p value, b => by
    cases b with
    | leaf q blank slots =>
      rw [append]
      split
      · exact ⟨by simp [Outcome.state, length], id⟩
      · exact .refl _
    | _ => exact .refl _
  | .items data, b => by
    cases b with
    | fixedSizeList item size mask items =>
      have later := within_appendItems data items
      rw [append]
      split
      · cases h : appendItems data items with
        | ok _ left =>
          rw [h] at later
          exact .fixedSizeList later (by simp)
        | error e left =>
          rw [h] at later
          exact .fixedSizeList later (Nat.le_refl _)
      · exact .refl _
    | list item offsets mask items =>
      have later := within_appendItems data items
      rw [append]
      cases h : appendItems data items with
      | ok _ left =>
        rw [h] at later
        refine Within.trans ?_ (within_closeEntry _)
        exact .list later (Nat.le_refl _)
      | error e left =>
        rw [h] at later
        exact .list later (Nat.le_refl _)
    | _ => exact .refl _
  | .record parts, b => by
    cases b with
    | struct fields mask children =>
      have later := within_appendParts parts children
      rw [append]
      cases h : appendParts parts children with
      | ok _ left =>
        rw [h] at later
        exact .struct later (by simp)
      | error e left =>
        rw [h] at later
        exact .struct later (Nat.le_refl _)
    | _ => exact .refl _
  | .variant id content, b => by
    cases b with
    | denseUnion ids fields slots variants =>
      rw [append]
      split
      · have recorded : (denseUnion ids fields slots variants).Within
            (denseUnion ids fields (slots.record id.toNat) variants) :=
          .denseUnion (within_each_refl variants) (by simp) (slots.used_le_record id.toNat 0)
        refine recorded.trans ?_
        cases id.toNat with
        | zero => exact .refl _
        | succ k =>
          rw [Outcome.state_mapState]
          exact .denseUnion (within_workAt (within_append content) k variants) (Nat.le_refl _)
            (Nat.le_refl _)
      · exact .refl _
    | _ => exact .refl _

theorem within_appendItems : (data : List Datum) → (b : Builder) →
    b.Within (appendItems data b).state
  | [], b => .refl b
  | d :: data, b => by
    have head := within_append d b
    rw [appendItems]
    cases h : append d b with
    | ok _ left =>
      rw [h] at head
      exact head.trans (within_appendItems data left)
    | error e left =>
      rw [h] at head
      exact head

theorem within_appendParts :
    (parts : List Datum) → (bs : List Builder) → List.Forall₂ Within bs (appendParts parts bs).state
  | [], bs => within_each_refl bs
  | _ :: _, [] => .nil
  | d :: parts, b :: bs => by
    have head := within_append d b
    have tail := within_appendParts parts bs
    rw [appendParts]
    cases h : append d b with
    | ok _ left =>
      rw [h] at head
      cases h' : appendParts parts bs with
      | ok _ lefts =>
        rw [h'] at tail
        exact .cons head tail
      | error e lefts =>
        rw [h'] at tail
        exact .cons head tail
    | error e left =>
      rw [h] at head
      exact .cons head (within_each_refl bs)

end

/-! ## Steps -/

variable {type : DataType} {required : Bool} {data : List Datum} {steps : List (Option Entry)}

/-- One step of a run: an entry to add, or a null slot. -/
def step (b : Builder) : Option Entry → Appended
  | some entry => b.add entry
  | none => .ok () b.appendNull

/-- The builder after some steps; a step that fails does not end the run. -/
def run (b : Builder) (steps : List (Option Entry)) : Builder :=
  steps.foldl (fun b s => (b.step s).state) b

/-- The slot that a step adds, if its entry is not rejected. -/
def slotOf? : Option Entry → Option Datum
  | some entry => entry.datum.toOption
  | none => some .null

/-- The slots that the steps add. -/
def slotsOf (steps : List (Option Entry)) : List Datum := steps.filterMap slotOf?

/-- Whether what the steps write is data of the type. -/
def Fitting (type : DataType) (steps : List (Option Entry)) : Prop :=
  ∀ entry, some entry ∈ steps → ∀ d, entry.datum = .ok d → type.Admits d

theorem add_of_ok {entry : Entry} {d : Datum} (ok : entry.datum = .ok d) (b : Builder) :
    b.add entry = b.append d := by rw [add, ok]

theorem add_of_error {entry : Entry} {e : LogError} (error : entry.datum = .error e)
    (b : Builder) : b.add entry = .error e b := by rw [add, error]

theorem within_step (b : Builder) (s : Option Entry) : b.Within (b.step s).state := by
  cases s with
  | none => exact within_appendNulls 1 b
  | some entry =>
    rw [step, add]
    split
    · exact within_append _ b
    · exact .refl b

/-- A run only leads to later builders. -/
theorem within_run (b : Builder) (steps : List (Option Entry)) : b.Within (b.run steps) := by
  induction steps generalizing b with
  | nil => exact .refl b
  | cons s steps ih => exact (within_step b s).trans (ih _)

theorem run_append (b : Builder) (xs ys : List (Option Entry)) :
    b.run (xs ++ ys) = (b.run xs).run ys := List.foldl_append

theorem step_of_rejected {b : Builder} {s : Option Entry} (h : slotOf? s = none) :
    ∃ e, b.step s = .error e b := by
  cases s with
  | none => cases h
  | some entry =>
    cases hd : entry.datum with
    | ok d => simp [slotOf?, hd, Except.toOption] at h
    | error e => exact ⟨e, add_of_error hd b⟩

theorem slotOf?_eq_some {s : Option Entry} {d : Datum} (h : slotOf? s = some d) :
    (s = none ∧ d = .null) ∨ ∃ entry, s = some entry ∧ entry.datum = .ok d := by
  cases s with
  | none => exact .inl ⟨rfl, (Option.some.inj h).symm⟩
  | some entry =>
    cases hd : entry.datum with
    | ok d' =>
      rw [slotOf?, hd] at h
      cases h
      exact .inr ⟨entry, rfl, hd⟩
    | error e => simp [slotOf?, hd, Except.toOption] at h

theorem reaches_step (regular : type.Regular) (fits : Fitting type steps) {s : Option Entry}
    (mem : s ∈ steps) {d : Datum} (hd : slotOf? s = some d) :
    Reaches Bounded ((holding required type data).step s)
      (holding required type (data ++ [d])) := by
  rcases slotOf?_eq_some hd with ⟨rfl, rfl⟩ | ⟨entry, rfl, ok⟩
  · refine .inl ?_
    rw [step, appendNull, appendNulls_holding regular]
    rfl
  · rw [step, add_of_ok ok]
    exact appends_of_regular regular required data d (fits entry mem d ok)

theorem stores_slotsOf (fits : Fitting type steps) : type.Stores (slotsOf steps) := by
  intro d hd
  obtain ⟨s, mem, slot⟩ := List.mem_filterMap.mp hd
  rcases slotOf?_eq_some slot with ⟨-, rfl⟩ | ⟨entry, rfl, ok⟩
  · exact .inl rfl
  · exact .inr (fits entry mem d ok)

/-- A step that is not rejected adds its slot, if the run ends bounded. -/
theorem step_holding (regular : type.Regular) (fits : Fitting type steps) {s : Option Entry}
    (mem : s ∈ steps) {d : Datum} (hd : slotOf? s = some d)
    (bounded : ((holding required type data).step s).state.Bounded) :
    (holding required type data).step s = .ok () (holding required type (data ++ [d])) := by
  rcases reaches_step regular fits mem hd with ok | ⟨e, left, error, hleft⟩
  · exact ok
  · rw [error] at bounded
    exact absurd bounded hleft

/-- **The builder after a run holds the slots of the steps that were not rejected.** -/
theorem run_holding (regular : type.Regular) (fits : Fitting type steps)
    (bounded : ((holding required type data).run steps).Bounded) :
    (holding required type data).run steps = holding required type (data ++ slotsOf steps) := by
  induction steps generalizing data with
  | nil => rw [slotsOf, List.filterMap_nil, List.append_nil]; rfl
  | cons s steps ih =>
    have rest : Fitting type steps := fun entry mem => fits entry (List.mem_cons_of_mem s mem)
    have bounded' : (((holding required type data).step s).state.run steps).Bounded := bounded
    show ((holding required type data).step s).state.run steps = _
    cases hd : slotOf? s with
    | none =>
      obtain ⟨e, he⟩ := step_of_rejected (b := holding required type data) hd
      rw [he] at bounded' ⊢
      rw [slotsOf, List.filterMap_cons_none hd]
      exact ih rest bounded'
    | some d =>
      have ok := step_holding regular fits List.mem_cons_self hd
        ((within_run _ steps).2 bounded')
      rw [ok] at bounded' ⊢
      have run := ih rest bounded'
      rw [List.append_assoc] at run
      rw [slotsOf, List.filterMap_cons_some hd]
      exact run

/-- The steps one after the other, up to the first that fails. -/
def addAll : List (Option Entry) → Builder → Appended
  | [], b => .ok () b
  | s :: steps, b =>
    match b.step s with
    | .ok () b => addAll steps b
    | .error e b => .error e b

/-- A run in which every step succeeds ends in the builder of its slots, bounded or not. -/
theorem addAll_holding (regular : type.Regular) (fits : Fitting type steps) {b : Builder}
    (ok : addAll steps (holding required type data) = .ok () b) :
    b = holding required type (data ++ slotsOf steps) := by
  induction steps generalizing data with
  | nil => cases ok; rw [slotsOf, List.filterMap_nil, List.append_nil]
  | cons s steps ih =>
    have rest : Fitting type steps := fun entry mem => fits entry (List.mem_cons_of_mem s mem)
    cases hd : slotOf? s with
    | none =>
      obtain ⟨e, he⟩ := step_of_rejected (b := holding required type data) hd
      rw [addAll, he] at ok
      cases ok
    | some d =>
      have reaches : Reaches Bounded ((holding required type data).step s)
          (holding required type (data ++ [d])) :=
        reaches_step regular fits List.mem_cons_self hd
      rcases reaches with ok' | ⟨e, left, error, -⟩
      · rw [addAll, ok'] at ok
        rw [slotsOf, List.filterMap_cons_some hd, ← List.singleton_append, ← List.append_assoc]
        exact ih rest ok
      · rw [addAll, error] at ok
        cases ok

/-- A run in which every step succeeds adds a slot for every step. -/
theorem length_slotsOf_of_addAll {b left : Builder} (ok : addAll steps b = .ok () left) :
    (slotsOf steps).length = steps.length := by
  induction steps generalizing b with
  | nil => rfl
  | cons s steps ih =>
    cases hd : slotOf? s with
    | none =>
      obtain ⟨e, he⟩ := step_of_rejected (b := b) hd
      rw [addAll, he] at ok
      cases ok
    | some d =>
      rw [addAll] at ok
      cases added : b.step s with
      | error e b' => rw [added] at ok; cases ok
      | ok u b' =>
        rw [added] at ok
        rw [slotsOf, List.filterMap_cons_some hd, List.length_cons, List.length_cons, ← ih ok]
        rfl

end Builder
end ColumnLog
