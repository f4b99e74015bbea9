import ColumnLog.Proofs.Ownership

/-!
# What becomes of a collection

A collection comes from somewhere, and then it is edited, copied and detached from the caller.  The
report of how its elements are held is read off its last state alone; here it is told from where the
collection came and what was done with it since.

* `Collection.Origin` lists the ways to make a collection, `Collection.Step` what may be done with
  one, and `Collection.run` gives the collection after some steps.  A copy is a collection of its
  own, which goes on with the steps that are taken on it.
* `Collection.contents` are the elements after some steps, whoever holds them.
* `Collection.OnHeap` says of the steps alone whether an element that was made in place has moved
  to the heap since and has not come back.
* `Collection.Held` tells how a collection of each origin is held after some steps, and
  `Collection.held_run` that this is so.
* `Collection.reports_exact` is the result, for every origin and every sequence of steps, and
  `Collection.reports_unfaithful` says where a report is not what one would expect: a copy forgets
  that its elements were on the heap, and a place may be reported that nothing is kept in.
-/

set_option autoImplicit false

namespace ColumnLog.Collection

/-! ## Origins and steps -/

/-- How a collection is made. -/
inductive Origin (α : Type) where
  | empty
  /-- From elements that are handed over, in whatever container. -/
  | owned (values : List α)
  /-- From elements that stay with the caller, whether by a slice or by a valid pointer. -/
  | borrowed (values : List α)
  | single (a : α)
  /-- From a null pointer and a declared length. -/
  | null (count : Nat)

namespace Origin

variable {α : Type}

def make : Origin α → Collection α
  | empty => .empty
  | owned values => .owned values
  | borrowed values => .borrowed values
  | single a => .single a
  | null count => .ofNull count

/-- The elements that a collection is made with. -/
def elements : Origin α → List α
  | empty => []
  | owned values => values
  | borrowed values => values
  | single a => [a]
  | null _ => []

end Origin

/-- What may be done with a collection.  Several edits through one access are several steps. -/
inductive Step (α : Type) where
  /-- Makes it ready for an edit, without one. -/
  | prepare
  | edit (e : Edit α)
  /-- Goes on with a copy. -/
  | clone
  | intoOwned

variable {α : Type}

namespace Step

/-- Takes the step.  A null buffer that cannot be detached is given up, but a copy of it is no
different. -/
def take : Step α → Collection α → Outcome (Collection α) Unit
  | prepare, c => c.mutable?
  | edit e, c => c.edit e
  | clone, c => .ok () c.clone
  | intoOwned, c =>
    match c.intoOwned with
    | .ok detached => .ok () detached
    | .error refusal => .error refusal c

/-- The collection after the step, whether or not it fails. -/
def next (s : Step α) (c : Collection α) : Collection α := (s.take c).state

/-- The elements after the step. -/
def apply : Step α → List α → List α
  | edit e, values => e.apply values
  | _, values => values

/-- The number of places that the step asks for. -/
def room : Step α → List α → Nat
  | edit e, values => e.room values
  | _, _ => 0

/-- Whether the step brings elements on the heap back to the one place they were made for: there is
no more than one, and it is copied there, or the room that is not needed is given back. -/
def BringsBack (s : Step α) (values : List α) : Prop :=
  (s = clone ∨ s = edit .shrink) ∧ values.length ≤ 1

end Step

/-- The collection after some steps. -/
def run (c : Collection α) (steps : List (Step α)) : Collection α :=
  steps.foldl (fun c s => s.next c) c

/-- The elements after some steps. -/
def contents (values : List α) (steps : List (Step α)) : List α :=
  steps.foldl (fun values s => s.apply values) values

/-- Whether step number `i` is `s`, and finds the given elements, where there are `values` before
all steps. -/
def StepAt (values : List α) (steps : List (Step α)) (i : Nat) (s : Step α) (found : List α) :
    Prop :=
  steps[i]? = some s ∧ contents values (steps.take i) = found

/-- Whether an element made in place is on the heap after some steps, together with those that have
joined it: some step asked for more than one place, and no step after it has brought them back. -/
def OnHeap (a : α) (steps : List (Step α)) : Prop :=
  ∃ i s found, StepAt [a] steps i s found ∧ 1 < s.room found ∧
    ∀ j t later, i < j → StepAt [a] steps j t later → ¬ t.BringsBack later

variable {c d : Collection α} {s t : Step α} {steps : List (Step α)} {values found : List α}
  {i : Nat} {a : α} {spilled : Bool} {o : Origin α}

theorem run_concat (c : Collection α) (steps : List (Step α)) (s : Step α) :
    run c (steps ++ [s]) = s.next (run c steps) := by
  rw [run, List.foldl_append]
  rfl

theorem run_append (c : Collection α) (steps more : List (Step α)) :
    run c (steps ++ more) = run (run c steps) more :=
  List.foldl_append

theorem contents_concat (values : List α) (steps : List (Step α)) (s : Step α) :
    contents values (steps ++ [s]) = s.apply (contents values steps) := by
  rw [contents, List.foldl_append]
  rfl

theorem contents_of_copies (copies : ∀ s ∈ steps, s = .clone) : contents values steps = values := by
  induction steps with
  | nil => rfl
  | cons s steps ih =>
    rw [List.forall_mem_cons] at copies
    rw [copies.1]
    exact ih copies.2

theorem StepAt.lt (h : StepAt values steps i s found) : i < steps.length :=
  (List.getElem?_eq_some_iff.mp h.1).1

theorem stepAt_concat : StepAt values (steps ++ [s]) i t found ↔
    StepAt values steps i t found ∨ i = steps.length ∧ t = s ∧ found = contents values steps := by
  rcases Nat.lt_trichotomy i steps.length with lt | rfl | gt
  · rw [StepAt, StepAt, List.getElem?_append_left lt,
      List.take_append_of_le_length (Nat.le_of_lt lt)]
    exact (or_iff_left fun last => absurd last.1 (Nat.ne_of_lt lt)).symm
  · have none : ¬ StepAt values steps steps.length t found := fun h => Nat.lt_irrefl _ h.lt
    rw [or_iff_right none, StepAt, List.getElem?_concat_length, List.take_left, Option.some.injEq]
    exact ⟨fun ⟨same, left⟩ => ⟨rfl, same.symm, left.symm⟩,
      fun ⟨_, same, left⟩ => ⟨same.symm, left.symm⟩⟩
  · refine iff_of_false (fun h => ?_) ?_
    · have := h.lt
      rw [List.length_append, List.length_singleton] at this
      omega
    · rintro (h | ⟨rfl, -⟩)
      · exact absurd h.lt (Nat.lt_asymm gt)
      · exact Nat.lt_irrefl _ gt

/-- One more step: it takes the elements to the heap, or leaves them where they are. -/
theorem onHeap_concat : OnHeap a (steps ++ [s]) ↔
    1 < s.room (contents [a] steps) ∨ OnHeap a steps ∧ ¬ s.BringsBack (contents [a] steps) := by
  have last : StepAt [a] (steps ++ [s]) steps.length s (contents [a] steps) :=
    stepAt_concat.mpr (.inr ⟨rfl, rfl, rfl⟩)
  constructor
  · rintro ⟨i, t, found, at_i, crowded, stay⟩
    rcases stepAt_concat.mp at_i with old | ⟨rfl, rfl, rfl⟩
    · refine .inr ⟨⟨i, t, found, old, crowded, fun j u later ij at_j => ?_⟩, ?_⟩
      · exact stay j u later ij (stepAt_concat.mpr (.inl at_j))
      · exact stay _ s _ old.lt last
    · exact .inl crowded
  · rintro (crowded | ⟨⟨i, t, found, at_i, crowded, stay⟩, stays⟩)
    · refine ⟨_, s, _, last, crowded, fun j u later ij at_j => ?_⟩
      -- there is no step after the last one
      have := at_j.lt
      rw [List.length_append, List.length_singleton] at this
      omega
    · refine ⟨i, t, found, stepAt_concat.mpr (.inl at_i), crowded, fun j u later ij at_j => ?_⟩
      rcases stepAt_concat.mp at_j with old | ⟨rfl, rfl, rfl⟩
      · exact stay j u later ij old
      · exact stays

/-! ## Steps, by how the elements are held -/

theorem Edit.length_apply_le (e : Edit α) (values : List α) :
    (e.apply values).length ≤ max (e.room values) values.length := by
  cases e with
  | insert i a =>
    simp only [apply, room, List.length_insertIdx]
    split <;> omega
  | remove i =>
    simp only [apply, room, List.length_eraseIdx]
    split <;> omega
  | _ => simp [apply, room]

/-- Elements in their place leave it if an edit asks for more; those on the heap stay there unless
the room is given back. -/
theorem Edit.spills_eq_true_iff (e : Edit α) : e.spills values spilled = true ↔
    1 < e.room values ∨ spilled = true ∧ ¬ (e = .shrink ∧ values.length ≤ 1) := by
  cases e with
  | shrink => simp [spills, room]
  | _ => simp [spills, or_comm]

theorem next_owned : s.next (owned values) = owned (s.apply values) := by
  cases s <;> rfl

theorem next_borrowed (ne : s ≠ .clone) : s.next (borrowed values) = owned (s.apply values) := by
  cases s with
  | clone => exact absurd rfl ne
  | _ => rfl

theorem next_null {count : Nat} (pos : 0 < count) : s.next (null count pos) = null count pos := by
  cases s <;> rfl

/-- What a step does to elements made in place.  In their place there is never more than one. -/
theorem next_inline (few : spilled = false → values.length ≤ 1) :
    ∃ later, s.next (inline values spilled) = inline (s.apply values) later ∧
      (later = true ↔ 1 < s.room values ∨ spilled = true ∧ ¬ s.BringsBack values) ∧
      (later = false → (s.apply values).length ≤ 1) := by
  cases s with
  | prepare => exact ⟨spilled, rfl, by simp [Step.room, Step.BringsBack], few⟩
  | intoOwned => exact ⟨spilled, rfl, by simp [Step.room, Step.BringsBack], few⟩
  | clone =>
    refine ⟨decide (1 < values.length), rfl, ?_, ?_⟩
    · simp only [decide_eq_true_eq, Step.room, Step.BringsBack, true_or, true_and]
      cases spilled with
      | false => simp [few rfl]
      | true => simp
    · simp [Step.apply]
  | edit e =>
    refine ⟨e.spills values spilled, rfl, ?_, fun stays => ?_⟩
    · simp [e.spills_eq_true_iff, Step.room, Step.BringsBack]
    · rw [← Bool.not_eq_true, e.spills_eq_true_iff, not_or, not_and, not_not] at stays
      have short : values.length ≤ 1 := by
        cases spilled with
        | false => exact few rfl
        | true => exact (stays.2 rfl).2
      exact Nat.le_trans (e.length_apply_le values)
        (Nat.max_le.mpr ⟨Nat.not_lt.mp stays.1, short⟩)

/-! ## How the elements are held -/

/-- How a collection is held after some steps, by its origin. -/
inductive Held (steps : List (Step α)) : Origin α → Collection α → Prop
  /-- What is made with elements of its own keeps them. -/
  | owned {o : Origin α} (made : o.make = .owned o.elements) :
    Held steps o (.owned (contents o.elements steps))
  /-- Borrowed elements stay borrowed by copies. -/
  | lent {values : List α} (copies : ∀ s ∈ steps, s = .clone) :
    Held steps (.borrowed values) (.borrowed values)
  /-- Any other step makes them the collection's own. -/
  | taken {values : List α} {s : Step α} (mem : s ∈ steps) (ne : s ≠ .clone) :
    Held steps (.borrowed values) (.owned (contents values steps))
  /-- A single element, and those that join it, are in its place or on the heap. -/
  | placed {a : α} {spilled : Bool} (onHeap : spilled = true ↔ OnHeap a steps)
      (few : spilled = false → (contents [a] steps).length ≤ 1) :
    Held steps (.single a) (.inline (contents [a] steps) spilled)
  | null {count : Nat} (pos : 0 < count) : Held steps (.null count) (.null count pos)

theorem held_make (o : Origin α) : Held [] o o.make := by
  cases o with
  | empty => exact .owned rfl
  | owned values => exact .owned rfl
  | borrowed values => exact .lent nofun
  | single a =>
    have off : ¬ OnHeap a [] := fun ⟨_, _, _, at_i, _⟩ => nomatch at_i.1
    exact .placed (iff_of_false nofun off) fun _ => Nat.le_refl 1
  | null count =>
    rw [Origin.make, ofNull]
    split
    · next pos => exact .null pos
    · next zero => exact .owned (by rw [Origin.make, ofNull, dif_neg zero]; rfl)

theorem Held.next (h : Held steps o c) (s : Step α) : Held (steps ++ [s]) o (s.next c) := by
  cases h with
  | owned made =>
    rw [next_owned, ← contents_concat]
    exact .owned made
  | @lent values copies =>
    by_cases copy : s = .clone
    · subst copy
      exact .lent fun t mem => (List.mem_append.mp mem).elim (copies t) List.mem_singleton.mp
    · have last := contents_concat values steps s
      rw [contents_of_copies copies] at last
      rw [next_borrowed copy, ← last]
      exact .taken (List.mem_append_right _ (List.mem_singleton.mpr rfl)) copy
  | taken mem ne =>
    rw [next_owned, ← contents_concat]
    exact .taken (List.mem_append_left _ mem) ne
  | placed onHeap few =>
    obtain ⟨later, next, spills, few'⟩ := next_inline (s := s) few
    rw [next]
    rw [onHeap, ← onHeap_concat] at spills
    rw [← contents_concat] at few' ⊢
    exact .placed spills few'
  | null pos =>
    rw [next_null]
    exact .null pos

/-- **How a collection is held is told by its origin and the steps since.** -/
theorem held_run (o : Origin α) (steps : List (Step α)) : Held steps o (run o.make steps) := by
  -- from the right: what the last step does depends on how the elements are held by then
  induction steps using List.reverseRecOn with
  | nil => exact held_make o
  | append_singleton steps s ih =>
    rw [run_concat]
    exact ih.next s

/-- Whether the elements were made for one place and are on the heap. -/
def Displaced (o : Origin α) (steps : List (Step α)) : Prop := ∃ a, o = .single a ∧ OnHeap a steps

namespace Held

theorem values?_eq (h : Held steps o c) (readable : c.isNull = false) :
    c.values? = .ok (contents o.elements steps) := by
  cases h with
  | lent copies => exact congrArg Except.ok (contents_of_copies copies).symm
  | null => cases readable
  | _ => rfl

theorem isNull_eq_true_iff (h : Held steps o c) :
    c.isNull = true ↔ 0 < c.length ∧ o = .null c.length := by
  cases h with
  | owned made =>
    refine iff_of_false nofun ?_
    rintro ⟨pos, null⟩
    rw [null, Origin.make, ofNull, dif_pos pos] at made
    cases made
  | null pos => exact iff_of_true rfl ⟨pos, rfl⟩
  | _ => exact iff_of_false nofun (by rintro ⟨-, ⟨⟩⟩)

theorem ownership_eq_borrowed_iff (h : Held steps o c) : c.ownership = .borrowed ↔
    (∃ values, o = .borrowed values) ∧ (∀ s ∈ steps, s = .clone) ∨ c.isNull = true := by
  cases h with
  | owned made =>
    refine iff_of_false nofun ?_
    rintro (⟨⟨values, rfl⟩, -⟩ | null)
    · cases made
    · cases null
  | lent copies => exact iff_of_true rfl (.inl ⟨⟨_, rfl⟩, copies⟩)
  | taken mem ne =>
    refine iff_of_false nofun ?_
    rintro (⟨-, copies⟩ | ⟨⟨⟩⟩)
    exact ne (copies _ mem)
  | @placed a spilled =>
    refine iff_of_false (by cases spilled <;> nofun) ?_
    rintro (⟨⟨values, ⟨⟩⟩, -⟩ | ⟨⟨⟩⟩)
  | null => exact iff_of_true rfl (.inr rfl)

theorem ownership_eq_inline_iff (h : Held steps o c) :
    c.ownership = .inline ↔ ∃ a, o = .single a ∧ ¬ OnHeap a steps := by
  cases h with
  | owned made => exact iff_of_false nofun (by rintro ⟨a, rfl, -⟩; cases made)
  | @placed a spilled onHeap few =>
    cases spilled with
    | false => exact iff_of_true rfl ⟨a, rfl, fun on => nomatch onHeap.mpr on⟩
    | true =>
      refine iff_of_false nofun ?_
      rintro ⟨_, ⟨⟩, off⟩
      exact off (onHeap.mp rfl)
  | _ => exact iff_of_false nofun (by rintro ⟨_, ⟨⟩, -⟩)

/-- In the place that is made for one element there is this one, or none. -/
theorem length_eq_one_or (h : Held steps o c) (inline : c.ownership = .inline) :
    c.length = 1 ∨ contents o.elements steps = [] := by
  cases h with
  | @placed a spilled onHeap few =>
    cases spilled with
    | false =>
      rcases Nat.le_one_iff_eq_zero_or_eq_one.mp (few rfl) with none | one
      · exact .inr (List.eq_nil_of_length_eq_zero none)
      · exact .inl one
    | true => cases inline
  | _ => cases inline

/-- A copy puts elements that are on the heap into the place they were made for, if they fit. -/
theorem ownership_clone_of_displaced (h : Held steps o c) (displaced : Displaced o steps)
    (short : c.length ≤ 1) : c.ownership = .owned ∧ c.clone.ownership = .inline := by
  obtain ⟨a, rfl, on⟩ := displaced
  cases h with
  | owned made => cases made
  | placed onHeap few =>
    obtain rfl := onHeap.mpr on
    refine ⟨rfl, ?_⟩
    rw [clone, ownership, if_neg (by simpa [length] using short)]

/-- Any other copy is held as its source is. -/
theorem ownership_clone_eq (h : Held steps o c) (held : ¬ (Displaced o steps ∧ c.length ≤ 1)) :
    c.clone.ownership = c.ownership := by
  cases h with
  | @placed a spilled onHeap few =>
    cases spilled with
    | false => rw [clone, decide_eq_false (Nat.not_lt.mpr (few rfl))]
    | true =>
      have long : ¬ (contents [a] steps).length ≤ 1 := fun short =>
        held ⟨⟨a, rfl, onHeap.mp rfl⟩, short⟩
      rw [clone, decide_eq_true (Nat.not_le.mp long)]
  | _ => rfl

end Held

/-! ## What a collection reports -/

theorem alike_clone (c : Collection α) : c.clone.Alike Eq c := by
  cases c with
  | null count pos => exact .null pos
  | _ => exact .of_toList_eq rfl rfl rfl

theorem ownership_eq_of_intoOwned (h : c.intoOwned = .ok d) :
    d.ownership = if c.ownership = .borrowed then .owned else c.ownership := by
  cases c with
  | null => cases h
  | inline values spilled => cases h; cases spilled <;> rfl
  | _ => cases h; rfl

theorem edit_of_borrowed (lent : c.ownership = .borrowed) (readable : c.isNull = false) :
    c.mutable? = .ok () (owned c.toList) ∧ ∀ e, c.edit e = .ok () (owned (e.apply c.toList)) := by
  cases c with
  | borrowed values => exact ⟨rfl, fun _ => rfl⟩
  | inline values spilled => cases spilled <;> cases lent
  | owned => cases lent
  | null => cases readable

theorem isNull_next (s : Step α) (c : Collection α) : (s.next c).isNull = c.isNull := by
  cases c <;> cases s <;> rfl

theorem isNull_run (c : Collection α) (steps : List (Step α)) :
    (run c steps).isNull = c.isNull := by
  induction steps generalizing c with
  | nil => rfl
  | cons s steps ih => exact (ih _).trans (isNull_next s c)

/-- A null buffer stays what it is. -/
theorem run_of_isNull (null : c.isNull = true) (more : List (Step α)) : run c more = c := by
  cases c with
  | null count pos =>
    induction more with
    | nil => rfl
    | cons s more ih => exact (congrArg (run · more) (next_null pos)).trans ih
  | _ => cases null

theorem fails_of_isNull (null : c.isNull = true) :
    let refusal := LogError.unexpectedNull
      ("Cannot mutate " ++ toString c.length ++ " elements behind a null pointer")
    c.mutable? = .error refusal c ∧ (∀ e, c.edit e = .error refusal c) ∧
      c.intoOwned = .error (.unexpectedNull
        ("Cannot copy " ++ toString c.length ++ " elements from a null pointer")) := by
  cases c with
  | null => exact ⟨rfl, fun _ => rfl, rfl⟩
  | _ => cases null

/-- Without copies, and as long as no room is given back, what has moved to the heap stays there. -/
theorem onHeap_iff_of_stays (stays : ∀ s ∈ steps, s ≠ .clone ∧ s ≠ .edit .shrink) :
    OnHeap a steps ↔ ∃ i s found, StepAt [a] steps i s found ∧ 1 < s.room found := by
  constructor
  · rintro ⟨i, s, found, at_i, crowded, -⟩
    exact ⟨i, s, found, at_i, crowded⟩
  · rintro ⟨i, s, found, at_i, crowded⟩
    refine ⟨i, s, found, at_i, crowded, ?_⟩
    rintro j t later - at_j ⟨copy | shrink, -⟩
    · exact (stays t (List.mem_of_getElem? at_j.1)).1 copy
    · exact (stays t (List.mem_of_getElem? at_j.1)).2 shrink

/-- **What a collection reports, along any history.**  A copy has the length, the null flag and the
elements of its source; it is held as its source is, unless that was made for one place, has been on
the heap since, and has no more than one element: then the copy is back in its place.  What is
detached is held as before, borrowed elements apart.  Borrowed elements become the collection's own
with the first access for an edit, and nothing is borrowed later that was not before.  A null buffer
keeps its length and refuses every access.  Only a collection that was made for one place is
reported to be in it, and exactly as long as it is not on the heap; then it has its one element, or
none once that was taken out. -/
theorem reports_exact (o : Origin α) (steps : List (Step α)) :
    let c := run o.make steps
    (c.isNull = false → c.values? = .ok (contents o.elements steps)) ∧
    ((c.clone.length = c.length ∧ c.clone.isNull = c.isNull ∧ c.clone.values? = c.values?) ∧
      (¬ (Displaced o steps ∧ c.length ≤ 1) → c.clone.ownership = c.ownership) ∧
      (Displaced o steps → c.length ≤ 1 →
        c.ownership = .owned ∧ c.clone.ownership = .inline)) ∧
    (c.isNull = false → ∃ d, c.intoOwned = .ok d ∧
      (d.length = c.length ∧ d.isNull = c.isNull ∧ d.values? = c.values?) ∧
      d.ownership = if c.ownership = .borrowed then .owned else c.ownership) ∧
    ((c.isNull = false → (c.ownership = .borrowed ↔
        (∃ values, o = .borrowed values) ∧ ∀ s ∈ steps, s = .clone)) ∧
      (c.isNull = false → c.ownership = .borrowed → c.mutable? = .ok () (owned c.toList) ∧
        ∀ e, c.edit e = .ok () (owned (e.apply c.toList))) ∧
      (c.ownership ≠ .borrowed → ∀ more, (run c more).ownership ≠ .borrowed)) ∧
    ((c.isNull = true ↔ 0 < c.length ∧ o = .null c.length) ∧
      (c.isNull = true → (∀ more, run c more = c) ∧
      let refusal := LogError.unexpectedNull
        ("Cannot mutate " ++ toString c.length ++ " elements behind a null pointer")
      c.mutable? = .error refusal c ∧ (∀ e, c.edit e = .error refusal c) ∧
        c.intoOwned = .error (.unexpectedNull
          ("Cannot copy " ++ toString c.length ++ " elements from a null pointer")))) ∧
    ((c.ownership = .inline ↔ ∃ a, o = .single a ∧ ¬ OnHeap a steps) ∧
      ((∀ s ∈ steps, s ≠ .clone ∧ s ≠ .edit .shrink) → (c.ownership = .inline ↔
        ∃ a, o = .single a ∧ ∀ i s found, StepAt [a] steps i s found → s.room found ≤ 1)) ∧
      (c.ownership = .inline → c.length = 1 ∨ contents o.elements steps = [])) := by
  intro c
  have held : Held steps o c := held_run o steps
  refine ⟨held.values?_eq, ⟨?_, held.ownership_clone_eq, held.ownership_clone_of_displaced⟩,
    fun readable => ?_, ⟨fun readable => ?_, fun readable lent => edit_of_borrowed lent readable,
      fun own more => ?_⟩,
    ⟨held.isNull_eq_true_iff, fun null => ⟨run_of_isNull null, fails_of_isNull null⟩⟩,
    ⟨held.ownership_eq_inline_iff, fun stays => ?_, held.length_eq_one_or⟩⟩
  · have alike := c.alike_clone
    exact ⟨alike.length_eq, alike.isNull_eq, alike.values?_eq⟩
  · obtain ⟨d, detached⟩ := exists_intoOwned_iff.mpr readable
    have alike := alike_intoOwned detached
    exact ⟨d, detached, ⟨alike.length_eq, alike.isNull_eq, alike.values?_eq⟩,
      ownership_eq_of_intoOwned detached⟩
  · rw [held.ownership_eq_borrowed_iff, readable]
    exact or_iff_left nofun
  · have later : Held (steps ++ more) o (run c more) := run_append _ steps more ▸ held_run o _
    rw [Ne, later.ownership_eq_borrowed_iff, isNull_run]
    rw [Ne, held.ownership_eq_borrowed_iff] at own
    -- if all steps are copies, those before are
    exact mt (Or.imp_left (And.imp_right fun copies s mem =>
      copies s (List.mem_append_left _ mem))) own
  · simp only [held.ownership_eq_inline_iff, onHeap_iff_of_stays stays, not_exists, not_and,
      Nat.not_lt]

/-- An element in its place that another has joined for a while, borrowed elements that were copied,
and a null buffer. -/
theorem reports_exact_three :
    let joined : List (Step Nat) := [.edit (.push 8), .edit .pop]
    let placed := run (Origin.make (.single 7)) joined
    let lent := run (Origin.make (.borrowed [1, 2])) [.clone]
    let gone := run (Origin.make (α := Nat) (.null 3)) [.edit (.push 1), .intoOwned]
    (Displaced (.single 7) joined ∧ placed.length ≤ 1 ∧
      placed.ownership = .owned ∧ placed.clone.ownership = .inline ∧
      ∀ more, (run placed more).ownership ≠ .borrowed) ∧
    (lent.isNull = false ∧ lent.ownership = .borrowed ∧ lent.mutable? = .ok () (owned [1, 2])) ∧
    gone.isNull = true ∧ gone.length = 3 ∧ ∀ more, run gone more = gone := by
  intro joined placed lent gone
  have displaced : Displaced (.single 7) joined := by
    refine ⟨7, rfl, (onHeap_iff_of_stays ?_).mpr ⟨0, _, _, ⟨rfl, rfl⟩, by decide⟩⟩
    simp [joined]
  obtain ⟨-, ⟨-, -, back⟩, -, ⟨-, -, own⟩, -⟩ := reports_exact (.single 7) joined
  obtain ⟨-, -, -, ⟨-, access, -⟩, -⟩ := reports_exact (.borrowed [1, 2]) [.clone]
  obtain ⟨-, -, -, -, ⟨-, stays⟩, -⟩ :=
    reports_exact (α := Nat) (.null 3) [.edit (.push 1), .intoOwned]
  obtain ⟨owned, inline⟩ := back displaced (by decide)
  exact ⟨⟨displaced, by decide, owned, inline, own nofun⟩, ⟨rfl, rfl, (access rfl rfl).1⟩,
    rfl, rfl, (stays rfl).1⟩

/-- A copy does not report what its source does, and an empty place is reported as if an element
were kept in it. -/
theorem reports_unfaithful :
    let joined := run (single 7) [.edit (.push 8), .edit .pop]
    let emptied := run (single 7) [.edit .pop]
    (joined.values? = .ok [7] ∧ joined.clone.values? = .ok [7] ∧
      joined.ownership = .owned ∧ joined.clone.ownership = .inline) ∧
    emptied.length = 0 ∧ emptied.ownership = .inline :=
  ⟨⟨rfl, rfl, rfl, rfl⟩, rfl, rfl⟩

end ColumnLog.Collection
