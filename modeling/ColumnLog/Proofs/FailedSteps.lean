import ColumnLog.Proofs.Compose

/-!
# Composing goes on after a failure

An archetype ends with its first slot that fails, but whoever composes cells step by step may go on.
A step that fails adds no cell and gives back all that it took from the pool, at whatever depth it
failed.  So the steps do not notice each other: each comes to what it comes to on its own.

* `Pool.Agrees` relates states of a pool that grant the same requests and refuse the others with the
  same words.
* `PooledBuilder.fill_of_agrees` and `PooledBuilder.drop_fill_agrees` say this of fills,
  `Schema.result_write_of_agrees` and `Schema.write_agrees` of columns.  They hold of any
  description and any entries, whether or not these belong to a type of the library.
* `Composer.Effect` lists what a step can do, `Composer.Progress` what there is after some steps.
* `Composer.run_continued` is the result, for every run of steps.
-/

set_option autoImplicit false

namespace ColumnLog

/-! ## Pools that grant the same -/

namespace Pool

variable {p q r : Pool} {bytes : Nat}

/-- Whether two states are of one pool, with as much in use.  The counters may differ. -/
structure Agrees (p q : Pool) : Prop where
  name_eq : p.name = q.name
  capacity_eq : p.capacity = q.capacity
  inUse_eq : p.inUse = q.inUse

namespace Agrees

theorem refl (p : Pool) : p.Agrees p := ⟨rfl, rfl, rfl⟩

theorem trans (h : p.Agrees q) (h' : q.Agrees r) : p.Agrees r :=
  ⟨h.name_eq.trans h'.name_eq, h.capacity_eq.trans h'.capacity_eq, h.inUse_eq.trans h'.inUse_eq⟩

theorem available_eq (h : p.Agrees q) : p.available = q.available := by
  rw [available, available, h.capacity_eq, h.inUse_eq]

theorem overruns_iff (h : p.Agrees q) : p.Overruns bytes ↔ q.Overruns bytes := by
  rw [Overruns, Overruns, h.capacity_eq, h.inUse_eq]

theorem grants_iff (h : p.Agrees q) : p.Grants bytes ↔ q.Grants bytes := by
  rw [Grants, Grants, h.overruns_iff]

theorem grant (h : p.Agrees q) (bytes : Nat) : (p.grant bytes).Agrees (q.grant bytes) :=
  ⟨h.name_eq, h.capacity_eq, congrArg (· + bytes) h.inUse_eq⟩

theorem grown (h : p.Agrees q) (bytes : Nat) : (p.grown bytes).Agrees (q.grown bytes) := by
  refine ⟨?_, ?_, ?_⟩
  · rw [name_grown, name_grown, h.name_eq]
  · rw [capacity_grown, capacity_grown, h.capacity_eq]
  · rw [inUse_grown, inUse_grown, h.inUse_eq]

theorem refuse (p : Pool) : p.refuse.Agrees p := ⟨rfl, rfl, rfl⟩

end Agrees
end Pool

/-! ## Fills -/

namespace PooledBuilder

variable {p q : Pool}

/-- Pools that agree have no part in what a fill comes to, nor in the builder that it leaves. -/
theorem fill_of_agrees (b : PooledBuilder) (entries : List Entry) (h : p.Agrees q) :
    (b.fill p entries).result = (b.fill q entries).result ∧
      (b.fill p entries).state.1 = (b.fill q entries).state.1 := by
  have grown := h.grown (b.slotDebt entries.length)
  by_cases slots : p.Grants (b.slotDebt entries.length)
  · have slots' := h.grants_iff.mp slots
    by_cases heap : (p.grown (b.slotDebt entries.length)).Grants (Entry.heapNeed entries)
    · have heap' := grown.grants_iff.mp heap
      rw [fill_of_grants slots heap, fill_of_grants slots' heap']
      simp only [Outcome.result_mapState, Outcome.state_mapState, and_self]
    · have heap' := mt grown.grants_iff.mpr heap
      rw [fill_of_heap_refused slots heap, fill_of_heap_refused slots' heap', h.name_eq,
        grown.available_eq]
      exact ⟨rfl, rfl⟩
  · have slots' := mt h.grants_iff.mpr slots
    rw [fill_of_slots_refused slots, fill_of_slots_refused slots', h.name_eq, h.available_eq]
    exact ⟨rfl, rfl⟩

/-- However a fill ends, what the builder gives back then is what it would have given back before,
and what the fill took. -/
theorem drop_fill_agrees (b : PooledBuilder) (pool : Pool) (entries : List Entry) :
    ((b.fill pool entries).state.1.drop (b.fill pool entries).state.2).Agrees (b.drop pool) := by
  by_cases slots : pool.Grants (b.slotDebt entries.length)
  · by_cases heap : (pool.grown (b.slotDebt entries.length)).Grants (Entry.heapNeed entries)
    · rw [fill_of_grants slots heap, Outcome.state_mapState]
      refine ⟨?_, ?_, ?_⟩
      · exact (Pool.name_grown _ _).trans (Pool.name_grown _ _)
      · exact (Pool.capacity_grown _ _).trans (Pool.capacity_grown _ _)
      · -- both grants are held by the builder, so they cancel
        show Pool.inUse _ - (_ + _ + _) = pool.inUse - b.held.bytes
        rw [Pool.inUse_grown, Pool.inUse_grown]
        omega
    · rw [fill_of_heap_refused slots heap]
      refine ⟨Pool.name_grown _ _, Pool.capacity_grown _ _, ?_⟩
      show Pool.inUse (Pool.grown _ _) - (_ + _) = pool.inUse - b.held.bytes
      rw [Pool.inUse_grown]
      omega
  · rw [fill_of_slots_refused slots]
    exact ⟨rfl, rfl, rfl⟩

end PooledBuilder

/-! ## Columns -/

namespace Schema

variable {kind : NameKind} {schema : Schema kind} {entries : List Entry} {p q : Pool}

/-- The empty builder that has paid for the slots of some entries. -/
def opened (schema : Schema kind) (entries : List Entry) : PooledBuilder :=
  ⟨schema.start, ⟨schema.slotNeed entries⟩, schema.slotBytes, entries.length⟩

theorem write_of_overruns (beyond : p.Overruns (schema.slotNeed entries)) :
    schema.write entries p =
      .error (.allocationFailed p.name (schema.slotNeed entries) p.available) p.refuse := by
  rw [slotNeed, ← Size.mulSat] at beyond ⊢
  rw [write, openBuilder, Pool.reserve, Pool.acquire_of_overruns beyond]
  rfl

/-- What filling that builder comes to, on the pool that granted the slots. -/
def filled (schema : Schema kind) (entries : List Entry) (pool : Pool) :
    Outcome (PooledBuilder × Pool) Unit :=
  (schema.opened entries).fill (pool.grant (schema.slotNeed entries)) entries

theorem write_of_not_overruns (fits : ¬ p.Overruns (schema.slotNeed entries)) :
    schema.write entries p =
      .ofExcept
        ((schema.filled entries p).result.bind fun _ =>
          (schema.filled entries p).state.1.builder.finish.bind schema.checked)
        ((schema.filled entries p).state.1.drop (schema.filled entries p).state.2) := by
  have opens : schema.openBuilder p entries.length =
      .ok (schema.opened entries) (p.grant (schema.slotNeed entries)) := by
    have fits' : ¬ p.Overruns (Size.mulSat entries.length schema.slotBytes) := fits
    rw [openBuilder, Pool.reserve, Pool.acquire_of_not_overruns fits']
    rfl
  rw [write, opens, filled]
  dsimp only
  cases (schema.opened entries).fill (p.grant (schema.slotNeed entries)) entries with
  | ok u left => exact finishChecked_eq schema left.1 left.2
  | error e left => rfl

/-- Whatever is written, and however it ends, as much is in use afterwards as before. -/
theorem write_agrees (schema : Schema kind) (entries : List Entry) (p : Pool) :
    (schema.write entries p).state.Agrees p := by
  by_cases slots : p.Overruns (schema.slotNeed entries)
  · rw [write_of_overruns slots]
    exact .refuse p
  · rw [write_of_not_overruns slots, Outcome.state_ofExcept]
    have returned : ((schema.opened entries).drop (p.grant (schema.slotNeed entries))).Agrees p :=
      ⟨rfl, rfl, Nat.add_sub_cancel _ _⟩
    exact (PooledBuilder.drop_fill_agrees _ _ entries).trans returned

theorem result_write_of_agrees (h : p.Agrees q) :
    (schema.write entries p).result = (schema.write entries q).result := by
  by_cases slots : p.Overruns (schema.slotNeed entries)
  · rw [write_of_overruns slots, write_of_overruns (h.overruns_iff.mp slots), h.name_eq,
      h.available_eq]
    rfl
  · rw [write_of_not_overruns slots, write_of_not_overruns (mt h.overruns_iff.mpr slots),
      Outcome.result_ofExcept, Outcome.result_ofExcept]
    obtain ⟨result, builder⟩ := PooledBuilder.fill_of_agrees (schema.opened entries) entries
      (h.grant (schema.slotNeed entries))
    rw [filled, filled, result, builder]

end Schema

/-! ## Cells -/

namespace Slot

variable {p q : Pool}

/-- Neither a cell nor a failure leaves a trace of what a slot took from the pool. -/
theorem cell_agrees (slot : Slot) (p : Pool) : (slot.cell p).state.Agrees p := by
  cases readable : slot.values.isNull with
  | true =>
    rw [cell_of_null readable]
    exact .refl p
  | false =>
    rw [cell_of_not_null readable, Outcome.state_map]
    exact Schema.write_agrees _ _ p

theorem result_cell_of_agrees (slot : Slot) (h : p.Agrees q) :
    (slot.cell p).result = (slot.cell q).result := by
  cases readable : slot.values.isNull with
  | true =>
    rw [cell_of_null readable, cell_of_null readable]
    rfl
  | false =>
    rw [cell_of_not_null readable, cell_of_not_null readable, Outcome.result_map,
      Outcome.result_map, Schema.result_write_of_agrees h]

/-- The slot of the marks of an archetype. -/
def marks (archetype : Name .archetype) (count : Nat) : Slot :=
  ⟨indicatorSchema archetype, .borrowed (List.replicate count marker)⟩

theorem indicatorCell_eq_cell_marks (archetype : Name .archetype) (count : Nat) (pool : Pool) :
    indicatorCell archetype count pool = (marks archetype count).cell pool := rfl

end Slot

/-! ## Steps -/

namespace Composer

variable {pool left : Pool} {c : Composer} {s : Step}

/-- The cell that a step comes to on its own, unless it fails or there is nothing to push. -/
def Step.cell? (pool : Pool) (s : Step) : Option DataCell :=
  s.slot?.bind fun slot => (slot.cell pool).result.toOption

theorem Step.cell?_eq_some_iff {cell : DataCell} :
    s.cell? pool = some cell ↔
      ∃ slot, s.slot? = some slot ∧ (slot.cell pool).result = .ok cell := by
  rw [cell?, Option.bind_eq_some_iff]
  refine exists_congr fun slot => and_congr_right fun _ => ?_
  cases (slot.cell pool).result <;> simp [Except.toOption]

theorem Step.cell?_eq_none_of_error {slot : Slot} {e : LogError} (present : s.slot? = some slot)
    (error : (slot.cell pool).result = .error e) : s.cell? pool = none := by
  rw [cell?, present, Option.bind_some, error]
  rfl

/-- Whether there is something to push, and pushing it succeeds on its own. -/
def Step.succeeds (pool : Pool) (s : Step) : Bool := (s.cell? pool).isSome

/-- What a step does, by what its slot comes to on its own. -/
inductive Effect (pool : Pool) (c : Composer) (s : Step) (left : Pool) :
    Outcome (Composer × Pool) Unit → Prop
  | absent (none : s.slot? = none) : Effect pool c s left (.ok () (c, left))
  | added {slot : Slot} {cell : DataCell} {later : Pool} (present : s.slot? = some slot)
      (alone : (slot.cell pool).result = .ok cell) (agrees : later.Agrees pool) :
      Effect pool c s left (.ok () (⟨c.cells ++ [cell]⟩, later))
  | failed {slot : Slot} {e : LogError} {later : Pool} (present : s.slot? = some slot)
      (alone : (slot.cell pool).result = .error e) (agrees : later.Agrees pool) :
      Effect pool c s left (.error e (c, later))

/-- Every step has the effect that its slot has on its own. -/
theorem effect_step (h : left.Agrees pool) (c : Composer) (s : Step) :
    Effect pool c s left (c.step s left) := by
  cases present : s.slot? with
  | none =>
    rw [step, present]
    exact .absent present
  | some slot =>
    have alone := (slot.result_cell_of_agrees h).symm
    have agrees := (slot.cell_agrees left).trans h
    rw [step, present, pushOptional, push]
    cases written : slot.cell left with
    | ok cell later =>
      rw [written] at alone agrees
      exact .added present alone agrees
    | error e later =>
      rw [written] at alone agrees
      exact .failed present alone agrees

/-! ## Runs -/

/-- The composer and the pool after some steps.  One that fails does not end the run. -/
def run (steps : List Step) (c : Composer) (pool : Pool) : Composer × Pool :=
  steps.foldl (fun state s => (state.1.step s state.2).state) (c, pool)

theorem run_concat (steps : List Step) (s : Step) (c : Composer) (pool : Pool) :
    run (steps ++ [s]) c pool =
      ((run steps c pool).1.step s (run steps c pool).2).state := by
  rw [run, List.foldl_append]
  rfl

/-- What there is after some steps: the cells of those that succeed on their own, in order, and a
pool with as much in use as before. -/
structure Progress (pool : Pool) (steps : List Step) (c : Composer) (left : Pool) : Prop where
  cells_eq : c.cells = steps.filterMap (Step.cell? pool)
  length_eq : c.length = steps.countP (Step.succeeds pool)
  agrees : left.Agrees pool

/-- One more step: a cell more if it succeeds on its own, and everything as it was otherwise. -/
theorem Progress.step {steps : List Step} (h : Progress pool steps c left) (s : Step) :
    Progress pool (steps ++ [s]) (c.step s left).state.1 (c.step s left).state.2 := by
  have cells := h.cells_eq
  have length := h.length_eq
  have effect := effect_step h.agrees c s
  generalize c.step s left = out at effect ⊢
  cases effect with
  | absent none =>
    have nothing : s.cell? pool = .none := by rw [Step.cell?, none]; rfl
    refine ⟨?_, ?_, h.agrees⟩ <;> simp [Outcome.state, Step.succeeds, nothing, cells, length]
  | @added slot cell later present alone agrees =>
    have some_cell : s.cell? pool = some cell := Step.cell?_eq_some_iff.mpr ⟨slot, present, alone⟩
    refine ⟨?_, ?_, agrees⟩
    · simp [Outcome.state, some_cell, cells]
    · rw [Composer.length] at length ⊢
      simp [Outcome.state, Step.succeeds, some_cell, length]
  | failed present alone agrees =>
    have nothing := Step.cell?_eq_none_of_error present alone
    refine ⟨?_, ?_, agrees⟩ <;> simp [Outcome.state, Step.succeeds, nothing, cells, length]

theorem progress_run (steps : List Step) (pool : Pool) :
    Progress pool steps (run steps {} pool).1 (run steps {} pool).2 := by
  -- from the right: the last step meets what the steps before it have left
  induction steps using List.reverseRecOn with
  | nil => exact ⟨rfl, rfl, .refl pool⟩
  | append_singleton steps s ih =>
    rw [run_concat]
    exact ih.step s

/-- The indicator of an archetype with so many instances. -/
def mark (archetype : Name .archetype) (count : Nat) : DataCell :=
  ⟨indicatorName archetype, .null count, .indicator⟩

/-- The list can always be closed: the indicator needs no byte. -/
theorem finish_of_agrees (reachable : pool.Reachable) (h : left.Agrees pool) (c : Composer)
    (archetype : Name .archetype) (count : Nat) :
    ∃ later, later.Agrees pool ∧ c.finish archetype count left =
      .ok ⟨archetype, c.cells ++ [mark archetype count]⟩ later := by
  have alone := (Slot.marks archetype count).result_cell_of_agrees h
  have agrees := ((Slot.marks archetype count).cell_agrees left).trans h
  rw [← Slot.indicatorCell_eq_cell_marks] at alone agrees
  rw [← Slot.indicatorCell_eq_cell_marks,
    indicatorCell_eq _ _ reachable.inUse_le_limit reachable.inUse_le_peak] at alone
  rw [finish]
  cases closed : indicatorCell archetype count left with
  | ok cell later =>
    rw [closed] at alone agrees
    cases alone
    exact ⟨later, agrees, rfl⟩
  | error e later =>
    rw [closed] at alone
    cases alone

/-- **Composing goes on after a failure.**  For steps of any kind with any components, of which any
may fail: the composer holds a cell for each step that succeeds on its own, in the order of the
steps.  A step that fails, or has nothing to push, leaves cells and bytes in use as they were, and
so does any step that follows.  Closed, the list is that of these cells and the indicator. -/
theorem run_continued (steps : List Step) (pool : Pool) (reachable : pool.Reachable) :
    Progress pool steps (run steps {} pool).1 (run steps {} pool).2 ∧
    (∀ s : Step, Effect pool (run steps {} pool).1 s (run steps {} pool).2
      ((run steps {} pool).1.step s (run steps {} pool).2)) ∧
    ∀ (archetype : Name .archetype) (count : Nat), ∃ later, later.Agrees pool ∧
      (run steps {} pool).1.finish archetype count (run steps {} pool).2 =
        .ok ⟨archetype, steps.filterMap (Step.cell? pool) ++ [mark archetype count]⟩ later := by
  have progress := progress_run steps pool
  refine ⟨progress, fun s => effect_step progress.agrees _ s, fun archetype count => ?_⟩
  rw [← progress.cells_eq]
  exact finish_of_agrees reachable progress.agrees _ archetype count

/-- Steps that fail in each of the ways there are: a null buffer, too many slots, too much on the
heap, and a value that is rejected after another was written. -/
theorem run_continued_steps :
    let pool : Pool := ⟨"small", some 300, 10, 10, 1, 0⟩
    let tensor (bytes : List UInt8) : Component.TensorData := ⟨.ofSizes [2] ⟨.u8, .owned bytes⟩⟩
    let positions := Component.schemaOf Component.Position3D
    let tensors := Component.schemaOf Component.TensorData
    let ids := Component.schemaOf Component.ClassId
    let steps : List Step :=
      [.push positions [Loggable.entry (Component.Position3D.mk .ones)],
        .pushCollection positions (.null 3 (by decide)),
        .push positions (List.replicate 30 (Loggable.entry (Component.Position3D.mk .ones))),
        .pushOne tensors (Loggable.entry (tensor (List.replicate 200 7))),
        .push tensors [Loggable.entry (tensor [1, 2]), Loggable.entry (tensor [1])],
        .pushOptional ids none,
        .pushOne ids (Loggable.entry (Component.ClassId.mk ⟨7⟩))]
    let after := run steps {} pool
    let closed := (after.1.finish (.ofShort "Points") 4 after.2).result
    pool.Reachable ∧ after.1.length = 2 ∧ after.2.inUse = 10 ∧
      (closed.map fun a => a.cells.map (·.name.text)) =
        .ok ["stratalog.components.Position3D", "stratalog.components.ClassId",
          "stratalog.components.PointsIndicator"] := by
  intro pool tensor positions tensors ids steps after closed
  have reach : pool.Reachable := ⟨"small", some 300, [.reserve 10], by simp [Size.largest], rfl⟩
  have continued := run_continued steps pool reach
  have progress : Progress pool steps after.1 after.2 := continued.1
  obtain ⟨later, -, finished⟩ := continued.2.2 (.ofShort "Points") 4
  have names :
      (steps.filterMap (Step.cell? pool) ++ [mark (.ofShort "Points") 4]).map (·.name.text) =
        ["stratalog.components.Position3D", "stratalog.components.ClassId",
          "stratalog.components.PointsIndicator"] := by
    decide +kernel
  refine ⟨reach, ?_, progress.agrees.inUse_eq, ?_⟩
  · rw [progress.length_eq]
    decide +kernel
  · rw [show closed = _ from congrArg Outcome.result finished]
    exact congrArg Except.ok names

end Composer
end ColumnLog
