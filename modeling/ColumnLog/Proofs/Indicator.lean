import ColumnLog.Proofs.FailedSteps

/-!
# Which indicator is found

Closing a list of cells puts the mark of the archetype behind them.  The look-up of the indicator
takes the first mark that there is, though, and nothing keeps the mark of another archetype from
being pushed like any component: it is the component that says whether its cells are marks.

* `Slot.name_and_kind_of_cell` tells that a cell has the name and the kind of what was pushed.
* `ArchetypeCells.Closed` describes a closed list by its look-ups;
  `ArchetypeCells.Closed.finds_own_iff` says when these find what closing has put there.
* `Composer.Step.cell?_push_marks` is the way to push marks, which succeeds on every pool;
  `Composer.Step.find?_pushed_marks` tells that these are found before any later ones.
* `Composer.indicator_exact` is the result, for every run of steps.
-/

set_option autoImplicit false

namespace ColumnLog

/-! ## Closed lists -/

namespace ArchetypeCells

variable {archetype : Name .archetype} {composed : List DataCell} {own : DataCell}

/-- What there is to see of a list that was closed with an indicator of its own. -/
structure Closed (archetype : Name .archetype) (composed : List DataCell) (own : DataCell)
    (a : ArchetypeCells) : Prop where
  archetype_eq : a.archetype = archetype
  cells_eq : a.cells = composed ++ [own]
  /-- The own indicator is found unless there is one in front of it. -/
  indicator?_eq : a.indicator? = some ((composed.find? (·.isIndicator)).getD own)
  /-- With the own indicator, all others are left out. -/
  components_eq : a.components = composed.filter (!·.isIndicator)

theorem closed_concat (h : own.isIndicator = true) :
    Closed archetype composed own ⟨archetype, composed ++ [own]⟩ where
  archetype_eq := rfl
  cells_eq := rfl
  indicator?_eq := by
    rw [indicator?, List.find?_append, List.find?_cons_of_pos h, Option.or_some]
  components_eq := by
    rw [components, List.filter_append, List.filter_cons_of_neg (by simp [h]), List.filter_nil,
      List.append_nil]

/-- The look-ups find the own indicator, and all cells in front of it, if none of these is an
indicator. -/
theorem Closed.finds_own_iff {a : ArchetypeCells} (closed : Closed archetype composed own a) :
    a.indicator? = some own ∧ a.components = composed ↔
      ∀ cell ∈ composed, cell.isIndicator = false := by
  rw [closed.indicator?_eq, closed.components_eq, List.filter_eq_self]
  constructor
  · rintro ⟨-, kept⟩ cell mem
    simpa using kept cell mem
  · intro unmarked
    have nothing : composed.find? (·.isIndicator) = none :=
      List.find?_eq_none.mpr fun cell mem => by simp [unmarked cell mem]
    exact ⟨by rw [nothing, Option.getD_none], fun cell mem => by simp [unmarked cell mem]⟩

end ArchetypeCells

/-! ## What a step pushes -/

/-- A cell has the name and the kind of what was pushed. -/
theorem Slot.name_and_kind_of_cell {slot : Slot} {pool : Pool} {cell : DataCell}
    (ok : (slot.cell pool).result = .ok cell) :
    cell.name = slot.schema.name ∧ cell.kind = slot.schema.cell := by
  cases readable : slot.values.isNull with
  | true =>
    rw [cell_of_null readable] at ok
    cases ok
  | false =>
    rw [cell_of_not_null readable, Outcome.result_map] at ok
    cases written : (slot.schema.write slot.values.toList pool).result with
    | ok column =>
      rw [written] at ok
      cases ok
      exact ⟨rfl, rfl⟩
    | error e =>
      rw [written] at ok
      cases ok

namespace Composer

variable {pool : Pool}

theorem isIndicator_mark (archetype : Name .archetype) (count : Nat) :
    (mark archetype count).isIndicator = true := rfl

namespace Step

variable {s : Step} {cell : DataCell}

/-- The component that a step is about. -/
def schema : Step → ComponentSchema
  | push schema _ | pushOne schema _ | pushOptional schema _ | pushCollection schema _
  | pushOptionalCollection schema _ => schema

theorem schema_of_slot? {slot : Slot} (present : s.slot? = some slot) :
    slot.schema = s.schema := by
  cases s with
  | push | pushOne | pushCollection =>
    cases present
    rfl
  | pushOptional | pushOptionalCollection =>
    obtain ⟨_, -, rfl⟩ := Option.map_eq_some_iff.mp present
    rfl

theorem name_and_kind_of_cell? (some_cell : s.cell? pool = some cell) :
    cell.name = s.schema.name ∧ cell.kind = s.schema.cell := by
  obtain ⟨slot, present, alone⟩ := cell?_eq_some_iff.mp some_cell
  rw [← schema_of_slot? present]
  exact Slot.name_and_kind_of_cell alone

/-- A step that pushes marks succeeds on every pool. -/
theorem cell?_push_marks (reachable : pool.Reachable) (archetype : Name .archetype)
    (count : Nat) :
    (push (indicatorSchema archetype) (List.replicate count marker)).cell? pool =
      some (mark archetype count) := by
  refine cell?_eq_some_iff.mpr ⟨Slot.marks archetype count, rfl, ?_⟩
  rw [← Slot.indicatorCell_eq_cell_marks,
    indicatorCell_eq _ _ reachable.inUse_le_limit reachable.inUse_le_peak]
  rfl

/-- Among the cells of some steps there is no mark if no step that succeeds pushes one. -/
theorem no_mark_iff (steps : List Step) (pool : Pool) :
    (∀ cell ∈ steps.filterMap (cell? pool), cell.isIndicator = false) ↔
      ∀ s ∈ steps, s.succeeds pool = true → s.schema.cell = .component := by
  -- there is no third kind of cells
  have not_mark (kind : CellKind) : (kind == .indicator) = false ↔ kind = .component := by
    cases kind <;> decide
  constructor
  · intro unmarked s mem ok
    obtain ⟨cell, some_cell⟩ := Option.isSome_iff_exists.mp ok
    have own := unmarked cell (List.mem_filterMap.mpr ⟨s, mem, some_cell⟩)
    rw [← (name_and_kind_of_cell? some_cell).2]
    exact (not_mark _).mp own
  · intro components cell mem
    obtain ⟨s, mem, some_cell⟩ := List.mem_filterMap.mp mem
    have own := components s mem (Option.isSome_iff_exists.mpr ⟨cell, some_cell⟩)
    rw [← (name_and_kind_of_cell? some_cell).2] at own
    exact (not_mark _).mpr own

/-- Marks that are pushed are found before any that come later. -/
theorem find?_pushed_marks (reachable : pool.Reachable) (steps : List Step)
    (components : ∀ s ∈ steps, s.succeeds pool = true → s.schema.cell = .component)
    (archetype : Name .archetype) (count : Nat) (later : List Step) :
    ((steps ++ push (indicatorSchema archetype) (List.replicate count marker) :: later).filterMap
        (cell? pool)).find? (·.isIndicator) = some (mark archetype count) := by
  have unmarked := (no_mark_iff steps pool).mpr components
  have none_found : (steps.filterMap (cell? pool)).find? (·.isIndicator) = none :=
    List.find?_eq_none.mpr fun cell mem => by simp [unmarked cell mem]
  rw [List.filterMap_append, List.filterMap_cons_some (cell?_push_marks reachable archetype count),
    List.find?_append, none_found, Option.none_or]
  exact List.find?_cons_of_pos (isIndicator_mark archetype count)

end Step

/-- **Which indicator is found.**  After any run of steps the list closes, with the mark of the
archetype behind the cells: under its name, with a slot for each instance.  What is found as the
indicator is the first mark, which is that one exactly if no step that succeeds pushes a mark; then
the other cells are those of the steps. -/
theorem indicator_exact (steps : List Step) (pool : Pool) (reachable : pool.Reachable)
    (archetype : Name .archetype) (count : Nat) :
    ∃ a left own, own = mark archetype count ∧ own.name = indicatorName archetype ∧
      own.length = count ∧
      (run steps {} pool).1.finish archetype count (run steps {} pool).2 = .ok a left ∧
      a.Closed archetype (steps.filterMap (Step.cell? pool)) own ∧
      (a.indicator? = some own ∧ a.components = steps.filterMap (Step.cell? pool) ↔
        ∀ s ∈ steps, s.succeeds pool = true → s.schema.cell = .component) := by
  have progress := progress_run steps pool
  obtain ⟨left, -, finished⟩ :=
    finish_of_agrees reachable progress.agrees (run steps {} pool).1 archetype count
  rw [progress.cells_eq] at finished
  have closed : ArchetypeCells.Closed archetype (steps.filterMap (Step.cell? pool))
      (mark archetype count) _ := ArchetypeCells.closed_concat (isIndicator_mark archetype count)
  refine ⟨_, left, _, rfl, rfl, rfl, finished, closed, ?_⟩
  rw [closed.finds_own_iff, Step.no_mark_iff]

/-- With the mark of another archetype between two components, that one is found, and it is left
out with the own one. -/
theorem indicator_exact_foreign :
    let pool : Pool := .bounded "small" 100
    let steps : List Step :=
      [.pushOne (Component.schemaOf Component.Position3D)
          (Loggable.entry (Component.Position3D.mk .ones)),
        .push (indicatorSchema (.ofShort "Mesh3D")) (List.replicate 1 marker),
        .pushOne (Component.schemaOf Component.ClassId)
          (Loggable.entry (Component.ClassId.mk ⟨7⟩))]
    pool.Reachable ∧ ∃ a left,
      (run steps {} pool).1.finish (.ofShort "Swatch") 2 (run steps {} pool).2 = .ok a left ∧
      a.indicator? = some (mark (.ofShort "Mesh3D") 1) ∧
      a.components.map (·.name.text) =
        ["stratalog.components.Position3D", "stratalog.components.ClassId"] ∧
      ¬ (a.indicator? = some (mark (.ofShort "Swatch") 2) ∧
        a.components = steps.filterMap (Step.cell? pool)) := by
  intro pool steps
  have reach : pool.Reachable := ⟨"small", some 100, [], by simp [Size.largest], rfl⟩
  obtain ⟨a, left, own, rfl, -, -, finished, closed, found_iff⟩ :=
    indicator_exact steps pool reach (.ofShort "Swatch") 2
  refine ⟨reach, a, left, finished, ?_, ?_, ?_⟩
  · have found : (steps.filterMap (Step.cell? pool)).find? (·.isIndicator) = _ :=
      Step.find?_pushed_marks reach [_] (by decide +kernel) (.ofShort "Mesh3D") 1 [_]
    rw [closed.indicator?_eq, found, Option.getD_some]
  · rw [closed.components_eq]
    decide +kernel
  · rw [found_iff]
    decide +kernel

/-- One step, which succeeds, and the indicator that is found is not the last cell, nor are the
cells in front of that one all among the components. -/
theorem indicator_of_another :
    ∃ left a later,
      (({} : Composer).step (.pushOne (indicatorSchema (.ofShort "Mesh3D")) marker)
        (.unbounded "comp")) = .ok () (⟨[mark (.ofShort "Mesh3D") 1]⟩, left) ∧
      Composer.finish ⟨[mark (.ofShort "Mesh3D") 1]⟩ (.ofShort "Swatch") 2 left = .ok a later ∧
      a.cells = [mark (.ofShort "Mesh3D") 1, mark (.ofShort "Swatch") 2] ∧
      a.indicator? = some (mark (.ofShort "Mesh3D") 1) ∧
      a.indicator? ≠ a.cells.getLast? ∧ a.components ≠ a.cells.dropLast := by
  refine ⟨_, _, _, rfl, rfl, rfl, rfl, ?_, ?_⟩
  · intro same
    have lengths := congrArg (Option.map DataCell.length) same
    revert lengths
    decide +kernel
  · intro same
    exact List.cons_ne_nil _ _ same.symm

end Composer
end ColumnLog
