import ColumnLog.Archetype.Mesh3D
import ColumnLog.Archetype.Pinhole
import ColumnLog.Archetype.Tensor
import ColumnLog.Archetype.Transform3D
import ColumnLog.Proofs.Charge
import Mathlib.Data.List.Nodup

/-!
# How archetypes are composed

The cells of an archetype are those that its filled slots come to one by one, with the indicator
behind them.  Every slot draws on the same pool, and leaves it with all that was in use before; so
what a slot comes to does not depend on the slots in front of it.

* `Slot.Lawful.ends` and `Slot.Lawful.result_charged` tell what writing one slot leaves behind, and
  that another slot does not notice.
* `Composer.Ending` lists the two ways in which a list of slots ends: with a cell for each, or with
  the error of the first that fails.
* `LibraryArchetype` lists the archetypes, with the slots as they are declared.
* `LibraryArchetype.cells_composed` is the result, for every archetype.
-/

set_option autoImplicit false

namespace ColumnLog

/-! ## What a charge leaves behind -/

namespace Pool

variable {pool : Pool} {slots heap taken grants refusals : Nat}

theorem charged_zero (peak : pool.inUse ≤ pool.peak) : pool.charged 0 0 0 = pool := by
  simp only [charged, Nat.add_zero, Nat.max_eq_left peak]

theorem charged_charged (pool : Pool) (taken grants refusals taken' grants' refusals' : Nat) :
    (pool.charged taken grants refusals).charged taken' grants' refusals' =
      pool.charged (max taken taken') (grants + grants') (refusals + refusals') := by
  simp only [charged, Nat.add_assoc, Pool.mk.injEq, true_and, and_true]
  omega

theorem inUse_le_peak_charged (peak : pool.inUse ≤ pool.peak) (taken grants refusals : Nat) :
    (pool.charged taken grants refusals).inUse ≤ (pool.charged taken grants refusals).peak :=
  Nat.le_trans peak (Nat.le_max_left _ _)

namespace Charges

variable {α β : Type} {result : Except LogError α} {out : Outcome Pool α}

theorem map (f : α → β) (h : pool.Charges slots heap result out) :
    pool.Charges slots heap (result.map f) (out.map f) where
  slots_refused beyond := by rw [h.slots_refused beyond]; rfl
  heap_refused fits beyond := by
    obtain ⟨asked, refused⟩ := h.heap_refused fits beyond
    exact ⟨asked, by rw [refused]; rfl⟩
  granted fits := by
    rw [h.granted fits]
    cases result <;> rfl
  refused_iff := by
    rw [← h.refused_iff]
    cases out with
    | ok a left => exact ⟨nofun, nofun⟩
    | error e left => constructor <;> (rintro ⟨_, ⟨⟩, refusal⟩; exact ⟨e, rfl, refusal⟩)

/-- A charge ends with all that was asked for, or with an error; what was granted came back. -/
theorem ends (h : pool.Charges slots heap result out) :
    (∃ a grants, result = .ok a ∧ out = .ok a (pool.charged (slots + heap) grants 0)) ∨
      ∃ e taken grants refusals, out = .error e (pool.charged taken grants refusals) := by
  by_cases first : pool.Overruns slots
  · exact .inr ⟨_, _, _, _, h.slots_refused first⟩
  · by_cases whole : pool.Overruns (slots + heap)
    · exact .inr ⟨_, _, _, _, (h.heap_refused first whole).2⟩
    · have granted := h.granted whole
      cases result with
      | ok a => exact .inl ⟨a, _, rfl, granted⟩
      | error e => exact .inr ⟨e, _, _, _, granted⟩

/-- What was charged before and given back does not change the result. -/
theorem result_charged {out' : Outcome Pool α} (h : pool.Charges slots heap result out)
    (h' : (pool.charged taken grants refusals).Charges slots heap result out') :
    out'.result = out.result := by
  by_cases first : pool.Overruns slots
  · rw [h.slots_refused first, h'.slots_refused first]
    rfl
  · by_cases whole : pool.Overruns (slots + heap)
    · rw [(h.heap_refused first whole).2, (h'.heap_refused first whole).2]
      rfl
    · rw [h.granted whole, h'.granted whole, Outcome.result_ofExcept, Outcome.result_ofExcept]

end Charges
end Pool

/-! ## Columns of values -/

namespace Schema

variable {kind : NameKind} {schema : Schema kind} {entries : List Entry} {c : Column}

theorem bind_checked_eq_ok {r : Except LogError Column} (ok : r.bind schema.checked = .ok c) :
    r = .ok c ∧ c.type = schema.type := by
  cases r with
  | error e => cases ok
  | ok column =>
    rw [Except.bind, checked] at ok
    split at ok
    · next same => cases ok; exact ⟨rfl, same⟩
    · cases ok

theorem type_of_write {pool left : Pool} (ok : schema.write entries pool = .ok c left) :
    c.type = schema.type := by
  rw [write] at ok
  split at ok
  · cases ok
  · split at ok
    · cases ok
    · rw [finishChecked_eq] at ok
      have result := congrArg Outcome.result ok
      rw [Outcome.result_ofExcept] at result
      exact (bind_checked_eq_ok result).2

end Schema

/-- The check of the cell repeats that of the column, and never fails. -/
theorem ComponentSchema.cellOf_eq (schema : ComponentSchema) (entries : List Entry) (pool : Pool) :
    schema.cellOf entries pool =
      (schema.write entries pool).map fun column => ⟨schema.name, column, schema.cell⟩ := by
  rw [cellOf]
  cases written : schema.write entries pool with
  | error e left => rfl
  | ok column left =>
    show Outcome.ofExcept (DataCell.of? schema.name column schema.type schema.cell) left = _
    rw [DataCell.of?, if_pos (Schema.type_of_write written)]
    rfl

/-- The column of some values has a slot for each. -/
theorem Readable.length_of_encode {α : Type} {kind : NameKind} [Loggable α kind] [Readable α]
    {values : List α} {c : Column}
    (ok : (Loggable.schema α).encode (values.map Loggable.entry) = .ok c) :
    c.length = values.length := by
  have steps : (values.map Loggable.entry).map some = Loggable.steps (values.map some) := by
    simp [Loggable.steps]
  have start := newBuilder_eq_holding (α := α) 0
  rw [Loggable.newBuilder] at start
  rw [Schema.encode, steps, start] at ok
  cases added : Builder.addAll (Loggable.steps (values.map some))
      (.holding false (Loggable.schema α).type []) with
  | error e b => rw [added] at ok; cases ok
  | ok u b =>
    rw [added] at ok
    obtain ⟨finished, -⟩ := Schema.bind_checked_eq_ok ok
    rw [Builder.addAll_holding regular (fitting_steps _) added] at finished
    have held := Builder.eq_columnOf_of_finish regular
      (Builder.stores_slotsOf (fitting_steps _)) finished
    rw [held, DataType.length_columnOf, Builder.length_slotsOf_of_addAll added, Loggable.steps,
      List.length_map, List.length_map]

/-! ## One slot -/

namespace Slot

variable {slot : Slot} {pool : Pool} {cell : DataCell} {taken grants refusals : Nat}

/-- The bytes asked for on behalf of a slot: those of its values, and what they keep on the heap. -/
def need (slot : Slot) : Nat :=
  slot.schema.slotNeed slot.values.toList + Entry.heapNeed slot.values.toList

/-- What a slot comes to, pools apart. -/
def encode (slot : Slot) : Except LogError DataCell :=
  (slot.schema.encode slot.values.toList).map fun column =>
    ⟨slot.schema.name, column, slot.schema.cell⟩

/-- Whether a slot is one of a component: no value is rejected with the refusal of a pool, and a
column of the values has a slot for each. -/
structure Lawful (slot : Slot) : Prop where
  cell_eq : slot.schema.cell = .component
  length_start : slot.schema.start.length = 0
  unrefused : ∀ entry ∈ slot.values.toList, Unrefused entry.datum
  length_encode : ∀ c, slot.schema.encode slot.values.toList = .ok c →
    c.length = slot.values.toList.length

theorem lawful_batch {α : Type} [Component α] [Readable α]
    (component : Component.cell α = .component)
    (own : ∀ a : α, Unrefused (Loggable.entry a).datum) (values : Collection α) :
    (batch values).Lawful where
  cell_eq := component
  length_start := Readable.length_start (α := α)
  unrefused entry mem := by
    rw [batch, Collection.toList_map] at mem
    obtain ⟨a, -, rfl⟩ := List.mem_map.mp mem
    exact own a
  length_encode c ok := by
    rw [batch, Collection.toList_map] at ok ⊢
    rw [Readable.length_of_encode ok, List.length_map]

/-- A null buffer is reported without a look at the pool. -/
theorem cell_of_null (null : slot.values.isNull = true) (pool : Pool) :
    slot.cell pool = .error (.unexpectedNull
      ("Cannot read " ++ toString slot.values.length ++ " elements from a null pointer")) pool := by
  rw [cell, ComponentSchema.cellOfCollection]
  cases h : slot.values with
  | null count pos => rfl
  | _ => rw [h] at null; cases null

theorem cell_of_not_null (readable : slot.values.isNull = false) (pool : Pool) :
    slot.cell pool = (slot.schema.write slot.values.toList pool).map fun column =>
      ⟨slot.schema.name, column, slot.schema.cell⟩ := by
  rw [cell, ComponentSchema.cellOfCollection, Collection.values?_eq_ok_iff.mpr ⟨readable, rfl⟩]
  exact slot.schema.cellOf_eq _ pool

/-- What writing a slot costs, unless it is a null buffer. -/
theorem Lawful.charges (lawful : slot.Lawful) (readable : slot.values.isNull = false)
    (peak : pool.inUse ≤ pool.peak) :
    pool.Charges (slot.schema.slotNeed slot.values.toList) (Entry.heapNeed slot.values.toList)
      slot.encode (slot.cell pool) := by
  rw [cell_of_not_null readable]
  exact (Schema.charges_write lawful.length_start lawful.unrefused peak).map _

/-- What a slot comes to does not depend on charges that were given back. -/
theorem Lawful.result_charged (lawful : slot.Lawful) (peak : pool.inUse ≤ pool.peak)
    (taken grants refusals : Nat) :
    (slot.cell (pool.charged taken grants refusals)).result = (slot.cell pool).result := by
  cases readable : slot.values.isNull with
  | true => rw [cell_of_null readable, cell_of_null readable]; rfl
  | false =>
    have later := lawful.charges readable (Pool.inUse_le_peak_charged peak taken grants refusals)
    exact (lawful.charges readable peak).result_charged later

/-- Writing a slot ends with a cell, once all that it needs was granted, or with an error; either
way the pool has everything back. -/
theorem Lawful.ends (lawful : slot.Lawful) (peak : pool.inUse ≤ pool.peak) :
    (∃ cell grants, slot.cell pool = .ok cell (pool.charged slot.need grants 0)) ∨
      ∃ e taken grants refusals,
        slot.cell pool = .error e (pool.charged taken grants refusals) := by
  cases readable : slot.values.isNull with
  | true =>
    exact .inr ⟨_, 0, 0, 0, by rw [Pool.charged_zero peak]; exact cell_of_null readable pool⟩
  | false =>
    rcases (lawful.charges readable peak).ends with ⟨cell, grants, -, ok⟩ | failed
    · exact .inl ⟨cell, grants, ok⟩
    · exact .inr failed

/-- A cell has the name of its component and a slot for each value. -/
theorem Lawful.cell_ok (lawful : slot.Lawful) (peak : pool.inUse ≤ pool.peak)
    (ok : (slot.cell pool).result = .ok cell) :
    cell.name = slot.schema.name ∧ cell.kind = .component ∧ cell.length = slot.values.length := by
  cases readable : slot.values.isNull with
  | true => rw [cell_of_null readable] at ok; cases ok
  | false =>
    have charges := Schema.charges_write lawful.length_start lawful.unrefused peak
    rw [cell_of_not_null readable] at ok
    rcases charges.ends with ⟨column, grants, encoded, written⟩ | ⟨e, _, _, _, failed⟩
    · rw [written] at ok
      cases ok
      refine ⟨rfl, lawful.cell_eq, ?_⟩
      rw [Collection.length_eq_of_isNull_eq_false readable]
      exact lawful.length_encode column encoded
    · rw [failed] at ok
      cases ok

/-- Whether writing a slot on its own fails. -/
def fails (pool : Pool) (slot : Slot) : Bool := !(slot.cell pool).result.isOk

/-- The largest need of the slots. -/
def largestNeed (slots : List Slot) : Nat := (slots.map need).foldr max 0

end Slot

/-! ## Many slots -/

/-- Every member of two related lists is related to one of the other. -/
theorem related_of_forall₂ {α β : Type} {R : α → β → Prop} {xs : List α} {ys : List β}
    (h : List.Forall₂ R xs ys) : (∀ x ∈ xs, ∃ y, R x y) ∧ ∀ y ∈ ys, ∃ x, R x y := by
  induction h with
  | nil => exact ⟨List.forall_mem_nil _, List.forall_mem_nil _⟩
  | cons head _ ih =>
    exact ⟨List.forall_mem_cons.mpr ⟨⟨_, head⟩, ih.1⟩, List.forall_mem_cons.mpr ⟨⟨_, head⟩, ih.2⟩⟩

namespace Composer

variable {pool : Pool} {slots : List Slot} {c : Composer} {taken grants : Nat}

/-- How pushing slots can end: with the cells that they come to alone, or with the error of the
first that fails alone.  As many bytes as `taken` were held at some time before. -/
inductive Ending (pool : Pool) (taken : Nat) (slots : List Slot) (c : Composer) :
    Outcome Pool Composer → Prop
  | composed {cells : List DataCell} {grants : Nat}
      (alone : List.Forall₂ (fun slot cell => (slot.cell pool).result = .ok cell) slots cells) :
      Ending pool taken slots c
        (.ok ⟨c.cells ++ cells⟩ (pool.charged (max taken (Slot.largestNeed slots)) grants 0))
  | failed {slot : Slot} {e : LogError} {taken' grants refusals : Nat}
      (first : slots.find? (Slot.fails pool) = some slot)
      (alone : (slot.cell pool).result = .error e) :
      Ending pool taken slots c (.error e (pool.charged taken' grants refusals))

theorem Ending.cons_ok {slot : Slot} {cell : DataCell} {out : Outcome Pool Composer}
    (head : (slot.cell pool).result = .ok cell)
    (tail : Ending pool (max taken slot.need) slots ⟨c.cells ++ [cell]⟩ out) :
    Ending pool taken (slot :: slots) c out := by
  cases tail with
  | composed alone =>
    rw [List.append_assoc, Nat.max_assoc]
    exact .composed (.cons head alone)
  | failed first alone =>
    refine .failed ?_ alone
    rwa [List.find?_cons_of_neg]
    rw [Slot.fails, head]
    exact Bool.false_ne_true

theorem Ending.cons_error {slot : Slot} {e : LogError} {taken' grants refusals : Nat}
    (head : (slot.cell pool).result = .error e) :
    Ending pool taken (slot :: slots) c (.error e (pool.charged taken' grants refusals)) := by
  refine .failed (List.find?_cons_of_pos ?_) head
  rw [Slot.fails, head]
  rfl

/-- **How pushing slots ends.**  Every slot meets the pool with as much in use as the first one
did. -/
theorem ending_pushAll (lawful : ∀ s ∈ slots, s.Lawful) (peak : pool.inUse ≤ pool.peak)
    (c : Composer) (taken grants : Nat) :
    Ending pool taken slots c (pushAll slots c (pool.charged taken grants 0)) := by
  induction slots generalizing c taken grants with
  | nil =>
    have none : Ending pool taken [] c
        (.ok ⟨c.cells ++ []⟩ (pool.charged (max taken 0) grants 0)) := .composed .nil
    rwa [List.append_nil, Nat.max_zero] at none
  | cons slot slots ih =>
    have head := lawful slot List.mem_cons_self
    have same := head.result_charged peak taken grants 0
    rw [pushAll, push]
    have later := Pool.inUse_le_peak_charged peak taken grants 0
    rcases head.ends later with ⟨cell, more, ok⟩ | ⟨e, _, _, _, error⟩
    · rw [ok] at same ⊢
      rw [Pool.charged_charged]
      have rest : ∀ s ∈ slots, s.Lawful := fun s mem => lawful s (List.mem_cons_of_mem slot mem)
      exact .cons_ok same.symm (ih rest _ _ _)
    · rw [error] at same ⊢
      rw [Pool.charged_charged]
      exact .cons_error same.symm

end Composer

/-- An indicator needs no byte, so even a full pool lets it pass. -/
theorem indicatorCell_eq (archetype : Name .archetype) (count : Nat) {pool : Pool}
    (limit : pool.inUse ≤ pool.limit) (peak : pool.inUse ≤ pool.peak) :
    indicatorCell archetype count pool =
      .ok ⟨indicatorName archetype, .null count, .indicator⟩ (pool.charged 0 1 0) := by
  have fits : ¬ pool.Overruns (0 + 0) := by
    rw [Pool.overruns_iff]
    exact Nat.not_lt.mpr limit
  rw [indicatorCell, ComponentSchema.cellOf_eq, (charges_markers archetype count peak).granted fits]
  rfl

namespace Archetype

variable {α : Type} [Archetype α] {a : α} {pool : Pool}

/-- The indicator cell of an archetype. -/
def indicator (a : α) : DataCell :=
  ⟨indicatorName (name α), .null (count a), .indicator⟩

/-- How logging an archetype can end: as pushing its slots does, with the indicator behind the
cells. -/
inductive Ending (a : α) (pool : Pool) : Outcome Pool ArchetypeCells → Prop
  | composed {components : List DataCell} {grants : Nat}
      (alone : List.Forall₂ (fun slot cell => (slot.cell pool).result = .ok cell) (slots a)
        components) :
      Ending a pool (.ok ⟨name α, components ++ [indicator a]⟩
        (pool.charged (Slot.largestNeed (slots a)) grants 0))
  | failed {slot : Slot} {e : LogError} {taken grants refusals : Nat}
      (first : (slots a).find? (Slot.fails pool) = some slot)
      (alone : (slot.cell pool).result = .error e) :
      Ending a pool (.error e (pool.charged taken grants refusals))

theorem ending_cells (lawful : ∀ slot ∈ slots a, slot.Lawful) (limit : pool.inUse ≤ pool.limit)
    (peak : pool.inUse ≤ pool.peak) : Ending a pool (cells a pool) := by
  have pushed : Composer.Ending pool 0 (slots a) {} (Composer.pushAll (slots a) {} pool) := by
    have ending := Composer.ending_pushAll lawful peak {} 0 0
    rwa [Pool.charged_zero peak] at ending
  rw [cells]
  generalize Composer.pushAll (slots a) {} pool = out at pushed ⊢
  cases pushed with
  | composed alone =>
    show Ending a pool (Composer.finish _ _ _ _)
    rw [Composer.finish, indicatorCell_eq _ _ (by exact limit)
      (Pool.inUse_le_peak_charged peak _ _ _), Pool.charged_charged, Nat.max_zero, Nat.zero_max]
    exact .composed alone
  | failed first alone => exact .failed first alone

end Archetype

/-! ## The archetypes of the library -/

/-- The archetypes. -/
inductive LibraryArchetype where
  | mesh3D
  | pinhole
  | tensor
  | transform3D
  deriving DecidableEq, Repr

/-- A slot as it is declared: the component it holds, and how its cell is written if it is
filled. -/
structure DeclaredSlot where
  component : String
  write : Option (Pool → Outcome Pool DataCell)

/-- A filled slot, with the way its cell is written on its own. -/
structure FilledSlot where
  component : String
  write : Pool → Outcome Pool DataCell

/-- Whether writing the slot on its own fails. -/
def FilledSlot.fails (pool : Pool) (slot : FilledSlot) : Bool := !(slot.write pool).result.isOk

/-- The slot, if it is filled. -/
def DeclaredSlot.filled? (slot : DeclaredSlot) : Option FilledSlot :=
  slot.write.map fun write => ⟨slot.component, write⟩

namespace LibraryArchetype

/-- The values of an archetype. -/
@[reducible]
def Value : LibraryArchetype → Type
  | mesh3D => Archetype.Mesh3D
  | pinhole => Archetype.Pinhole
  | tensor => Archetype.Tensor
  | transform3D => Archetype.Transform3D

instance (t : LibraryArchetype) : Archetype t.Value := by
  cases t <;> exact inferInstance

/-- The name of an archetype without namespace and kind. -/
def short : LibraryArchetype → String
  | mesh3D => "Mesh3D"
  | pinhole => "Pinhole"
  | tensor => "Tensor"
  | transform3D => "Transform3D"

/-- The slots in the order of their declaration.  A slot with one value is written as a batch of
one. -/
def declared : (t : LibraryArchetype) → t.Value → List DeclaredSlot
  | mesh3D, m =>
    [⟨"Position3D", some (Component.cellOfCollection m.vertexPositions)⟩,
      ⟨"MeshProperties", m.meshProperties.map fun p => Component.cellOf [p]⟩,
      ⟨"Vector3D", m.vertexNormals.map Component.cellOfCollection⟩,
      ⟨"Color", m.vertexColors.map Component.cellOfCollection⟩,
      ⟨"Material", m.meshMaterial.map fun material => Component.cellOf [material]⟩,
      ⟨"ClassId", m.classIds.map Component.cellOfCollection⟩,
      ⟨"InstanceKey", m.instanceKeys.map Component.cellOfCollection⟩]
  | pinhole, p =>
    [⟨"PinholeProjection", some (Component.cellOf [p.imageFromCamera])⟩,
      ⟨"Resolution", p.resolution.map fun size => Component.cellOf [size]⟩,
      ⟨"ViewCoordinates", p.cameraAxes.map fun axes => Component.cellOf [axes]⟩]
  | tensor, t => [⟨"TensorData", some (Component.cellOf [t.data])⟩]
  | transform3D, t => [⟨"Transform3D", some (Component.cellOf [t.transform])⟩]

/-- The filled slots, in the same order. -/
def filled (t : LibraryArchetype) (a : t.Value) : List FilledSlot :=
  (t.declared a).filterMap DeclaredSlot.filled?

/-- Whether a slot is the one that was declared: of the same component, and written in the same
way. -/
structure Matches (filled : FilledSlot) (slot : Slot) : Prop where
  name_eq : slot.schema.name = .ofShort filled.component
  write_eq : slot.cell = filled.write
  lawful : slot.Lawful

section Matching

variable {α : Type} [Component α] [Readable α] {component : String}

theorem matches_batch (name : (Component.schemaOf α).name = .ofShort component)
    (kind : Component.cell α = .component) (own : ∀ a : α, Unrefused (Loggable.entry a).datum)
    (o : Option (Collection α)) :
    Option.Rel Matches
      (DeclaredSlot.filled? ⟨component, o.map Component.cellOfCollection⟩) (o.map .batch) := by
  cases o with
  | none => exact .none
  | some values => exact .some ⟨name, rfl, Slot.lawful_batch kind own values⟩

theorem matches_one (name : (Component.schemaOf α).name = .ofShort component)
    (kind : Component.cell α = .component) (own : ∀ a : α, Unrefused (Loggable.entry a).datum)
    (o : Option α) :
    Option.Rel Matches
      (DeclaredSlot.filled? ⟨component, o.map fun a => Component.cellOf [a]⟩) (o.map .one) := by
  cases o with
  | none => exact .none
  | some value => exact .some ⟨name, rfl, Slot.lawful_batch kind own _⟩

theorem forall₂_filled {declared : List DeclaredSlot} {slots : List (Option Slot)}
    (h : List.Forall₂ (fun d o => Option.Rel Matches (DeclaredSlot.filled? d) o) declared slots) :
    List.Forall₂ Matches (declared.filterMap DeclaredSlot.filled?) (slots.filterMap id) :=
  List.rel_filterMap (fun _ _ related => related) h

end Matching

/-- The slots of an archetype are those declared ones that are filled, in the same order. -/
theorem forall₂_filled_slots (t : LibraryArchetype) (a : t.Value) :
    List.Forall₂ Matches (t.filled a) (Archetype.slots a) := by
  cases t with
  | mesh3D =>
    refine forall₂_filled ?_
    refine .cons (matches_batch rfl rfl (LibraryType.unrefused_entry .positionComponent)
      (some _)) ?_
    refine .cons (matches_one rfl rfl (LibraryType.unrefused_entry .meshPropertiesComponent) _) ?_
    refine .cons (matches_batch rfl rfl (LibraryType.unrefused_entry .vectorComponent) _) ?_
    refine .cons (matches_batch rfl rfl (LibraryType.unrefused_entry .colorComponent) _) ?_
    refine .cons (matches_one rfl rfl (LibraryType.unrefused_entry .materialComponent) _) ?_
    refine .cons (matches_batch rfl rfl (LibraryType.unrefused_entry .classIdComponent) _) ?_
    refine .cons (matches_batch rfl rfl (LibraryType.unrefused_entry .instanceKeyComponent) _) ?_
    exact .nil
  | pinhole =>
    refine forall₂_filled ?_
    refine .cons (matches_one rfl rfl (LibraryType.unrefused_entry .pinholeProjectionComponent)
      (some _)) ?_
    refine .cons (matches_one rfl rfl (LibraryType.unrefused_entry .resolutionComponent) _) ?_
    refine .cons (matches_one rfl rfl (LibraryType.unrefused_entry .viewCoordinatesComponent) _) ?_
    exact .nil
  | tensor =>
    have matched := matches_one rfl rfl (LibraryType.unrefused_entry .tensorComponent) (some a.data)
    exact forall₂_filled (.cons matched .nil)
  | transform3D =>
    have matched :=
      matches_one rfl rfl (LibraryType.unrefused_entry .transformComponent) (some a.transform)
    exact forall₂_filled (.cons matched .nil)

theorem lawful_slots (t : LibraryArchetype) (a : t.Value) :
    ∀ slot ∈ Archetype.slots a, slot.Lawful := by
  intro slot mem
  obtain ⟨filled, matched⟩ := (related_of_forall₂ (t.forall₂_filled_slots a)).2 slot mem
  exact matched.lawful

variable {filled : List FilledSlot} {slots : List Slot} {components : List DataCell} {pool : Pool}

/-- The first slot that fails is the same, whether the slots are written on their own or as slots of
an archetype. -/
theorem rel_find?_fails (matched : List.Forall₂ Matches filled slots) (pool : Pool) :
    Option.Rel Matches (filled.find? (FilledSlot.fails pool)) (slots.find? (Slot.fails pool)) := by
  induction matched with
  | nil => exact .none
  | cons head _ ih =>
    rw [List.find?_cons, List.find?_cons, Slot.fails, FilledSlot.fails, head.write_eq]
    split
    · exact .some head
    · exact ih

end LibraryArchetype

/-! ## What the cells are -/

/-- Whether the cell is what the slot comes to on its own, a cell of its component. -/
structure FilledSlot.Writes (pool : Pool) (slot : FilledSlot) (cell : DataCell) : Prop where
  alone : (slot.write pool).result = .ok cell
  name_eq : cell.name = .ofShort slot.component
  kind_eq : cell.kind = .component

/-- The cells of an archetype: a cell for each filled slot in the order of declaration, and the
indicator behind them.  Each is found by its name, and the components are told from the
indicator. -/
structure LibraryArchetype.Composed (t : LibraryArchetype) (a : t.Value) (pool : Pool)
    (c : ArchetypeCells) (components : List DataCell) (indicator : DataCell) : Prop where
  archetype_eq : c.archetype = .ofShort t.short
  cells_eq : c.cells = components ++ [indicator]
  alone : List.Forall₂ (FilledSlot.Writes pool) (t.filled a) components
  indicator_name : indicator.name.text = "stratalog.components." ++ t.short ++ "Indicator"
  indicator_kind : indicator.kind = .indicator
  indicator_column : ∃ first, components.head? = some first ∧ indicator.column = .null first.length
  get?_eq : ∀ cell ∈ c.cells, c.get? cell.name.text = some cell
  components_eq : c.components = components
  indicator?_eq : c.indicator? = some indicator

namespace LibraryArchetype

variable {filled : List FilledSlot} {slots : List Slot} {components : List DataCell} {pool : Pool}

theorem forall₂_writes (matched : List.Forall₂ Matches filled slots)
    (alone : List.Forall₂ (fun slot cell => (slot.cell pool).result = .ok cell) slots components)
    (peak : pool.inUse ≤ pool.peak) :
    List.Forall₂ (FilledSlot.Writes pool) filled components := by
  induction matched generalizing components with
  | nil => cases alone; exact .nil
  | cons head _ ih =>
    cases alone with
    | cons ok alone =>
      obtain ⟨name, kind, -⟩ := head.lawful.cell_ok peak ok
      refine .cons ⟨?_, name.trans head.name_eq, kind⟩ (ih alone)
      rw [← head.write_eq]
      exact ok

/-! ### Names -/

theorem name_eq (t : LibraryArchetype) : Archetype.name t.Value = .ofShort t.short := by
  cases t <;> rfl

theorem indicatorName_eq (t : LibraryArchetype) :
    indicatorName (Archetype.name t.Value) = .ofShort (t.short ++ "Indicator") := by
  rw [name_eq, indicatorName, Name.short_ofShort]

theorem sublist_components (declared : List DeclaredSlot) :
    List.Sublist ((declared.filterMap DeclaredSlot.filled?).map FilledSlot.component)
      (declared.map DeclaredSlot.component) := by
  induction declared with
  | nil => exact .slnil
  | cons slot declared ih =>
    obtain ⟨component, write⟩ := slot
    cases write with
    | none => exact ih.cons _
    | some write => exact ih.cons_cons _

theorem nodup_declared (t : LibraryArchetype) (a : t.Value) :
    ((t.declared a).map DeclaredSlot.component ++ [t.short ++ "Indicator"]).Nodup := by
  cases t <;> simp [declared, short]

/-- No two cells of an archetype have the same name. -/
theorem nodup_names (t : LibraryArchetype) (a : t.Value)
    (writes : List.Forall₂ (FilledSlot.Writes pool) (t.filled a) components) :
    ((components ++ [Archetype.indicator a]).map DataCell.name).Nodup := by
  have names : components.map DataCell.name =
      ((t.filled a).map FilledSlot.component).map Name.ofShort := by
    generalize t.filled a = filled at writes
    induction writes with
    | nil => rfl
    | cons head _ ih => rw [List.map_cons, List.map_cons, List.map_cons, ih, head.name_eq]
  have distinct : ((t.filled a).map FilledSlot.component ++ [t.short ++ "Indicator"]).Nodup :=
    (t.nodup_declared a).sublist ((sublist_components _).append_right _)
  have injective : Function.Injective (Name.ofShort : String → Name .component) :=
    Function.LeftInverse.injective Name.short_ofShort
  have last : [Archetype.indicator a].map DataCell.name =
      [t.short ++ "Indicator"].map Name.ofShort :=
    congrArg (fun name => [name]) t.indicatorName_eq
  rw [List.map_append, names, last, ← List.map_append]
  exact List.Nodup.map injective distinct

theorem get?_eq_of_nodup {c : ArchetypeCells} (nodup : (c.cells.map DataCell.name).Nodup)
    {cell : DataCell} (mem : cell ∈ c.cells) : c.get? cell.name.text = some cell := by
  rw [ArchetypeCells.get?]
  generalize c.cells = cells at nodup mem
  induction cells with
  | nil => cases mem
  | cons other cells ih =>
    rw [List.map_cons, List.nodup_cons] at nodup
    rcases List.mem_cons.mp mem with rfl | mem
    · exact List.find?_cons_of_pos (beq_self_eq_true _)
    · rw [List.find?_cons_of_neg, ih nodup.2 mem]
      intro same
      have name : cell.name = other.name := congrArg Name.mk (beq_iff_eq.mp same).symm
      exact nodup.1 (name ▸ List.mem_map_of_mem mem)

/-! ### The first slot -/

/-- There is always a first slot, and it has as many values as the archetype has instances. -/
theorem exists_slots_eq_cons (t : LibraryArchetype) (a : t.Value) :
    ∃ first rest, Archetype.slots a = first :: rest ∧
      first.values.length = Archetype.count a := by
  cases t with
  | mesh3D => exact ⟨_, _, rfl, Collection.length_map _ _⟩
  | pinhole => exact ⟨_, _, rfl, rfl⟩
  | tensor => exact ⟨_, _, rfl, rfl⟩
  | transform3D => exact ⟨_, _, rfl, rfl⟩

/-! ### The whole list -/

theorem composed_of_alone (t : LibraryArchetype) (a : t.Value) (peak : pool.inUse ≤ pool.peak)
    (alone : List.Forall₂ (fun slot cell => (slot.cell pool).result = .ok cell)
      (Archetype.slots a) components) :
    t.Composed a pool ⟨Archetype.name t.Value, components ++ [Archetype.indicator a]⟩ components
      (Archetype.indicator a) := by
  have writes := forall₂_writes (t.forall₂_filled_slots a) alone peak
  have kinds : ∀ cell ∈ components, cell.isIndicator = false := by
    intro cell mem
    obtain ⟨slot, written⟩ := (related_of_forall₂ writes).2 cell mem
    rw [DataCell.isIndicator, written.kind_eq]
    rfl
  refine
    { archetype_eq := t.name_eq
      cells_eq := rfl
      alone := writes
      indicator_name := ?_
      indicator_kind := rfl
      indicator_column := ?_
      get?_eq := fun cell mem => get?_eq_of_nodup (t.nodup_names a writes) mem
      components_eq := ?_
      indicator?_eq := ?_ }
  · rw [Archetype.indicator, indicatorName_eq, Name.ofShort, ← String.append_assoc]
    rfl
  · obtain ⟨first, rest, slots, count⟩ := t.exists_slots_eq_cons a
    have first_lawful := t.lawful_slots a first (slots ▸ List.mem_cons_self)
    rw [slots] at alone
    cases alone with
    | @cons _ cell _ cells ok alone =>
      refine ⟨cell, rfl, ?_⟩
      rw [Archetype.indicator, ← count, (first_lawful.cell_ok peak ok).2.2]
  · show (components ++ [Archetype.indicator a]).filter _ = components
    rw [List.filter_append, List.filter_eq_self.mpr]
    · exact List.append_nil _
    · intro cell mem
      rw [kinds cell mem]
      rfl
  · show (components ++ [Archetype.indicator a]).find? _ = some _
    rw [List.find?_append, List.find?_eq_none.mpr, Option.none_or]
    · rfl
    · intro cell mem
      rw [kinds cell mem]
      exact Bool.false_ne_true

/-- An archetype is logged with the cells of its filled slots, or with the error of the first that
fails. -/
theorem cells_cases (t : LibraryArchetype) (a : t.Value) (limit : pool.inUse ≤ pool.limit)
    (peak : pool.inUse ≤ pool.peak) :
    (∃ c components, (Archetype.cells a pool).result = .ok c ∧
      t.Composed a pool c components (Archetype.indicator a)) ∨
    ∃ slot e, (t.filled a).find? (FilledSlot.fails pool) = some slot ∧
      (slot.write pool).result = .error e ∧ (Archetype.cells a pool).result = .error e := by
  have ending := Archetype.ending_cells (t.lawful_slots a) limit peak
  generalize Archetype.cells a pool = out at ending ⊢
  cases ending with
  | @composed components grants alone =>
    exact .inl ⟨_, components, rfl, t.composed_of_alone a peak alone⟩
  | @failed slot e _ _ _ first error =>
    have same := rel_find?_fails (t.forall₂_filled_slots a) pool
    rw [first] at same
    cases found : (t.filled a).find? (FilledSlot.fails pool) with
    | none => rw [found] at same; cases same
    | some filled =>
      rw [found] at same
      cases same with
      | some matched => exact .inr ⟨filled, e, rfl, by rw [← matched.write_eq]; exact error, rfl⟩

/-- **What an archetype is logged as.**  It is logged exactly if every filled slot is written on its
own with the same pool.  Its cells are then those of the filled slots in the order of declaration,
with the indicator behind them; otherwise the answer is the error of the first filled slot that
fails, and nothing else. -/
theorem cells_composed (t : LibraryArchetype) (a : t.Value) (pool : Pool)
    (reachable : pool.Reachable) :
    ((∃ c, (Archetype.cells a pool).result = .ok c) ↔
      ∀ slot ∈ t.filled a, ∃ cell, (slot.write pool).result = .ok cell) ∧
    (∀ e, (Archetype.cells a pool).result = .error e ↔
      ∃ slot, (t.filled a).find? (FilledSlot.fails pool) = some slot ∧
        (slot.write pool).result = .error e) ∧
    ∀ c, (Archetype.cells a pool).result = .ok c →
      ∃ components indicator, t.Composed a pool c components indicator := by
  rcases t.cells_cases a reachable.inUse_le_limit reachable.inUse_le_peak with
    ⟨c, components, ok, composed⟩ | ⟨slot, e, first, error, failed⟩
  · rw [ok]
    have each : ∀ slot ∈ t.filled a, ∃ cell, (slot.write pool).result = .ok cell := fun slot mem =>
      ((related_of_forall₂ composed.alone).1 slot mem).imp fun cell written => written.alone
    refine ⟨⟨fun _ => each, fun _ => ⟨c, rfl⟩⟩, fun e => ⟨nofun, ?_⟩, ?_⟩
    · rintro ⟨slot, first, error⟩
      obtain ⟨cell, written⟩ := each slot (List.mem_of_find?_eq_some first)
      rw [written] at error
      cases error
    · rintro _ ⟨⟩
      exact ⟨components, _, composed⟩
  · rw [failed]
    refine ⟨⟨nofun, fun each => ?_⟩, fun e' => ⟨?_, ?_⟩, nofun⟩
    · obtain ⟨cell, written⟩ := each slot (List.mem_of_find?_eq_some first)
      rw [written] at error
      cases error
    · rintro ⟨⟩
      exact ⟨slot, first, error⟩
    · rintro ⟨slot', first', error'⟩
      rw [first] at first'
      cases first'
      rw [error] at error'
      cases error'
      rfl

/-- A mesh of two vertices, and the same mesh with a null buffer in the slot of the colours. -/
theorem cells_composed_mesh :
    let pool : Pool := ⟨"small", some 40, 10, 10, 1, 0⟩
    let mesh : Archetype.Mesh3D :=
      { vertexPositions := .borrowed [⟨.ones⟩, ⟨.ones⟩], classIds := some (.single ⟨⟨7⟩⟩) }
    let broken := mesh.withVertexColors (.null 3 (by decide))
    pool.Reachable ∧
      (∃ c components indicator, (Archetype.cells mesh pool).result = .ok c ∧
        mesh3D.Composed mesh pool c components indicator) ∧
      (Archetype.cells broken pool).result =
        .error (.unexpectedNull "Cannot read 3 elements from a null pointer") := by
  intro pool mesh broken
  have reach : pool.Reachable := ⟨"small", some 40, [.reserve 10], by simp [Size.largest], rfl⟩
  have each : ∀ slot ∈ mesh3D.filled mesh, ∃ cell, (slot.write pool).result = .ok cell := by
    intro slot mem
    have all : ∀ slot ∈ mesh3D.filled mesh, (slot.write pool).result.isOk = true := by
      decide +kernel
    have isOk := all slot mem
    cases h : (slot.write pool).result with
    | ok cell => exact ⟨cell, rfl⟩
    | error e => rw [h] at isOk; cases isOk
  have first : (mesh3D.filled broken).find? (FilledSlot.fails pool) =
      some ⟨"Color", Component.cellOfCollection (α := Component.Color) (.null 3 (by decide))⟩ := by
    let positions : FilledSlot := ⟨"Position3D", Component.cellOfCollection mesh.vertexPositions⟩
    show (positions :: _).find? _ = _
    rw [List.find?_cons_of_neg (by decide +kernel)]
    rfl
  obtain ⟨c, ok⟩ := (mesh3D.cells_composed mesh pool reach).1.mpr each
  obtain ⟨components, indicator, composed⟩ := (mesh3D.cells_composed mesh pool reach).2.2 c ok
  refine ⟨reach, ⟨c, components, indicator, ok, composed⟩, ?_⟩
  exact ((mesh3D.cells_composed broken pool reach).2.1 _).mpr ⟨_, first, rfl⟩

end LibraryArchetype
end ColumnLog
