import ColumnLog.Proofs.Compose

/-!
# What an archetype asks of a pool

The slots of an archetype draw on the pool one after the other, and each gives back all that it held
before the next one asks.  So an archetype needs as much room as its most demanding slot, not as
all of them together.

* `Pool.room` is what a pool can still grant; `Slot.Lawful.refused_iff` says that a slot is refused
  exactly if it needs more.
* `LibraryArchetype.Demand` lists what an archetype does to a pool.
* `LibraryArchetype.serialize_demand` is the result, for every archetype.
-/

set_option autoImplicit false

namespace ColumnLog

/-! ## The room in a pool -/

namespace Pool

variable {pool : Pool} {bytes : Nat}

/-- The bytes that the pool can still grant: its capacity, or the largest word, less those in
use. -/
def room (pool : Pool) : Nat := pool.capacity.getD Size.largest - pool.inUse

theorem room_of_bounded {c : Nat} (bounded : pool.capacity = some c) :
    pool.room = pool.available := by
  rw [room, available, bounded]
  rfl

theorem room_of_unbounded (unbounded : pool.capacity = none) :
    pool.room = pool.available - pool.inUse := by
  rw [room, available, unbounded]
  rfl

theorem Reachable.overruns_iff_room_lt (reachable : pool.Reachable) :
    pool.Overruns bytes ↔ pool.room < bytes := by
  have within := reachable.inUse_le_limit
  have fits_word : pool.limit = pool.capacity.getD Size.largest := by
    rw [limit]
    cases h : pool.capacity with
    | none => rfl
    | some c => exact Nat.min_eq_left (reachable.capacity_le h)
  rw [overruns_iff, room, ← fits_word]
  omega

end Pool

/-! ## The needs of slots -/

namespace Slot

variable {slot : Slot} {slots : List Slot} {pool : Pool}

/-- A null buffer needs nothing. -/
theorem need_of_null (null : slot.values.isNull = true) : slot.need = 0 := by
  have none : slot.values.toList = [] := by
    cases h : slot.values with
    | null count pos => rfl
    | _ => rw [h] at null; cases null
  rw [need, none, Schema.slotNeed, List.length_nil, Nat.zero_mul]
  rfl

/-- A slot is refused exactly if it needs more than there is room for. -/
theorem Lawful.refused_iff (lawful : slot.Lawful) (reachable : pool.Reachable) :
    (∃ e, (slot.cell pool).result = .error e ∧ e.isRefusal = true) ↔ pool.room < slot.need := by
  cases readable : slot.values.isNull with
  | true =>
    rw [need_of_null readable, cell_of_null readable]
    constructor
    · rintro ⟨_, ⟨⟩, ⟨⟩⟩
    · exact fun less => absurd less (Nat.not_lt_zero _)
  | false =>
    rw [(lawful.charges readable reachable.inUse_le_peak).refused_iff,
      ← reachable.overruns_iff_room_lt]
    exact ⟨fun beyond => beyond.elim Pool.Overruns.mono id, .inr⟩

theorem need_le_largestNeed (mem : slot ∈ slots) : slot.need ≤ largestNeed slots := by
  induction slots with
  | nil => cases mem
  | cons other slots ih =>
    rw [largestNeed, List.map_cons, List.foldr_cons]
    rcases List.mem_cons.mp mem with rfl | mem
    · exact Nat.le_max_left _ _
    · exact Nat.le_trans (ih mem) (Nat.le_max_right _ _)

theorem exists_need_eq_largestNeed (ne : slots ≠ []) :
    ∃ slot ∈ slots, slot.need = largestNeed slots := by
  induction slots with
  | nil => exact absurd rfl ne
  | cons other slots ih =>
    rw [largestNeed, List.map_cons, List.foldr_cons]
    cases slots with
    | nil => exact ⟨other, List.mem_cons_self, (Nat.max_zero _).symm⟩
    | cons next slots =>
      obtain ⟨slot, mem, eq⟩ := ih (List.cons_ne_nil _ _)
      rcases Nat.le_total other.need (largestNeed (next :: slots)) with le | le
      · exact ⟨slot, List.mem_cons_of_mem _ mem, eq.trans (Nat.max_eq_right le).symm⟩
      · exact ⟨other, List.mem_cons_self, (Nat.max_eq_left le).symm⟩

theorem isGreatest_largestNeed (ne : slots ≠ []) :
    IsGreatest {n | ∃ slot ∈ slots, n = slot.need} (largestNeed slots) := by
  constructor
  · obtain ⟨slot, mem, eq⟩ := exists_need_eq_largestNeed ne
    exact ⟨slot, mem, eq.symm⟩
  · rintro n ⟨slot, mem, rfl⟩
    exact need_le_largestNeed mem

end Slot

theorem LogError.isRefusal_iff {e : LogError} : e.isRefusal = true ↔
    ∃ name requested available, e = allocationFailed name requested available := by
  cases e with
  | allocationFailed name requested available =>
    exact ⟨fun _ => ⟨name, requested, available, rfl⟩, fun _ => rfl⟩
  | _ => exact ⟨nofun, nofun⟩

/-! ## Archetypes -/

/-- What logging an archetype does to a pool. -/
structure LibraryArchetype.Demand (t : LibraryArchetype) (a : t.Value) (pool : Pool) : Prop where
  /-- Whatever comes of it, as much is in use afterwards as before. -/
  inUse_eq : (Archetype.serialize a pool).state.inUse = pool.inUse
  /-- Each slot meets the pool with as much in use as the first one did.  A null buffer leaves it
  alone; the other slots are charged for their values, then for what these keep on the heap. -/
  one_by_one : ∀ before slot after c left, Archetype.slots a = before ++ slot :: after →
    Composer.pushAll before {} pool = .ok c left →
      left.inUse = pool.inUse ∧
      (slot.values.isNull = true → ∃ what, slot.cell left = .error (.unexpectedNull what) left) ∧
      (slot.values.isNull = false →
        left.Charges (slot.schema.slotNeed slot.values.toList)
          (Entry.heapNeed slot.values.toList) slot.encode (slot.cell left))
  /-- The peak moves up to what the most demanding slot needs. -/
  peak_eq : ∀ cells left, Archetype.serialize a pool = .ok cells left →
    ∃ largest, IsGreatest {n | ∃ slot ∈ Archetype.slots a, n = slot.need} largest ∧
      left.peak = max pool.peak (pool.inUse + largest)
  /-- The pool refuses exactly if the first slot that fails needs more than there is room for. -/
  refused_iff : (∃ name requested available,
      (Archetype.serialize a pool).result = .error (.allocationFailed name requested available)) ↔
    ∃ slot, (Archetype.slots a).find? (Slot.fails pool) = some slot ∧ pool.room < slot.need
  /-- The room of a pool with a capacity is what it reports as available.  A pool without one
  reports the largest word, and has room for what is in use less than that. -/
  room_eq : (∀ c, pool.capacity = some c → pool.room = pool.available) ∧
    (pool.capacity = none → pool.room = pool.available - pool.inUse)
  /-- The indicator is granted whatever its size, and moves neither what is in use nor the peak. -/
  indicator : ∀ count, ∃ cell, indicatorCell (Archetype.name t.Value) count pool =
    .ok cell { pool with reservations := pool.reservations + 1 }

namespace LibraryArchetype

variable {pool : Pool}

theorem refused_iff (t : LibraryArchetype) (a : t.Value) (reachable : pool.Reachable) :
    (∃ e, (Archetype.cells a pool).result = .error e ∧ e.isRefusal = true) ↔
      ∃ slot, (Archetype.slots a).find? (Slot.fails pool) = some slot ∧ pool.room < slot.need := by
  have lawful := t.lawful_slots a
  have ending := Archetype.ending_cells lawful reachable.inUse_le_limit reachable.inUse_le_peak
  generalize Archetype.cells a pool = out at ending ⊢
  cases ending with
  | @composed components grants alone =>
    constructor
    · rintro ⟨_, ⟨⟩, -⟩
    · rintro ⟨slot, first, -⟩
      obtain ⟨cell, ok⟩ := (related_of_forall₂ alone).1 slot (List.mem_of_find?_eq_some first)
      have fails := List.find?_some first
      rw [Slot.fails, ok] at fails
      cases fails
  | @failed slot e _ _ _ first alone =>
    have slot_lawful := lawful slot (List.mem_of_find?_eq_some first)
    rw [first]
    constructor
    · rintro ⟨_, ⟨⟩, refusal⟩
      exact ⟨slot, rfl, (slot_lawful.refused_iff reachable).mp ⟨e, alone, refusal⟩⟩
    · rintro ⟨_, ⟨⟩, less⟩
      obtain ⟨e', error, refusal⟩ := (slot_lawful.refused_iff reachable).mpr less
      rw [alone] at error
      cases error
      exact ⟨e, rfl, refusal⟩

theorem refused_iff_serialize (t : LibraryArchetype) (a : t.Value) (reachable : pool.Reachable) :
    (∃ name requested available,
      (Archetype.serialize a pool).result = .error (.allocationFailed name requested available)) ↔
    ∃ slot, (Archetype.slots a).find? (Slot.fails pool) = some slot ∧ pool.room < slot.need := by
  rw [← t.refused_iff a reachable, Archetype.serialize, Outcome.result_map]
  cases (Archetype.cells a pool).result with
  | ok c => exact ⟨nofun, nofun⟩
  | error e =>
    constructor
    · rintro ⟨name, requested, available, ⟨⟩⟩
      exact ⟨_, rfl, rfl⟩
    · rintro ⟨_, ⟨⟩, refusal⟩
      obtain ⟨name, requested, available, rfl⟩ := LogError.isRefusal_iff.mp refusal
      exact ⟨name, requested, available, rfl⟩

theorem exists_indicatorCell (archetype : Name .archetype) (count : Nat)
    (limit : pool.inUse ≤ pool.limit) (peak : pool.inUse ≤ pool.peak) :
    ∃ cell, indicatorCell archetype count pool =
      .ok cell { pool with reservations := pool.reservations + 1 } := by
  refine ⟨⟨indicatorName archetype, .null count, .indicator⟩, ?_⟩
  rw [indicatorCell_eq _ _ limit peak, Pool.charged]
  simp only [Nat.add_zero, Nat.max_eq_left peak]

theorem charges_after (t : LibraryArchetype) (a : t.Value) (peak : pool.inUse ≤ pool.peak)
    {before after : List Slot} {slot : Slot} (split : Archetype.slots a = before ++ slot :: after)
    {c : Composer} {left : Pool} (pushed : Composer.pushAll before {} pool = .ok c left) :
    left.inUse = pool.inUse ∧
      (slot.values.isNull = true → ∃ what, slot.cell left = .error (.unexpectedNull what) left) ∧
      (slot.values.isNull = false →
        left.Charges (slot.schema.slotNeed slot.values.toList)
          (Entry.heapNeed slot.values.toList) slot.encode (slot.cell left)) := by
  have lawful := t.lawful_slots a
  rw [split] at lawful
  have ending := Composer.ending_pushAll (fun s mem => lawful s (List.mem_append_left _ mem)) peak
    {} 0 0
  rw [Pool.charged_zero peak, pushed] at ending
  cases ending with
  | composed alone =>
    have slot_lawful := lawful slot (List.mem_append_right _ List.mem_cons_self)
    refine ⟨rfl, fun null => ⟨_, Slot.cell_of_null null _⟩, fun readable => ?_⟩
    exact slot_lawful.charges readable (Pool.inUse_le_peak_charged peak _ _ _)

/-- **What an archetype asks of a pool.**  Its slots are charged one at a time, and what each held
is given back before the next is charged: what is in use comes back in every case, and the peak is
that of the most demanding slot.  The pool refuses an archetype exactly if the first slot that
fails, for whatever reason, needs more than there is room for.  The indicator needs nothing. -/
theorem serialize_demand (t : LibraryArchetype) (a : t.Value) (pool : Pool)
    (reachable : pool.Reachable) : t.Demand a pool := by
  have limit := reachable.inUse_le_limit
  have peak := reachable.inUse_le_peak
  have ending := Archetype.ending_cells (t.lawful_slots a) limit peak
  refine
    { inUse_eq := ?_
      one_by_one := fun before slot after c left split pushed =>
        t.charges_after a peak split pushed
      peak_eq := ?_
      refused_iff := t.refused_iff_serialize a reachable
      room_eq := ⟨fun _ => Pool.room_of_bounded, Pool.room_of_unbounded⟩
      indicator := fun count => exists_indicatorCell _ count limit peak }
  · rw [Archetype.serialize, Outcome.state_map]
    generalize Archetype.cells a pool = out at ending ⊢
    cases ending with
    | composed => rfl
    | failed => rfl
  · intro cells left ok
    have ne : Archetype.slots a ≠ [] := by
      obtain ⟨first, rest, slots, -⟩ := t.exists_slots_eq_cons a
      rw [slots]
      exact List.cons_ne_nil _ _
    refine ⟨_, Slot.isGreatest_largestNeed ne, ?_⟩
    rw [Archetype.serialize] at ok
    generalize Archetype.cells a pool = out at ending ok
    cases ending with
    | composed => cases ok; rfl
    | failed => cases ok

/-- The normals of a mesh need more than there is room for, though its other slots fit. -/
theorem serialize_demand_mesh :
    let pool : Pool := ⟨"tight", some 40, 10, 10, 1, 0⟩
    let mesh : Archetype.Mesh3D :=
      { vertexPositions := .borrowed [⟨.ones⟩, ⟨.ones⟩]
        vertexNormals := some (.owned [⟨.ones⟩, ⟨.ones⟩, ⟨.ones⟩]) }
    pool.Reachable ∧ mesh3D.Demand mesh pool ∧
      (∃ name requested available, (Archetype.serialize mesh pool).result =
        .error (.allocationFailed name requested available)) ∧
      (Archetype.serialize mesh pool).state.inUse = 10 := by
  intro pool mesh
  have reach : pool.Reachable := ⟨"tight", some 40, [.reserve 10], by simp [Size.largest], rfl⟩
  have demand := mesh3D.serialize_demand mesh pool reach
  let normals : Slot := .batch (.owned [⟨.ones⟩, ⟨.ones⟩, ⟨.ones⟩] : Collection Component.Vector3D)
  have slots : Archetype.slots mesh = [.batch mesh.vertexPositions, normals] := rfl
  have first : (Archetype.slots mesh).find? (Slot.fails pool) = some normals := by
    rw [slots, List.find?_cons_of_neg (by decide +kernel),
      List.find?_cons_of_pos (by decide +kernel)]
  exact ⟨reach, demand, demand.refused_iff.mpr ⟨normals, first, by decide +kernel⟩,
    demand.inUse_eq⟩

end LibraryArchetype
end ColumnLog
