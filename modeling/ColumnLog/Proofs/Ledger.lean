import ColumnLog.Pool
import Mathlib.Algebra.GroupWithZero.Nat
import Mathlib.Algebra.Order.BigOperators.Group.List
import Mathlib.Algebra.Order.Group.Nat
import Mathlib.Data.List.Induction
import Mathlib.Order.Bounds.Defs

/-!
# The ledger of a pool

A pool counts bytes without knowing who holds them.  Here the pool stands beside the reservations
that are live on it, and beside the history that led to them.

* `Ledger` is a pool with its live reservations; `Ledger.step` takes, enlarges or ends one of them.
* `Ledger.Transition` says once what an action can do: nothing, be granted, be refused, or end a
  reservation.  What a run keeps and counts follows from its four cases.
* `Ledger.Accounted` lists what the counters of a pool tell after a run.
* `Desk` holds several pools behind handles, which can be copied; `Desk.run_accounted` is the
  result, for every pool and whatever handles it was used through.
* `Pool.Reachable` are the states that pools come to.
-/

set_option autoImplicit false

namespace ColumnLog

/-! ## What fits -/

namespace Pool

variable {pool : Pool} {bytes : Nat}

/-- Whether holding this many bytes more leaves the machine word or the capacity. -/
def Overruns (pool : Pool) (bytes : Nat) : Prop :=
  Size.largest < pool.inUse + bytes ∨ ∃ c, pool.capacity = some c ∧ c < pool.inUse + bytes

theorem limit_le_largest (pool : Pool) : pool.limit ≤ Size.largest := by
  rw [limit]
  cases pool.capacity with
  | none => exact Nat.le_refl _
  | some c => exact Nat.min_le_right _ _

theorem limit_le_capacity {c : Nat} (h : pool.capacity = some c) : pool.limit ≤ c := by
  rw [limit, h]
  exact Nat.min_le_left _ _

theorem overruns_iff : pool.Overruns bytes ↔ pool.limit < pool.inUse + bytes := by
  rw [Overruns, limit]
  cases pool.capacity with
  | none => simp
  | some c =>
    simp only [Option.some.injEq, exists_eq_left']
    omega

instance (pool : Pool) (bytes : Nat) : Decidable (pool.Overruns bytes) :=
  decidable_of_iff _ overruns_iff.symm

theorem fits_iff : pool.fits bytes = true ↔ ¬ pool.Overruns bytes := by
  rw [overruns_iff, fits, decide_eq_true_iff, Nat.not_lt]

theorem acquire_of_not_overruns (h : ¬ pool.Overruns bytes) :
    pool.acquire bytes = .ok () (pool.grant bytes) := by
  rw [acquire, if_pos (fits_iff.mpr h)]

theorem acquire_of_overruns (h : pool.Overruns bytes) :
    pool.acquire bytes =
      .error (.allocationFailed pool.name bytes pool.available) pool.refuse := by
  rw [acquire, if_neg fun fits => fits_iff.mp fits h]

end Pool

/-! ## Actions -/

/-- A pool and the reservations that are live on it. -/
structure Ledger where
  pool : Pool
  live : List Reservation := []
  deriving DecidableEq

namespace Ledger

/-- What is done with a pool. -/
inductive Action where
  /-- Takes bytes for a new reservation. -/
  | reserve (bytes : Nat)
  /-- Enlarges the live reservation at a position. -/
  | grow (i bytes : Nat)
  /-- Ends the live reservation at a position. -/
  | drop (i : Nat)
  deriving DecidableEq

/-- A pool from which nothing has been taken yet. -/
def opened (name : String) (capacity : Option Nat) : Ledger := { pool := { name, capacity } }

/-- The ledger after an action.  Where there is no such reservation nothing happens. -/
def step (l : Ledger) : Action → Outcome Ledger Unit
  | .reserve bytes =>
    match l.pool.reserve bytes with
    | .ok held pool => .ok () ⟨pool, l.live ++ [held]⟩
    | .error e pool => .error e { l with pool }
  | .grow i bytes =>
    match l.live[i]? with
    | none => .ok () l
    | some held =>
      match held.grow l.pool bytes with
      | .ok held pool => .ok () ⟨pool, l.live.set i held⟩
      | .error e pool => .error e { l with pool }
  | .drop i =>
    match l.live[i]? with
    | none => .ok () l
    | some held => .ok () ⟨held.drop l.pool, l.live.eraseIdx i⟩

/-- The ledger after some actions; one that is refused does not end the run. -/
def run (l : Ledger) (actions : List Action) : Ledger :=
  actions.foldl (fun l a => (l.step a).state) l

/-- The bytes that an action asks the pool for; enlarging by nothing asks for nothing. -/
def asks (l : Ledger) : Action → Option Nat
  | .reserve bytes => some bytes
  | .grow i bytes => if i < l.live.length ∧ bytes ≠ 0 then some bytes else none
  | .drop _ => none

/-- The bytes of the live reservations. -/
def held (l : Ledger) : Nat := (l.live.map Reservation.bytes).sum

variable {l : Ledger} {a : Action} {i bytes : Nat} {r : Reservation}

theorem held_append (pool : Pool) :
    (Ledger.mk pool (l.live ++ [⟨bytes⟩])).held = l.held + bytes := by
  rw [held, List.map_append, List.sum_append]
  rfl

theorem held_eraseIdx (pool : Pool) (h : l.live[i]? = some r) :
    (Ledger.mk pool (l.live.eraseIdx i)).held + r.bytes = l.held := by
  obtain ⟨hi, rfl⟩ := List.getElem?_eq_some_iff.mp h
  have perm := (List.getElem_cons_eraseIdx_perm hi).map Reservation.bytes
  rw [held, held, ← perm.sum_eq, List.map_cons, List.sum_cons, Nat.add_comm]

theorem held_set (pool : Pool) (h : l.live[i]? = some r) :
    (Ledger.mk pool (l.live.set i ⟨r.bytes + bytes⟩)).held = l.held + bytes := by
  obtain ⟨hi, -⟩ := List.getElem?_eq_some_iff.mp h
  have perm := (List.set_perm_cons_eraseIdx hi ⟨r.bytes + bytes⟩).map Reservation.bytes
  have rest : ((l.live.eraseIdx i).map Reservation.bytes).sum + r.bytes = l.held :=
    held_eraseIdx pool h
  rw [held, perm.sum_eq, List.map_cons, List.sum_cons]
  show r.bytes + bytes + _ = l.held + bytes
  omega

/-- What an action can do. -/
inductive Transition (l : Ledger) (a : Action) : Outcome Ledger Unit → Prop where
  | idle (asks : l.asks a = none) : Transition l a (.ok () l)
  | granted {bytes : Nat} {live : List Reservation} (asks : l.asks a = some bytes)
      (fits : ¬ l.pool.Overruns bytes)
      (held : (Ledger.mk (l.pool.grant bytes) live).held = l.held + bytes) :
      Transition l a (.ok () ⟨l.pool.grant bytes, live⟩)
  | refused {bytes : Nat} (asks : l.asks a = some bytes) (overruns : l.pool.Overruns bytes) :
      Transition l a
        (.error (.allocationFailed l.pool.name bytes l.pool.available) ⟨l.pool.refuse, l.live⟩)
  | ended {r : Reservation} {live : List Reservation} (asks : l.asks a = none)
      (held : (Ledger.mk (l.pool.release r.bytes) live).held + r.bytes = l.held) :
      Transition l a (.ok () ⟨l.pool.release r.bytes, live⟩)

theorem transition_reserve (l : Ledger) (bytes : Nat) :
    l.Transition (.reserve bytes) (l.step (.reserve bytes)) := by
  by_cases h : l.pool.Overruns bytes
  · rw [step, Pool.reserve, Pool.acquire_of_overruns h]
    exact .refused rfl h
  · rw [step, Pool.reserve, Pool.acquire_of_not_overruns h]
    exact .granted rfl h (held_append _)

theorem transition_grow (l : Ledger) (i bytes : Nat) :
    l.Transition (.grow i bytes) (l.step (.grow i bytes)) := by
  cases hr : l.live[i]? with
  | none =>
    have absent : ¬ i < l.live.length := Nat.not_lt.mpr (List.getElem?_eq_none_iff.mp hr)
    simp only [step, hr]
    exact .idle (if_neg fun h => absurd h.1 absent)
  | some r =>
    have present : i < l.live.length := (List.getElem?_eq_some_iff.mp hr).1
    simp only [step, hr, Reservation.grow]
    by_cases zero : bytes = 0
    · -- the reservation is put back as it was
      rw [if_pos zero]
      have same : l.live.set i r = l.live := by
        rw [← (List.getElem?_eq_some_iff.mp hr).2, List.set_getElem_self]
      simp only [same]
      exact .idle (if_neg fun h => h.2 zero)
    · have asks : l.asks (.grow i bytes) = some bytes := if_pos ⟨present, zero⟩
      rw [if_neg zero]
      by_cases h : l.pool.Overruns bytes
      · rw [Pool.acquire_of_overruns h]
        exact .refused asks h
      · rw [Pool.acquire_of_not_overruns h]
        exact .granted asks h (held_set _ hr)

theorem transition_drop (l : Ledger) (i : Nat) :
    l.Transition (.drop i) (l.step (.drop i)) := by
  cases hr : l.live[i]? with
  | none =>
    simp only [step, hr]
    exact .idle rfl
  | some r =>
    simp only [step, hr]
    exact .ended rfl (held_eraseIdx _ hr)

/-- **What an action does**, whichever it is. -/
theorem transition (l : Ledger) (a : Action) : l.Transition a (l.step a) := by
  cases a with
  | reserve bytes => exact transition_reserve l bytes
  | grow i bytes => exact transition_grow l i bytes
  | drop i => exact transition_drop l i

/-! ## What a run keeps -/

theorem run_append (l : Ledger) (xs ys : List Action) : l.run (xs ++ ys) = (l.run xs).run ys :=
  List.foldl_append

theorem run_concat (l : Ledger) (actions : List Action) (a : Action) :
    l.run (actions ++ [a]) = ((l.run actions).step a).state := by
  rw [run_append]
  rfl

/-- Whether the bytes held are those of the live reservations, within what the pool can hold, and
not above the recorded peak. -/
structure Balanced (l : Ledger) : Prop where
  inUse_eq : l.pool.inUse = l.held
  inUse_le_limit : l.pool.inUse ≤ l.pool.limit
  inUse_le_peak : l.pool.inUse ≤ l.pool.peak

theorem balanced_opened (name : String) (capacity : Option Nat) : (opened name capacity).Balanced :=
  ⟨rfl, Nat.zero_le _, Nat.zero_le _⟩

theorem Balanced.step (h : l.Balanced) (a : Action) : (l.step a).state.Balanced := by
  have inUse := h.inUse_eq
  have limit := h.inUse_le_limit
  have peak := h.inUse_le_peak
  have moved := l.transition a
  generalize l.step a = out at moved ⊢
  cases moved with
  | idle => exact h
  | granted _ fits held =>
    rw [Pool.overruns_iff, Nat.not_lt] at fits
    exact ⟨by rw [Outcome.state, held, ← inUse]; rfl, fits, Nat.le_max_right _ _⟩
  | refused => exact ⟨inUse, limit, peak⟩
  | @ended r live _ held =>
    refine ⟨?_, Nat.le_trans (Nat.sub_le _ _) limit, Nat.le_trans (Nat.sub_le _ _) peak⟩
    show l.pool.inUse - r.bytes = (Ledger.mk (l.pool.release r.bytes) live).held
    omega

theorem Balanced.run (h : l.Balanced) (actions : List Action) : (l.run actions).Balanced := by
  induction actions generalizing l with
  | nil => exact h
  | cons a actions ih => exact ih (h.step a)

theorem Balanced.bytes_le_inUse (h : l.Balanced) (mem : r ∈ l.live) : r.bytes ≤ l.pool.inUse := by
  rw [h.inUse_eq]
  exact List.le_sum_of_mem (List.mem_map_of_mem mem)

/-- Neither name nor capacity of a pool ever change. -/
theorem settings_step (l : Ledger) (a : Action) :
    (l.step a).state.pool.name = l.pool.name ∧
      (l.step a).state.pool.capacity = l.pool.capacity := by
  have moved := l.transition a
  generalize l.step a = out at moved ⊢
  cases moved <;> exact ⟨rfl, rfl⟩

theorem capacity_run (l : Ledger) (actions : List Action) :
    (l.run actions).pool.capacity = l.pool.capacity := by
  induction actions generalizing l with
  | nil => rfl
  | cons a actions ih => exact (ih _).trans (l.settings_step a).2

/-! ## What a run counts -/

/-- Whether an action asks the pool for bytes and gets them. -/
def grants (l : Ledger) (a : Action) : Bool := (l.asks a).isSome && (l.step a).result.isOk

/-- Whether an action is refused. -/
def refuses (l : Ledger) (a : Action) : Bool := !(l.step a).result.isOk

/-- The number of actions of a run that pass a test at the time they are taken. -/
def count (test : Ledger → Action → Bool) : Ledger → List Action → Nat
  | _, [] => 0
  | l, a :: actions => (test l a).toNat + count test (l.step a).state actions

theorem reservations_step (l : Ledger) (a : Action) :
    (l.step a).state.pool.reservations = l.pool.reservations + (l.grants a).toNat := by
  have moved := l.transition a
  rw [grants]
  generalize l.step a = out at moved ⊢
  cases moved with
  | idle asks => rw [asks]; rfl
  | granted asks => rw [asks]; rfl
  | refused asks => rw [asks]; rfl
  | ended asks => rw [asks]; rfl

theorem failures_step (l : Ledger) (a : Action) :
    (l.step a).state.pool.failures = l.pool.failures + (l.refuses a).toNat := by
  have moved := l.transition a
  rw [refuses]
  generalize l.step a = out at moved ⊢
  cases moved <;> rfl

theorem reservations_run (l : Ledger) (actions : List Action) :
    (l.run actions).pool.reservations = l.pool.reservations + l.count grants actions := by
  induction actions generalizing l with
  | nil => rfl
  | cons a actions ih =>
    rw [count, ← Nat.add_assoc, ← reservations_step]
    exact ih _

theorem failures_run (l : Ledger) (actions : List Action) :
    (l.run actions).pool.failures = l.pool.failures + l.count refuses actions := by
  induction actions generalizing l with
  | nil => rfl
  | cons a actions ih =>
    rw [count, ← Nat.add_assoc, ← failures_step]
    exact ih _

/-- An action is granted or refused or neither, never both. -/
theorem count_grants_add_count_refuses_le (l : Ledger) (actions : List Action) :
    l.count grants actions + l.count refuses actions ≤ actions.length := by
  induction actions generalizing l with
  | nil => exact Nat.le_refl _
  | cons a actions ih =>
    have one : (l.grants a).toNat + (l.refuses a).toNat ≤ 1 := by
      rw [grants, refuses]
      cases (l.asks a).isSome <;> cases (l.step a).result.isOk <;> decide
    have rest := ih (l.step a).state
    rw [count, count, List.length_cons]
    omega

theorem refuses_iff (asks : l.asks a = some bytes) :
    l.refuses a = true ↔ l.pool.Overruns bytes := by
  have moved := l.transition a
  rw [refuses]
  generalize l.step a = out at moved ⊢
  cases moved with
  | idle asks' => rw [asks'] at asks; cases asks
  | granted asks' fits =>
    rw [asks'] at asks
    cases asks
    exact ⟨nofun, fun overruns => absurd overruns fits⟩
  | refused asks' overruns =>
    rw [asks'] at asks
    cases asks
    exact ⟨fun _ => overruns, fun _ => rfl⟩
  | ended asks' => rw [asks'] at asks; cases asks

/-- The peak moves up to the bytes held after the action, and never down. -/
theorem peak_step (h : l.Balanced) (a : Action) :
    (l.step a).state.pool.peak = max l.pool.peak (l.step a).state.pool.inUse := by
  have peak := h.inUse_le_peak
  have moved := l.transition a
  generalize l.step a = out at moved ⊢
  cases moved with
  | idle => exact (Nat.max_eq_left peak).symm
  | granted => rfl
  | refused => exact (Nat.max_eq_left peak).symm
  | ended => exact (Nat.max_eq_left (Nat.le_trans (Nat.sub_le _ _) peak)).symm

/-- The amounts of bytes that were held at some time in a run. -/
def heldDuring (l : Ledger) (actions : List Action) : Set Nat :=
  {b | ∃ before, before <+: actions ∧ b = (l.run before).pool.inUse}

/-- The recorded peak is the most that was ever held. -/
theorem isGreatest_peak (name : String) (capacity : Option Nat) (actions : List Action) :
    IsGreatest ((opened name capacity).heldDuring actions)
      ((opened name capacity).run actions).pool.peak := by
  -- from the right: the last action adds one more amount to those held before
  induction actions using List.reverseRecOn with
  | nil =>
    refine ⟨⟨[], List.nil_prefix, rfl⟩, ?_⟩
    rintro b ⟨before, prefixes, rfl⟩
    rw [List.prefix_nil.mp prefixes]
    exact Nat.le_refl _
  | append_singleton actions a ih =>
    have balanced := (balanced_opened name capacity).run actions
    have moved := peak_step balanced a
    rw [← run_concat] at moved
    obtain ⟨⟨before, prefixes, reached⟩, above⟩ := ih
    constructor
    · rw [moved]
      rcases Nat.le_total ((opened name capacity).run (actions ++ [a])).pool.inUse
        ((opened name capacity).run actions).pool.peak with le | le
      · rw [Nat.max_eq_left le]
        exact ⟨before, prefixes.trans (List.prefix_append _ _), reached⟩
      · rw [Nat.max_eq_right le]
        exact ⟨_, List.prefix_refl _, rfl⟩
    · rintro b ⟨earlier, prefixes', rfl⟩
      rw [moved]
      rcases List.prefix_concat_iff.mp prefixes' with rfl | inside
      · exact Nat.le_max_right _ _
      · exact Nat.le_trans (above ⟨earlier, inside, rfl⟩) (Nat.le_max_left _ _)

/-! ## The whole account -/

/-- What holds of a pool after actions on it: the bytes held are exactly those of the live
reservations, the counters tell what happened, and a refusal leaves nothing but a mark. -/
structure Accounted (start : Ledger) (actions : List Action) : Prop where
  inUse_eq : (start.run actions).pool.inUse =
    ((start.run actions).live.map Reservation.bytes).sum
  /-- No reservation outgrows the word, and giving back never takes more than is held. -/
  bytes_le_inUse : ∀ r ∈ (start.run actions).live, r.bytes ≤ (start.run actions).pool.inUse
  inUse_le_largest : (start.run actions).pool.inUse ≤ Size.largest
  inUse_le_capacity : ∀ c, start.pool.capacity = some c → (start.run actions).pool.inUse ≤ c
  capacity_eq : (start.run actions).pool.capacity = start.pool.capacity
  peak_eq : IsGreatest (start.heldDuring actions) (start.run actions).pool.peak
  reservations_eq : (start.run actions).pool.reservations = start.count grants actions
  failures_eq : (start.run actions).pool.failures = start.count refuses actions
  /-- The counters stay within the word for as long as the number of actions does. -/
  counters_le : (start.run actions).pool.reservations + (start.run actions).pool.failures ≤
    actions.length
  available_of_bounded : ∀ c, start.pool.capacity = some c →
    (start.run actions).pool.available + (start.run actions).pool.inUse = c
  available_of_unbounded : start.pool.capacity = none →
    (start.run actions).pool.available = Size.largest
  refuses_iff : ∀ a bytes, (start.run actions).asks a = some bytes →
    ((start.run actions).refuses a = true ↔ (start.run actions).pool.Overruns bytes)
  refusal : ∀ a e left, (start.run actions).step a = .error e left →
    (∃ bytes, (start.run actions).asks a = some bytes ∧
      e = .allocationFailed (start.run actions).pool.name bytes
        (start.run actions).pool.available) ∧
    left = { start.run actions with
      pool := { (start.run actions).pool with
        failures := (start.run actions).pool.failures + 1 } }

theorem refusal_of_error {e : LogError} {left : Ledger} (error : l.step a = .error e left) :
    (∃ bytes, l.asks a = some bytes ∧
      e = .allocationFailed l.pool.name bytes l.pool.available) ∧
    left = { l with pool := { l.pool with failures := l.pool.failures + 1 } } := by
  have moved := l.transition a
  rw [error] at moved
  cases moved with
  | refused asks => exact ⟨⟨_, asks, rfl⟩, rfl⟩

theorem accounted_opened (name : String) (capacity : Option Nat) (actions : List Action) :
    (opened name capacity).Accounted actions := by
  have balanced := (balanced_opened name capacity).run actions
  have settings := capacity_run (opened name capacity) actions
  have reservations := reservations_run (opened name capacity) actions
  have failures := failures_run (opened name capacity) actions
  have within : ∀ c, (opened name capacity).pool.capacity = some c →
      ((opened name capacity).run actions).pool.inUse ≤ c := fun c hc =>
    Nat.le_trans balanced.inUse_le_limit (Pool.limit_le_capacity (settings.trans hc))
  rw [show (opened name capacity).pool.reservations = 0 from rfl, Nat.zero_add] at reservations
  rw [show (opened name capacity).pool.failures = 0 from rfl, Nat.zero_add] at failures
  refine
    { inUse_eq := balanced.inUse_eq
      bytes_le_inUse := fun r mem => balanced.bytes_le_inUse mem
      inUse_le_largest := Nat.le_trans balanced.inUse_le_limit (Pool.limit_le_largest _)
      inUse_le_capacity := within
      capacity_eq := settings
      peak_eq := isGreatest_peak name capacity actions
      reservations_eq := reservations
      failures_eq := failures
      counters_le := ?_
      available_of_bounded := fun c hc => ?_
      available_of_unbounded := fun hc => ?_
      refuses_iff := fun a bytes asks => refuses_iff asks
      refusal := fun a e left error => refusal_of_error error }
  · rw [reservations, failures]
    exact count_grants_add_count_refuses_le _ _
  · rw [Pool.available, settings.trans hc]
    exact Nat.sub_add_cancel (within c hc)
  · rw [Pool.available, settings.trans hc]

end Ledger

/-! ## Handles -/

/-- Pools, and the handles that lead to them.  A copy of a handle leads to the same pool. -/
structure Desk where
  ledgers : List Ledger
  /-- For each handle, the position of its pool. -/
  handles : List Nat

namespace Desk

/-- What is done through a handle. -/
inductive Action where
  /-- Copies the handle; the copy is the last of the handles. -/
  | clone (handle : Nat)
  /-- Acts on the pool of the handle. -/
  | use (handle : Nat) (action : Ledger.Action)

/-- The desk after an action; through a handle that does not exist nothing happens. -/
def step (d : Desk) : Action → Desk
  | .clone handle => { d with handles := d.handles ++ d.handles[handle]?.toList }
  | .use handle action =>
    match d.handles[handle]? with
    | some k => { d with ledgers := d.ledgers.modify k fun l => (l.step action).state }
    | none => d

/-- The desk after some actions. -/
def run (d : Desk) (actions : List Action) : Desk := actions.foldl step d

/-- What an action does to pool `k`. -/
def reaching (d : Desk) (k : Nat) : Action → Option Ledger.Action
  | .clone _ => none
  | .use handle action => if d.handles[handle]? = some k then some action else none

/-- What the actions of a run do to pool `k`, through whichever handles. -/
def actionsOn (k : Nat) : Desk → List Action → List Ledger.Action
  | _, [] => []
  | d, a :: actions => (d.reaching k a).toList ++ actionsOn k (d.step a) actions

theorem getElem?_ledgers_step (d : Desk) (k : Nat) (a : Action) :
    (d.step a).ledgers[k]? = d.ledgers[k]?.map (·.run (d.reaching k a).toList) := by
  have same : d.ledgers[k]?.map (·.run []) = d.ledgers[k]? := Option.map_id_apply
  cases a with
  | clone handle => exact same.symm
  | use handle action =>
    cases target : d.handles[handle]? with
    | none =>
      simpa only [step, reaching, target, reduceCtorEq, if_false, Option.toList_none]
        using same.symm
    | some j =>
      simp only [step, reaching, target, Option.some.injEq]
      rw [List.getElem?_modify]
      by_cases h : j = k
      · rw [if_pos h]
        simp only [if_pos h]
        rfl
      · rw [if_neg h]
        simp only [if_neg h]
        exact Option.map_id_apply.trans same.symm

/-- What other pools are asked for does not touch a pool. -/
theorem getElem?_ledgers_run (d : Desk) (k : Nat) (actions : List Action) :
    (d.run actions).ledgers[k]? = d.ledgers[k]?.map (·.run (d.actionsOn k actions)) := by
  induction actions generalizing d with
  | nil => exact Option.map_id_apply.symm
  | cons a actions ih =>
    show ((d.step a).run actions).ledgers[k]? = _
    rw [ih, getElem?_ledgers_step, Option.map_map]
    refine congrArg (Option.map · _) (funext fun l => ?_)
    rw [Function.comp_apply, actionsOn, Ledger.run_append]

/-- **The account of a pool.**  Pools start empty, with or without a capacity.  Whatever is
reserved, enlarged and ended, in any order, of any size and through any copies of the handles: each
pool is in the state that its own actions lead to, and its counters tell what they did. -/
theorem run_accounted (d : Desk)
    (start : ∀ l ∈ d.ledgers, ∃ name capacity, l = .opened name capacity) (actions : List Action)
    (k : Nat) (l : Ledger) (at_k : (d.run actions).ledgers[k]? = some l) :
    ∃ l₀, d.ledgers[k]? = some l₀ ∧ l = l₀.run (d.actionsOn k actions) ∧
      l₀.Accounted (d.actionsOn k actions) := by
  rw [getElem?_ledgers_run] at at_k
  obtain ⟨l₀, first, rfl⟩ := Option.map_eq_some_iff.mp at_k
  obtain ⟨name, capacity, rfl⟩ := start l₀ (List.mem_of_getElem? first)
  exact ⟨_, first, rfl, Ledger.accounted_opened name capacity _⟩

/-- Two pools and three handles, a refused enlargement, and reservations ended out of order. -/
theorem run_accounted_copies :
    let d : Desk := ⟨[.opened "small" (some 32), .opened "wide" none], [0, 1]⟩
    let actions : List Action :=
      [.clone 0, .use 2 (.reserve 16), .use 0 (.reserve 6), .use 1 (.reserve 400),
        .use 2 (.grow 0 10), .use 0 (.grow 1 1), .use 2 (.grow 1 0), .use 0 (.drop 0)]
    let own : List Ledger.Action :=
      [.reserve 16, .reserve 6, .grow 0 10, .grow 1 1, .grow 1 0, .drop 0]
    (∀ l ∈ d.ledgers, ∃ name capacity, l = .opened name capacity) ∧
      (d.run actions).ledgers[0]? = some
        ⟨⟨"small", some 32, 6, 32, 3, 1⟩, [⟨6⟩]⟩ ∧
      (Ledger.opened "small" (some 32)).Accounted own := by
  intro d actions own
  have start : ∀ l ∈ d.ledgers, ∃ name capacity, l = .opened name capacity := by
    simp [d]
  have at_0 : (d.run actions).ledgers[0]? = some ⟨⟨"small", some 32, 6, 32, 3, 1⟩, [⟨6⟩]⟩ := by
    decide +kernel
  have reached : d.actionsOn 0 actions = own := by decide +kernel
  obtain ⟨l₀, first, -, accounted⟩ := run_accounted d start actions 0 _ at_0
  cases first
  rw [reached] at accounted
  exact ⟨start, at_0, accounted⟩

end Desk

/-! ## Reachable pools -/

namespace Pool

variable {pool : Pool}

/-- The states of pools: a pool of a capacity that a word can hold, or of none, after any actions
on it. -/
def Reachable (pool : Pool) : Prop :=
  ∃ (name : String) (capacity : Option Nat) (actions : List Ledger.Action),
    (∀ c, capacity = some c → c ≤ Size.largest) ∧
      pool = ((Ledger.opened name capacity).run actions).pool

theorem reachable_standard : standard.Reachable := ⟨defaultName, none, [], nofun, rfl⟩

theorem Reachable.inUse_le_limit (h : pool.Reachable) : pool.inUse ≤ pool.limit := by
  obtain ⟨name, capacity, actions, -, rfl⟩ := h
  exact ((Ledger.balanced_opened name capacity).run actions).inUse_le_limit

theorem Reachable.inUse_le_peak (h : pool.Reachable) : pool.inUse ≤ pool.peak := by
  obtain ⟨name, capacity, actions, -, rfl⟩ := h
  exact ((Ledger.balanced_opened name capacity).run actions).inUse_le_peak

theorem Reachable.capacity_le (h : pool.Reachable) {c : Nat} (hc : pool.capacity = some c) :
    c ≤ Size.largest := by
  obtain ⟨name, capacity, actions, words, rfl⟩ := h
  exact words c ((Ledger.capacity_run _ actions).symm.trans hc)

end Pool
end ColumnLog
