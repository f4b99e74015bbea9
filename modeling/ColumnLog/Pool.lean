import ColumnLog.Error
import ColumnLog.Size

/-!
# Memory pools

A pool keeps account of the bytes that are held while columns are being built.  It may have a
capacity; a request that does not fit is refused and only counted.

* `Pool.acquire` takes bytes, `Pool.release` gives them back.
* `Reservation` is a number of bytes taken from a pool: made by `Pool.reserve`, enlarged by
  `Reservation.grow`.
* `Pool.available` is what a refusal reports: the free part of the capacity, or the largest word.
-/

set_option autoImplicit false

namespace ColumnLog

/-- A pool and its counters. -/
structure Pool where
  name : String
  /-- The most bytes that may be held at once; no limit if absent. -/
  capacity : Option Nat
  /-- Bytes held now. -/
  inUse : Nat := 0
  /-- The most bytes that were ever held. -/
  peak : Nat := 0
  /-- Requests granted. -/
  reservations : Nat := 0
  /-- Requests refused. -/
  failures : Nat := 0
  deriving DecidableEq, Repr

/-- Bytes taken from a pool. -/
structure Reservation where
  bytes : Nat
  deriving DecidableEq, Repr

namespace Pool

/-- A pool that refuses nothing but what does not fit a machine word. -/
def unbounded (name : String) : Pool := { name, capacity := none }

/-- The name of the default pool. -/
def defaultName : String := "default"

/-- The pool that is used where none is given. -/
def standard : Pool := unbounded defaultName

/-- A pool that holds at most `capacity` bytes. -/
def bounded (name : String) (capacity : Nat) : Pool := { name, capacity := some capacity }

/-- The most bytes that the pool can hold. -/
def limit (pool : Pool) : Nat :=
  match pool.capacity with
  | some capacity => min capacity Size.largest
  | none => Size.largest

/-- The bytes that a refusal reports as left. -/
def available (pool : Pool) : Nat :=
  match pool.capacity with
  | some capacity => capacity - pool.inUse
  | none => Size.largest

/-- Whether the pool can hold this many bytes more. -/
def fits (pool : Pool) (bytes : Nat) : Bool := decide (pool.inUse + bytes ≤ pool.limit)

/-- The pool after granting a request. -/
def grant (pool : Pool) (bytes : Nat) : Pool :=
  { pool with
    inUse := pool.inUse + bytes
    peak := max pool.peak (pool.inUse + bytes)
    reservations := pool.reservations + 1 }

/-- The pool after refusing a request. -/
def refuse (pool : Pool) : Pool := { pool with failures := pool.failures + 1 }

/-- Takes bytes, if they fit. -/
def acquire (pool : Pool) (bytes : Nat) : Outcome Pool Unit :=
  if pool.fits bytes then .ok () (pool.grant bytes)
  else .error (.allocationFailed pool.name bytes pool.available) pool.refuse

/-- Gives bytes back. -/
def release (pool : Pool) (bytes : Nat) : Pool := { pool with inUse := pool.inUse - bytes }

/-- Takes bytes for a new reservation. -/
def reserve (pool : Pool) (bytes : Nat) : Outcome Pool Reservation :=
  (pool.acquire bytes).map fun () => ⟨bytes⟩

/-- The diagnostic form. -/
def debug (pool : Pool) : String :=
  "MemoryPool \x7b name: " ++ Text.quoted pool.name ++ ", capacity: " ++
    (match pool.capacity with
      | some capacity => "Some(" ++ toString capacity ++ ")"
      | none => "None") ++
    ", in_use: " ++ toString pool.inUse ++ " \x7d"

end Pool

/-- Enlarges a reservation.  Nothing is asked of the pool for no bytes; a refused reservation stays
as it is. -/
def Reservation.grow (held : Reservation) (pool : Pool) (bytes : Nat) :
    Outcome Pool Reservation :=
  if bytes = 0 then .ok held pool
  else (pool.acquire bytes).map fun () => ⟨held.bytes + bytes⟩

/-- Ends a reservation. -/
def Reservation.drop (held : Reservation) (pool : Pool) : Pool := pool.release held.bytes

end ColumnLog
