import Mathlib.Data.Int.Basic
import Seev.Lib.Run

/-!
# The lease of an idempotency record

The requests of one tenant, operation and key share one row of `merchant_idempotency_records`,
until it is purged. Every statement is a step of its own: the insert of `Claim`, the read of the
row in its way, the guarded update of `ReclaimFailed` or `TakeoverExpiredLease`, and the update of
`Complete` or `Fail`. Leases are computed by the clock of a process and compared with the
database's, in seconds.
-/

namespace Seev.Gateway.Lease

/-- A request, that is one call of the handler. -/
abbrev RequestID := ℕ

/-- `CanonicalRequestHash` of the body. -/
abbrev Hash := List UInt8

/-- The JSON value of a response, as the bytes that `response_body` is read back as: the column is `JSONB`,
which keeps the value and not its text. -/
abbrev Body := List UInt8

/-- Whether the response of a key is known. -/
inductive State where
  | processing
  | completed
  | failed
  deriving DecidableEq, Repr

/-- The row of an idempotency key. -/
structure IdempotencyRecord where
  requestHash : Hash
  state : State
  httpStatus : Option ℕ
  responseBody : Option Body
  leaseExpiresAt : Option ℤ
  deriving DecidableEq, Repr

/-- What `Begin` decides. -/
inductive Outcome where
  | new
  | replay (httpStatus : Option ℕ) (responseBody : Option Body)
  | conflict
  | inProgress
  deriving DecidableEq, Repr

/-- Where a request is. -/
inductive Phase where
  | idle
  /-- the insert found a row in its way -/
  | conflicted (hash : Hash) (lease : ℤ)
  /-- the row is not completed; next is the guarded update -/
  | retrying (existing : IdempotencyRecord) (lease : ℤ)
  /-- told to proceed -/
  | proceeding (lease : ℤ)
  | answered (o : Outcome)
  /-- after `Complete` or `Fail`, an error or a crash -/
  | done
  deriving DecidableEq, Repr

/-- One key and the requests that have it. -/
structure World where
  /-- `now()` of the database -/
  clock : ℤ
  row : Option IdempotencyRecord
  phase : RequestID → Phase
  /-- the request that was last told to proceed -/
  holder : Option RequestID

/-- No request has come. -/
def World.init (clock : ℤ) : World := ⟨clock, none, fun _ => .idle, none⟩

/-- `leaseDuration` -/
def leaseDuration : ℤ := 30

/-- What happens to one request, or to the clock. -/
inductive Event where
  | tick (seconds : ℕ)
  /-- `Begin` up to its insert, by a process whose clock says `now` -/
  | claim (r : RequestID) (hash : Hash) (now : ℤ)
  | getByKey (r : RequestID)
  | update (r : RequestID)
  | complete (r : RequestID) (httpStatus : ℕ) (responseBody : Body)
  | fail (r : RequestID)
  | crash (r : RequestID)
  deriving DecidableEq, Repr

variable (w : World)

/-- A request goes on. -/
def World.goto (r : RequestID) (p : Phase) : World := { w with phase := Function.update w.phase r p }

/-- The request is told to proceed, and the row is as the statement leaves it. -/
def World.proceed (r : RequestID) (lease : ℤ) (row : IdempotencyRecord) : World :=
  { w with row := some row, phase := Function.update w.phase r (.proceeding lease), holder := some r }

/-- The branches of `Begin` on the row it has read. -/
def decideExisting (hash : Hash) (lease : ℤ) (existing : IdempotencyRecord) : Phase :=
  if existing.requestHash ≠ hash then .answered .conflict
  else
    match existing.state with
    | .completed => .answered (.replay existing.httpStatus existing.responseBody)
    | .failed => .retrying existing lease
    | .processing => .retrying existing lease

/-- The update of `ReclaimFailed` or `TakeoverExpiredLease`, if its condition holds of the row. -/
def World.retry (existing : IdempotencyRecord) (lease : ℤ) : Option IdempotencyRecord :=
  match existing.state, w.row with
  | .failed, some row =>
    if row.state = .failed then some { row with state := .processing, leaseExpiresAt := some lease } else none
  | _, some row =>
    if row.state = .processing ∧ row.leaseExpiresAt.any (· < w.clock) then
      some { row with leaseExpiresAt := some lease }
    else none
  | _, none => none

/-- A statement that does not apply changes nothing. -/
def World.step (w : World) : Event → World
  | .tick seconds => { w with clock := w.clock + seconds }
  | .claim r hash now =>
    if w.phase r ≠ .idle then w
    else
      match w.row with
      | none => w.proceed r (now + leaseDuration) ⟨hash, .processing, none, none, some (now + leaseDuration)⟩
      | some _ => w.goto r (.conflicted hash (now + leaseDuration))
  | .getByKey r =>
    match w.phase r, w.row with
    | .conflicted hash lease, some existing => w.goto r (decideExisting hash lease existing)
    | _, _ => w
  | .update r =>
    match w.phase r with
    | .retrying existing lease =>
      match w.retry existing lease with
      | some row => w.proceed r lease row
      | none => w.goto r (.answered .inProgress)
    | _ => w
  | .complete r httpStatus responseBody =>
    match w.phase r with
    | .proceeding _ =>
      { w.goto r .done with
        row := w.row.map fun row =>
          { row with
            state := .completed, httpStatus := some httpStatus, responseBody := some responseBody,
            leaseExpiresAt := none } }
    | _ => w
  | .fail r =>
    match w.phase r with
    | .proceeding _ =>
      { w.goto r .done with row := w.row.map fun row => { row with state := .failed, leaseExpiresAt := none } }
    | _ => w
  | .crash r => w.goto r .done

end Seev.Gateway.Lease
