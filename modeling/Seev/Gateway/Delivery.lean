import Mathlib.Data.Int.Basic
import Seev.Lib.Run

/-!
# The relay of one webhook delivery

One row of `merchant_webhook_deliveries`, its rows of `merchant_webhook_attempts`, the status of its
endpoint, and the relay workers that have claimed it. Deliveries do not touch each other: what a worker
does for the rest of its batch only lets time pass. Every statement of `ProcessOnce` and
`processDelivery` is a step of its own. Times are in seconds.
-/

namespace Seev.Gateway.Delivery

/-- Workers are numbered. -/
abbrev WorkerID := ℕ

/-- The status of a delivery. -/
inductive Status where
  | pending
  | delivered
  | failed
  | dead
  deriving DecidableEq, Repr

/-- The columns the relay reads and writes; a lease that is NULL has no end. -/
structure Row where
  status : Status
  attemptCount : ℕ
  nextAttemptAt : Option ℤ
  leaseExpiresAt : Option ℤ
  deriving DecidableEq, Repr

/-- `MarkDelivered`, `MarkFailedAttempt` and `MarkDead` -/
inductive Mark where
  | delivered
  | failed
  | dead
  deriving DecidableEq, Repr

/-- A worker, at the statement that comes next, with the `AttemptCount` it has claimed. -/
inductive Phase where
  | idle
  | getEndpoint (count : ℕ)
  /-- `GetEventByID`, and the secret of the endpoint -/
  | getEvent (count : ℕ)
  | dispatch (count : ℕ)
  | recordAttempt (count : ℕ) (status : Option ℕ)
  | disableEndpoint (count : ℕ)
  | marking (count : ℕ) (m : Mark)
  deriving DecidableEq, Repr

/-- One delivery and its workers. -/
structure World where
  clock : ℤ
  row : Row
  /-- the attempt numbers, which are unique -/
  attempts : List ℕ
  /-- the endpoint is enabled -/
  enabled : Bool
  phase : WorkerID → Phase
  /-- the requests that were sent -/
  dispatched : ℕ

/-- A delivery that has just been created. -/
def World.created (clock : ℤ) : World := ⟨clock, ⟨.pending, 0, none, none⟩, [], true, fun _ => .idle, 0⟩

/-- What the outside world answers to a step. -/
structure Draw where
  /-- the event is there and the ring opens the secret -/
  found : Bool
  /-- the HTTP status; none for no response -/
  status : Option ℕ
  /-- `nextAttemptAt` -/
  later : ℤ
  deriving DecidableEq, Repr

/-- What happens to the delivery. -/
inductive Event where
  | tick (seconds : ℕ)
  /-- the endpoint is enabled or disabled from elsewhere -/
  | setEndpoint (enabled : Bool)
  | claim (k : WorkerID) (leaseExpiresAt : ℤ)
  | advance (k : WorkerID) (d : Draw)
  /-- the statement fails, before or after it took effect -/
  | fault (k : WorkerID) (d : Draw) (took : Bool)
  | crash (k : WorkerID)
  deriving DecidableEq, Repr

/-- The attempts after which a delivery is dead. -/
def maxDeliveryAttempts : ℕ := 15

/-- The rows `ClaimDue` may take. -/
def Row.claimable (clock : ℤ) (r : Row) : Bool :=
  (r.status = .pending ∨ r.status = .failed) ∧ r.nextAttemptAt.all (· ≤ clock) ∧ r.leaseExpiresAt.all (· < clock)

/-- The statement that ends an attempt. -/
def Row.mark (r : Row) (later : ℤ) : Mark → Row
  | .delivered => { r with status := .delivered, attemptCount := r.attemptCount + 1, leaseExpiresAt := none }
  | .failed =>
    { r with
      status := .failed, nextAttemptAt := some later, attemptCount := r.attemptCount + 1, leaseExpiresAt := none }
  | .dead => { r with status := .dead, leaseExpiresAt := none }

/-- The switch of `processDelivery` on what the receiver answered. -/
def settle (count : ℕ) (status : Option ℕ) : Phase :=
  if status.any fun s => 200 ≤ s ∧ s < 300 then .marking count .delivered
  else if status = some 410 then .disableEndpoint count
  else if maxDeliveryAttempts ≤ count + 1 then .marking count .dead
  else .marking count .failed

variable (w : World)

/-- A worker goes on. -/
def World.goto (k : WorkerID) (p : Phase) : World := { w with phase := Function.update w.phase k p }

/-- The statement of a worker that comes next. -/
def World.exec (k : WorkerID) (d : Draw) : World :=
  match w.phase k with
  | .idle => w
  | .getEndpoint count => w.goto k (if w.enabled then .getEvent count else .marking count .dead)
  | .getEvent count => w.goto k (if d.found then .dispatch count else .idle)
  | .dispatch count => { w.goto k (.recordAttempt count d.status) with dispatched := w.dispatched + 1 }
  | .recordAttempt count status =>
    if count + 1 ∈ w.attempts then w.goto k .idle
    else { w.goto k (settle count status) with attempts := w.attempts ++ [count + 1] }
  | .disableEndpoint count => { w.goto k (.marking count .dead) with enabled := false }
  | .marking _ m => { w.goto k .idle with row := w.row.mark d.later m }

/-- How a worker goes on after an error: it leaves the delivery leased, but a failed request is an
attempt, and a failed update of the endpoint is only logged. -/
def Phase.failed : Phase → Phase
  | .dispatch count => .recordAttempt count none
  | .disableEndpoint count => .marking count .dead
  | _ => .idle

/-- A claim, a statement of a worker, or its failure. -/
def World.step (w : World) : Event → World
  | .tick seconds => { w with clock := w.clock + seconds }
  | .setEndpoint enabled => { w with enabled := enabled }
  | .claim k leaseExpiresAt =>
    if w.phase k = .idle ∧ w.row.claimable w.clock then
      { w.goto k (.getEndpoint w.row.attemptCount)
        with row := { w.row with leaseExpiresAt := some leaseExpiresAt } }
    else w
  | .advance k d => w.exec k d
  | .fault k d took =>
    { (if took then w.exec k d else w) with phase := Function.update w.phase k (w.phase k).failed }
  | .crash k => w.goto k .idle

end Seev.Gateway.Delivery
