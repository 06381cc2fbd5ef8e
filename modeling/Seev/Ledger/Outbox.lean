import Mathlib.Algebra.Order.Ring.Int
import Seev.Lib.Run

/-!
# The relay of one outbox event

One row of `outbox_events` and the attempts of the relay replicas to publish it. The statements touch each row by
itself, so that what a batch does for other events only lets time pass. Claim, publish and mark are steps of their
own; an attempt may stop between any two of them, and a statement may take effect although its caller has
failed. Times are in microseconds.

* `checkDeadLetter`: the trigger `trg_outbox_dead_letter`.
* `markFailed`: refused by `chk_published_at` for a row that has been published.
-/

namespace Seev.Ledger.Outbox

/-- The status of an event. -/
inductive Status where
  | pending
  | processing
  | published
  | failed
  | dead
  deriving DecidableEq, Repr

/-- The columns that the relay reads and writes, but for `last_error`. -/
structure Row where
  status : Status
  retryCount : ℕ
  maxRetries : ℕ
  lastAttemptedAt : Option ℤ
  nextAttemptAt : Option ℤ
  publishedAt : Option ℤ
  deriving DecidableEq, Repr

/-- What became of a call of `PublishTo`. -/
inductive Outcome where
  | accepted
  | failed
  /-- the broker accepted the event, and the caller has an error -/
  | unconfirmed
  deriving DecidableEq, Repr

/-- The work of a replica on the event, from its claim on. -/
structure Attempt where
  outcome : Option Outcome
  /-- the mark took effect -/
  marked : Bool
  running : Bool
  deriving DecidableEq, Repr

/-- One event and the attempts to publish it. -/
structure World where
  clock : ℤ
  row : Row
  attempts : List Attempt
  deriving DecidableEq, Repr

/-- An event that was inserted, with the number of retries of its row. -/
def World.inserted (clock : ℤ) (maxRetries : ℕ) : World :=
  ⟨clock, ⟨.pending, 0, maxRetries, none, none, none⟩, []⟩

/-- What happens to the event. -/
inductive Event where
  | tick (micros : ℕ)
  | claimPending
  | claimFailedForRetry
  | publish (k : ℕ) (o : Outcome)
  /-- the mark of the outcome, whether it takes effect, and the random part of the backoff -/
  | mark (k : ℕ) (took : Bool) (jitter : ℕ)
  /-- with the deadline of the reaper in seconds -/
  | reapStuck (olderThan : ℕ)
  | replayDead
  | crash (k : ℕ)
  deriving DecidableEq, Repr

/-- The trigger that ends an event without retries left. -/
def Row.checkDeadLetter (r : Row) : Row :=
  if r.status = .failed ∧ r.maxRetries ≤ r.retryCount then { r with status := .dead } else r

variable (clock : ℤ) (r : Row)

/-- A pass takes the event. -/
def Row.claim : Row := { r with status := .processing, lastAttemptedAt := some clock }

/-- The rows that `ClaimFailedForRetry` may take. -/
def Row.retryable : Bool :=
  r.status = .failed ∧ r.retryCount < r.maxRetries ∧ r.nextAttemptAt.all (· ≤ clock)

/-- The broker has accepted it. -/
def Row.markPublished : Row := { r with status := .published, publishedAt := some clock }

/-- `LEAST(900, 30 * POWER(2, retry_count + 1))` seconds, and up to half of them more. -/
def Row.backoff (jitter : ℕ) : ℕ :=
  let delay := min 900 (30 * 2 ^ (r.retryCount + 1)) * 1000000
  delay + jitter % (delay / 2)

/-- Another attempt is due after the backoff. -/
def Row.markFailed (jitter : ℕ) : Row :=
  -- the update names the row by its id only; it is the constraint that refuses it
  if r.publishedAt.isSome then r
  else
    Row.checkDeadLetter
      { r with
        status := .failed, retryCount := r.retryCount + 1, lastAttemptedAt := some clock
        nextAttemptAt := some (clock + r.backoff jitter) }

/-- The rows that `ReapStuck` takes. -/
def Row.stuck (olderThan : ℕ) : Bool :=
  r.status = .processing ∧ r.lastAttemptedAt.any (· < clock - olderThan * 1000000)

/-- The count of the retries stays: the reaper cannot know what became of the publish. -/
def Row.reap : Row := Row.checkDeadLetter { r with status := .failed, nextAttemptAt := some clock }

/-- An administrator starts it over. -/
def Row.replayDead : Row :=
  Row.checkDeadLetter { r with status := .failed, retryCount := 0, nextAttemptAt := some clock }

/-- `MarkPublished` or `MarkFailed`. -/
def Row.mark (jitter : ℕ) : Outcome → Row
  | .accepted => r.markPublished clock
  | .failed => r.markFailed clock jitter
  | .unconfirmed => r.markFailed clock jitter

variable (w : World)

/-- The attempt of a pass begins. -/
def World.claim : World := { w with row := w.row.claim w.clock, attempts := w.attempts ++ [⟨none, false, true⟩] }

/-- A claim, a publication, its mark, or the reaper. -/
def World.step (w : World) : Event → World
  | .tick micros => { w with clock := w.clock + micros }
  | .claimPending => if w.row.status = .pending then w.claim else w
  | .claimFailedForRetry => if w.row.retryable w.clock then w.claim else w
  | .publish k o =>
    match w.attempts[k]? with
    | some ⟨none, marked, true⟩ => { w with attempts := w.attempts.set k ⟨some o, marked, true⟩ }
    | _ => w
  | .mark k took jitter =>
    match w.attempts[k]? with
    | some ⟨some o, false, true⟩ =>
      -- after an error of the mark the replica goes on to the next event
      { w with
        row := if took then w.row.mark w.clock jitter o else w.row
        attempts := w.attempts.set k ⟨some o, took, false⟩ }
    | _ => w
  | .reapStuck olderThan => if w.row.stuck w.clock olderThan then { w with row := w.row.reap w.clock } else w
  | .replayDead => if w.row.status = .dead then { w with row := w.row.replayDead w.clock } else w
  | .crash k =>
    match w.attempts[k]? with
    | some a => { w with attempts := w.attempts.set k { a with running := false } }
    | none => w

end Seev.Ledger.Outbox
