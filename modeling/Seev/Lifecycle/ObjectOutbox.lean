import Mathlib.Data.List.Sort
import Mathlib.Data.Int.Basic
import Seev.Lib.Run

/-!
# The outbox of object deletions

`Enqueue` and any number of calls of `ProcessOnce` on the outbox of one owner. A call claims its batch in a
statement that commits by itself; then each claimed row goes through the store's `Delete` and the marking
transaction, or through `markFailed`. Other calls run between any two of these steps, each of them may fail,
and a call may stop between any two of its own. The number of a row in the table is its id.

* `claimPending`: the rows of a batch, the oldest ones; `returning`: in the order in which the call gets them.
* `Call.next`: an error of a row ends with the row, not with the call.
-/

namespace Seev.Lifecycle.ObjectOutbox

/-- The status of an object that is to be deleted. -/
inductive Status where
  | pending
  | processing
  | done
  deriving DecidableEq, Repr

/-- A delete intent, without its last error. -/
structure Row where
  refTable : String
  refID : ℕ
  objectKey : String
  createdAt : ℤ
  status : Status
  attempts : ℕ
  deriving DecidableEq, Repr

/-- The next statement for the row at hand. -/
inductive Stage where
  | delete
  | mark
  | markFailed
  deriving DecidableEq, Repr

/-- A call of `ProcessOnce` after its claim. -/
structure Call where
  /-- the tables that the worker has a `Target` for -/
  targets : List String
  /-- the claimed rows that are left, first the one at hand -/
  claimed : List ℕ
  stage : Stage
  running : Bool
  deriving DecidableEq, Repr

/-- The outbox, the store and the calls in progress. -/
structure World where
  rows : List Row
  /-- the object keys whose `Delete` succeeded -/
  deleted : List String
  /-- the rows, by table and id, whose metadata are marked as deleted -/
  marked : List (String × ℕ)
  calls : List Call
  deriving DecidableEq, Repr

/-- Nothing was enqueued. -/
def World.empty : World := ⟨[], [], [], []⟩

/-- An object is enqueued, or a call goes on. -/
inductive Event where
  | enqueue (refTable : String) (refID : ℕ) (objectKey : String) (now : ℤ)
  /-- the claim of a call, which skips the `locked` rows and returns the others in some order: whether it took
  effect, and whether the call received it -/
  | start (targets : List String) (batchSize : ℕ) (locked order : List ℕ) (took received : Bool)
  | delete (k : ℕ) (ok : Bool)
  /-- the marking transaction, whether it committed -/
  | mark (k : ℕ) (committed : Bool)
  | markFailed (k : ℕ) (took : Bool)
  | crash (k : ℕ)
  deriving DecidableEq, Repr

/-- The rows of the subquery of `claimPending`, oldest first. -/
def World.claimPending (w : World) (batchSize : ℕ) (locked : List ℕ) : List ℕ :=
  let pending := (List.range w.rows.length).filter fun i =>
    decide (i ∉ locked) && w.rows[i]?.any (·.status = .pending)
  (pending.insertionSort fun i j => (w.rows[i]?.elim 0 Row.createdAt) ≤ (w.rows[j]?.elim 0 Row.createdAt)).take
    batchSize

/-- `UPDATE ... RETURNING` gives the rows in any order. -/
def returning (order ids : List ℕ) : List ℕ := ids.insertionSort fun i j => order.idxOf i ≤ order.idxOf j

/-- An update of the rows with the ids `ids`. -/
def World.update (w : World) (ids : List ℕ) (f : Row → Row) : World :=
  { w with rows := w.rows.mapIdx fun i r => if i ∈ ids then f r else r }

/-- A call has the row. -/
def Row.claim (r : Row) : Row := { r with status := .processing }

/-- The object is gone. -/
def Row.markDone (r : Row) : Row := { r with status := .done }

/-- The row is pending again. -/
def Row.markFailed (r : Row) : Row := { r with status := .pending, attempts := r.attempts + 1 }

/-- The call goes on to its next row, or returns. -/
def Call.next (c : Call) : Call :=
  { c with claimed := c.claimed.tail, stage := .delete, running := !c.claimed.tail.isEmpty }

/-- A call goes on. -/
def World.setCall (w : World) (k : ℕ) (c : Call) : World := { w with calls := w.calls.set k c }

/-- The running call `k` that is at a stage, with the row at hand. -/
def World.at (w : World) (k : ℕ) (s : Stage) : Option (Call × ℕ × Row) := do
  let c ← w.calls[k]?
  let i ← c.claimed.head?
  let r ← w.rows[i]?
  if c.running ∧ c.stage = s then some (c, i, r) else none

/-- A call claims a batch, and then deletes and marks row by row. -/
def World.step (w : World) : Event → World
  | .enqueue refTable refID objectKey now =>
    -- `ON CONFLICT (ref_table, ref_id) DO NOTHING`
    if w.rows.any fun r => r.refTable = refTable ∧ r.refID = refID then w
    else { w with rows := w.rows ++ [⟨refTable, refID, objectKey, now, .pending, 0⟩] }
  | .start targets batchSize locked order took received =>
    let ids := if took then returning order (w.claimPending batchSize locked) else []
    let claimed := if received then ids else []
    let w := w.update ids Row.claim
    { w with calls := w.calls ++ [⟨targets, claimed, .delete, !claimed.isEmpty⟩] }
  | .delete k ok =>
    match w.at k .delete with
    | none => w
    | some (c, _, r) =>
      if r.refTable ∉ c.targets then w.setCall k { c with stage := .markFailed }
      else if ok then { w.setCall k { c with stage := .mark } with deleted := r.objectKey :: w.deleted }
      else w.setCall k { c with stage := .markFailed }
  | .mark k committed =>
    match w.at k .mark with
    | none => w
    | some (c, i, r) =>
      -- an error of the transaction is returned as it is, without `markFailed`
      if committed then
        { (w.update [i] Row.markDone).setCall k c.next with marked := (r.refTable, r.refID) :: w.marked }
      else w.setCall k c.next
  | .markFailed k took =>
    match w.at k .markFailed with
    | none => w
    | some (c, i, _) => (if took then w.update [i] Row.markFailed else w).setCall k c.next
  | .crash k =>
    match w.calls[k]? with
    | none => w
    | some c => w.setCall k { c with running := false }

end Seev.Lifecycle.ObjectOutbox
