import Mathlib.Data.List.Basic

/-!
# Running a disbursement batch

A batch that was imported, with its items at their places in the file. `Run` takes one portion of the items that
still need an attempt and posts them; the operator calls it until it reports that it is done. The ledger posts an
item or rejects it for a business reason, and every statement succeeds.

* `Batch.run`: one call of `Run`.
* `Batch.runs`: the batch after a sequence of calls.
-/

namespace Seev.Ledger.Disbursement

/-- The status of a batch. -/
inductive BatchStatus where
  | pendingApproval
  | processing
  | completed
  | completedWithErrors
  | rejected
  deriving DecidableEq, Repr

/-- The status of an item. -/
inductive ItemStatus where
  | pending
  | posted
  | failed
  deriving DecidableEq, Repr

/-- What the ledger answers to the command of an item. -/
inductive Outcome where
  | posted
  | rejected
  deriving DecidableEq, Repr

/-- A batch; the item at place `i` has the `item_no` `i + 1`. -/
structure Batch where
  status : BatchStatus
  items : List ItemStatus
  /-- the places of the items in the order in which they were posted or rejected -/
  attempts : List ℕ
  deriving DecidableEq, Repr

/-- A batch of `n` items that a second operator has approved. -/
def Batch.approved (n : ℕ) : Batch := ⟨.processing, List.replicate n .pending, []⟩

/-- What `Run` reports. -/
structure RunResult where
  processed : ℕ
  posted : ℕ
  failed : ℕ
  done : Bool
  deriving DecidableEq, Repr

/-- Why `Run` refuses. -/
inductive RunError where
  | notApproved (status : BatchStatus)
  deriving DecidableEq, Repr

/-- The statuses that `ListItemsToProcess` selects. -/
def ItemStatus.toProcess (includeFailed : Bool) : ItemStatus → Bool
  | .pending => true
  | .posted => false
  | .failed => includeFailed

variable (b : Batch)

/-- `ListItemsToProcess`, with no limit: the items in the order of `item_no`. -/
def Batch.itemsToProcess (includeFailed : Bool) : List ℕ :=
  (List.range b.items.length).filter fun i => b.items[i]?.any (·.toProcess includeFailed)

/-- The items in status failed. -/
def Batch.failedItems : List ℕ := (List.range b.items.length).filter fun i => b.items[i]? = some .failed

/-- The status that an attempt leaves. -/
def Outcome.mark : Outcome → ItemStatus
  | .posted => .posted
  | .rejected => .failed

variable (outcome : ℕ → Outcome)

/-- The post of one item, and `MarkItemPosted` or `MarkItemFailed`. -/
def Batch.attempt (i : ℕ) : Batch :=
  { b with items := b.items.set i (outcome i).mark, attempts := b.attempts ++ [i] }

/-- The status of a batch that has nothing left to process. -/
def Batch.finalStatus : BatchStatus := if 0 < b.items.count .failed then .completedWithErrors else .completed

/-- `Run`: a portion of the items, and the batch is done when none is left. -/
def Batch.run (maxItemsPerRun : ℕ) (retryFailed : Bool) : Except RunError RunResult × Batch :=
  if b.status ≠ .processing then (.error (.notApproved b.status), b)
  else
    let items := (b.itemsToProcess retryFailed).take maxItemsPerRun
    let b' := items.foldl (·.attempt outcome ·) b
    let posted := items.countP (outcome · = .posted)
    let result := fun done => RunResult.mk items.length posted (items.length - posted) done
    -- the probe for what remains lists the failed items only if this call retries them
    if (b'.itemsToProcess retryFailed).take 1 = [] then
      (.ok (result true), { b' with status := b'.finalStatus })
    else (.ok (result false), b')

/-- The batch after the calls, each with its `retryFailed`. -/
def Batch.runs (maxItemsPerRun : ℕ) (calls : List Bool) : Batch :=
  calls.foldl (fun b retryFailed => (b.run outcome maxItemsPerRun retryFailed).2) b

/-- The call reports that the batch is done. -/
def Batch.reportsDone (maxItemsPerRun : ℕ) (retryFailed : Bool) : Bool :=
  match (b.run outcome maxItemsPerRun retryFailed).1 with
  | .ok result => result.done
  | .error _ => false

end Seev.Ledger.Disbursement
