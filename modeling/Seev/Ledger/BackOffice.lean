import Seev.Lib.Run

/-!
# The outcomes of back-office postings

A pending adjustment and an item of a disbursement batch, each with the calls that work on it. `Approve` and
`Run` infer the outcome from the error of the post, which opens a transaction of its own, and write it by id;
each statement is an event, which may fail with or without its effect. Other adjustments and items have keys
and rows of their own.

* `Row.exec`: what `Approve` and `Run` have in common, from the post on.
* `World.step`: the approval, the listing of the item, and the work of every call.
-/

namespace Seev.Ledger.BackOffice

open Lib

/-- The status of an adjustment. -/
inductive AdjustmentStatus where
  | pending
  | approved
  | rejected
  | executed
  | failed
  deriving DecidableEq, Repr

/-- The status of an item. -/
inductive ItemStatus where
  | pending
  | posted
  | failed
  deriving DecidableEq, Repr

/-- What became of a statement or a call. -/
inductive Answer where
  | ok
  /-- an error, and no effect -/
  | error
  /-- an error, although the transaction has committed -/
  | lost
  deriving DecidableEq, Repr

/-- The next statement of a call. -/
inductive Pc where
  /-- the stored payload of an adjustment is read -/
  | decode
  | post
  | getByIdempotencyKey
  | markPosted
  | markFailed
  | returned
  deriving DecidableEq, Repr

/-- The call has not returned. -/
def Pc.running (pc : Pc) : Bool := pc ≠ .returned

/-- The statuses of the two outcomes. -/
structure Marks (S : Type) where
  posted : S
  failed : S

/-- `MarkExecuted` and `MarkFailed`. -/
def adjustmentMarks : Marks AdjustmentStatus := ⟨.executed, .failed⟩

/-- `MarkItemPosted` and `MarkItemFailed`. -/
def itemMarks : Marks ItemStatus := ⟨.posted, .failed⟩

/-- A row, whether a transaction is posted under its idempotency key, and the calls that work on it. -/
structure Row (S : Type) where
  status : S
  posted : Bool
  calls : List Pc
  deriving DecidableEq, Repr

variable {S : Type} (m : Marks S)

/-- One statement of a call. A post under a key that has a transaction is answered without another one. -/
def Row.exec (r : Row S) : Pc → Answer → Pc × Row S
  | .decode, .ok => (.post, r)
  | .decode, _ => (.markFailed, r)
  | .post, .ok => (.getByIdempotencyKey, { r with posted := true })
  | .post, .error => (.markFailed, r)
  -- the error does not tell whether the transaction has committed
  | .post, .lost => (.markFailed, { r with posted := true })
  | .getByIdempotencyKey, .ok => (.markPosted, r)
  | .getByIdempotencyKey, _ => (.returned, r)
  | .markPosted, .error => (.returned, r)
  | .markPosted, _ => (.returned, { r with status := m.posted })
  | .markFailed, .error => (.returned, r)
  -- no condition on the status, which another call may have written since
  | .markFailed, _ => (.returned, { r with status := m.failed })
  | .returned, _ => (.returned, r)

/-- What happens to one call. -/
inductive Work where
  | statement (k : ℕ) (a : Answer)
  | crash (k : ℕ)
  deriving DecidableEq, Repr

/-- A call executes its next statement, or ends. -/
def Row.work (r : Row S) : Work → Row S
  | .statement k a =>
    match r.calls[k]? with
    | some pc =>
      let (pc', r') := r.exec m pc a
      { r' with calls := r'.calls.set k pc' }
    | none => r
  | .crash k => { r with calls := r.calls.set k .returned }

/-- A call begins at a statement. -/
def Row.start (r : Row S) (pc : Pc) : Row S := { r with calls := r.calls ++ [pc] }

/-- `MarkApproved`; the call that it lets through goes on with the payload. -/
def approve (r : Row AdjustmentStatus) : Answer → Row AdjustmentStatus
  | .ok => if r.status = .pending then Row.start { r with status := .approved } .decode else r
  | .error => r
  | .lost => if r.status = .pending then { r with status := .approved } else r

/-- `MarkRejected` with its event. -/
def reject (r : Row AdjustmentStatus) : Answer → Row AdjustmentStatus
  | .error => r
  | _ => if r.status = .pending then { r with status := .rejected } else r

/-- `ListItemsToProcess` of a `Run` whose batch is processing. -/
def list (r : Row ItemStatus) (retryFailed : Bool) : Row ItemStatus :=
  if r.status = .pending ∨ (r.status = .failed ∧ retryFailed) then r.start .post else r

/-- An adjustment and an item. -/
structure World where
  adjustment : Row AdjustmentStatus
  item : Row ItemStatus
  deriving DecidableEq, Repr

/-- An adjustment that was requested and an item that was imported. -/
def World.created : World := ⟨⟨.pending, false, []⟩, ⟨.pending, false, []⟩⟩

/-- A call begins or goes on. -/
inductive Event where
  | approve (a : Answer)
  | reject (a : Answer)
  | adjustment (e : Work)
  | list (retryFailed : Bool)
  | item (e : Work)
  deriving DecidableEq, Repr

/-- The two rows do not depend on each other. -/
def World.step (w : World) : Event → World
  | .approve a => { w with adjustment := BackOffice.approve w.adjustment a }
  | .reject a => { w with adjustment := BackOffice.reject w.adjustment a }
  | .adjustment e => { w with adjustment := w.adjustment.work adjustmentMarks e }
  | .list retryFailed => { w with item := BackOffice.list w.item retryFailed }
  | .item e => { w with item := w.item.work itemMarks e }

end Seev.Ledger.BackOffice
