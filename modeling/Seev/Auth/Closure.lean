import Seev.Lib.Run

/-!
# The account closure saga

A closure request of `privacy_requests`, with the workers that hold it. `ProcessOnePendingClosure` claims a
request in a transaction that ends before its step begins, so any number of workers may hold the same request;
each statement of a step is an event of its own, with what it answers. A claim is an event that takes place
when the request is due: nothing else reads the clock.

* `Request.exec`: one statement of `closureStepPrepare`, `closureStepCommit`, `closureStepFinalize` or
  `closureRetryOrDead`.
* `World.requestClosure`: the request of a user, against their status and their requests.
-/

namespace Seev.Auth.Closure

open Lib

/-- The status of a closure request. -/
inductive Status where
  | pending
  | preparing
  | committing
  | completed
  | blocked
  | dead
  deriving DecidableEq, Repr

/-- The phase of an owner in `owner_checkpoints`. -/
inductive Phase where
  | prepared
  | committed
  deriving DecidableEq, Repr

variable {O : Type*} [DecidableEq O]

/-- What the owners were asked: a `Prepare` that found no blocker, or a `Commit`. -/
inductive Call (O : Type*) where
  | prepared (owner : O)
  | commit (owner : O)
  deriving DecidableEq, Repr

/-- What a call of the saga answers. -/
inductive Answer where
  | ok
  /-- only of a check: `localClosureBlockers` or the `Prepare` of an owner -/
  | blocked
  | error
  deriving DecidableEq, Repr

/-- The next statement of a worker. The two loops over the owners have the checkpoints they loaded at their start,
and the owners that remain. -/
inductive Pc (O : Type*) where
  | localClosureBlockers
  | loadClosureCheckpoints (phase : Phase)
  | owners (phase : Phase) (loaded : O → Option Phase) (blocked : Bool) (rest : List O)
  /-- `closureCheckpointOwner` reads the column and writes it back -/
  | checkpointRead (phase : Phase) (loaded : O → Option Phase) (blocked : Bool) (owner : O) (rest : List O)
  | checkpointWrite (phase : Phase) (loaded : O → Option Phase) (blocked : Bool) (merged : O → Option Phase)
      (rest : List O)
  | block
  | closureAdvanceStatus (next : Status)
  | closureStepFinalize
  /-- `closureRetryOrDead` reads `retry_count` and writes it back -/
  | retryRead
  | retryWrite (retryCount : ℕ)
  | returned

/-- The step is not over. -/
def Pc.running : Pc O → Bool
  | .returned => false
  | _ => true

/-- A row of `privacy_requests` with the workers that hold it. -/
structure Request (O : Type*) where
  status : Status
  ownerCheckpoints : O → Option Phase
  retryCount : ℕ
  workers : List (Pc O)
  /-- the calls of the owners so far, in order -/
  calls : List (Call O)

/-- The row that `RequestClosure` inserts. -/
def Request.created : Request O := ⟨.pending, fun _ => none, 0, [], []⟩

/-- The failures after which a request is dead. -/
def closureMaxRetries : ℕ := 5

/-- The statement after the loop over the owners. -/
def afterOwners : Phase → Bool → Pc O
  | .prepared, true => .block
  | .prepared, false => .closureAdvanceStatus .preparing
  | .committed, _ => .closureAdvanceStatus .committing

variable (all : List O)

/-- One statement of a worker, with its answer: the statement after it, and the request. -/
def Request.exec (r : Request O) : Pc O → Answer → Pc O × Request O
  | .localClosureBlockers, .ok => (.loadClosureCheckpoints .prepared, r)
  | .localClosureBlockers, .blocked => (.block, r)
  | .localClosureBlockers, .error => (.retryRead, r)
  | .loadClosureCheckpoints phase, .ok => (.owners phase r.ownerCheckpoints false all, r)
  | .owners phase _ blocked [], _ => (afterOwners phase blocked, r)
  | .owners phase loaded blocked (owner :: rest), answer =>
    -- skipped, if the checkpoints at the start of the step have it; what other workers wrote since is not seen
    if loaded owner = some phase then (.owners phase loaded blocked rest, r)
    else
      match phase, answer with
      | .prepared, .ok =>
        (.checkpointRead .prepared loaded blocked owner rest, { r with calls := r.calls ++ [.prepared owner] })
      -- the other owners are still asked
      | .prepared, .blocked => (.owners .prepared loaded true rest, r)
      | .prepared, .error => (.retryRead, r)
      | .committed, .ok =>
        (.checkpointRead .committed loaded blocked owner rest, { r with calls := r.calls ++ [.commit owner] })
      | .committed, _ => (.retryRead, { r with calls := r.calls ++ [.commit owner] })
  | .checkpointRead phase loaded blocked owner rest, .ok =>
    (.checkpointWrite phase loaded blocked (Function.update r.ownerCheckpoints owner (some phase)) rest, r)
  | .checkpointWrite phase loaded blocked merged rest, .ok =>
    (.owners phase loaded blocked rest, { r with ownerCheckpoints := merged })
  | .block, .ok => (.returned, { r with status := .blocked })
  | .closureAdvanceStatus next, .ok => (.returned, { r with status := next, retryCount := 0 })
  | .closureStepFinalize, .ok => (.returned, { r with status := .completed })
  | .closureStepFinalize, _ => (.retryRead, r)
  | .retryRead, .ok => (.retryWrite (r.retryCount + 1), r)
  | .retryWrite n, .ok =>
    (.returned, if closureMaxRetries ≤ n then { r with status := .dead, retryCount := n }
      else { r with retryCount := n })
  -- the step returns the error of the statement
  | _, _ => (.returned, r)

/-- What happens to one request. -/
inductive SagaEvent where
  | claim
  | work (k : ℕ) (answer : Answer)
  | crash (k : ℕ)
  deriving DecidableEq, Repr

/-- The first statement of the step that `ProcessOnePendingClosure` takes for the status. -/
def firstStatement : Status → Option (Pc O)
  | .pending => some .localClosureBlockers
  | .preparing => some (.loadClosureCheckpoints .committed)
  | .committing => some .closureStepFinalize
  | _ => none

/-- A claim, a statement of a worker, or its end. -/
def Request.step (r : Request O) : SagaEvent → Request O
  | .claim =>
    match firstStatement r.status with
    -- the transaction of the claim ends here, and its row lock with it
    | some pc => { r with workers := r.workers ++ [pc] }
    | none => r
  | .work k answer =>
    match r.workers[k]? with
    | some pc =>
      let (pc', r') := r.exec all pc answer
      { r' with workers := r'.workers.set k pc' }
    | none => r
  | .crash k => { r with workers := r.workers.set k .returned }

/-! ## The user -/

/-- The status of a user. -/
inductive UserStatus where
  | active
  | disabled
  | closing
  | closed
  deriving DecidableEq, Repr

/-- A user and their closure requests, in the order of the inserts. -/
structure World (O : Type*) where
  user : UserStatus
  requests : List (Request O)

/-- A call of `RequestClosure`, or a step of the saga of a request. -/
inductive Event where
  /-- with the status that `GetUserByID` returned -/
  | requestClosure (read : UserStatus)
  | saga (i : ℕ) (e : SagaEvent)
  deriving DecidableEq, Repr

/-- What `RequestClosure` answers. -/
inductive Reply where
  | created
  /-- the request that `uq_privacy_requests_active_per_user` let through -/
  | existing
  | userDisabled
  deriving DecidableEq, Repr

/-- The statuses in the predicate of the unique index. -/
def Status.active : Status → Bool
  | .pending => true
  | .preparing => true
  | .committing => true
  | _ => false

/-- The status is checked as it was read, and again when the user is updated. -/
def World.requestClosure (w : World O) (read : UserStatus) : Reply × World O :=
  if read ≠ .active ∧ read ≠ .closing then (.userDisabled, w)
  else if w.requests.any (·.status.active) then (.existing, w)
  else if w.user ≠ .active then (.userDisabled, w)
  else (.created, { user := .closing, requests := w.requests ++ [.created] })

/-- The transaction of `closureStepFinalize` also closes the user. -/
def Request.finalizes (r : Request O) : SagaEvent → Bool
  | .work k .ok =>
    match r.workers[k]? with
    | some .closureStepFinalize => true
    | _ => false
  | _ => false

/-- The last statement of a saga closes the user. -/
def World.step (w : World O) : Event → World O
  | .requestClosure read => (w.requestClosure read).2
  | .saga i e =>
    match w.requests[i]? with
    | some r =>
      { user := if r.finalizes e then .closed else w.user
        requests := w.requests.set i (r.step all e) }
    | none => w

/-- A user who registered. -/
def World.registered : World O := ⟨.active, []⟩

end Seev.Auth.Closure
