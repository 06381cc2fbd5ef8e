import Seev.Lib.Run
import Seev.Scheduling.Cron

/-!
# Replicas of a cron job

The loops of several replicas that run one job over a shared lock. Each replica has a clock of its own and
fires the job when that clock has reached `NextRun`; what it fires is an execution, which takes the lock, runs
for as long as it likes and unlocks. The lock expires by the clock of its provider.

* `Cluster.step`: one step of a replica, of an execution or of time.
* `MemoryLock` and `RedisLock` differ in `Unlock`: the one deletes the entry, the other an entry with its id,
  which is one for all executions of a replica.
-/

namespace Seev.Scheduling

/-- An execution is known by its number. -/
abbrev ExecutionID := ℕ

/-- Where an execution of the job is. -/
inductive Phase where
  /-- before `TryLock` -/
  | spawned
  /-- without the lock -/
  | skipped
  /-- the job runs, under a lock until this time -/
  | running (expires : ℤ)
  | done
  deriving DecidableEq, Repr

variable {R : Type}

/-- A goroutine that a replica has started for a tick. -/
structure Execution (R : Type) where
  replica : R
  /-- the `NextRun` it was fired for -/
  tick : ℤ
  phase : Phase
  deriving DecidableEq, Repr

/-- `MemoryLock` and `RedisLock`. -/
inductive LockProvider where
  | memory
  | redis
  deriving DecidableEq, Repr

/-- The entry of the lock, with the execution that made it. -/
structure Entry where
  id : String
  expires : ℤ
  holder : ExecutionID
  deriving DecidableEq, Repr

/-- What does not change: the job, its locker and the replicas that run it. -/
structure Cluster (R : Type) where
  cron : Cron
  /-- of the schedulers' location, in seconds -/
  offset : ℤ
  timeout : ℤ
  locker : LockProvider
  instanceID : R → String
  /-- a replica's clock less that of the lock -/
  skew : R → ℤ

/-- The replicas of a service, with the lock of the job. -/
structure Replicas (R : Type) where
  /-- the clock of the lock -/
  now : ℤ
  /-- of the replicas that have the job -/
  nextRun : R → Option ℤ
  lock : Option Entry
  executions : List (Execution R)

/-- No replica has the job yet. -/
def Replicas.init (now : ℤ) : Replicas R := ⟨now, fun _ => none, none, []⟩

/-- What happens to one replica or to the lock. -/
inductive Event (R : Type) where
  | advance (d : ℕ)
  /-- `Scheduler.Cron` -/
  | start (r : R)
  /-- the loop takes the job that is due -/
  | fire (r : R)
  /-- `TryLock`, and whether it fails -/
  | tryLock (k : ExecutionID) (failed : Bool)
  /-- the run is over; `Unlock`, and whether it fails -/
  | unlock (k : ExecutionID) (failed : Bool)
  | crash (r : R)
  deriving DecidableEq, Repr

/-- What the lock outlasts the timeout by. -/
def lockBuffer : ℤ := 10 * second

variable (C : Cluster R) (w : Replicas R)

/-- How long a lock is taken for. -/
def Cluster.lockTTL : ℤ := C.timeout + lockBuffer

/-- `time.Now()` of a replica. -/
def Cluster.clock (r : R) : ℤ := w.now + C.skew r

/-- Whether `TryLock` finds an entry that has not expired. -/
def Replicas.locked : Bool := w.lock.any fun e => w.now < e.expires

/-- An execution goes on. -/
def Replicas.setPhase (k : ExecutionID) (x : Execution R) (p : Phase) : Replicas R :=
  { w with executions := w.executions.set k { x with phase := p } }

/-- `TryLock`: a lock that has expired is free. -/
def Cluster.tryLock (k : ExecutionID) (failed : Bool) (x : Execution R) : Replicas R :=
  if failed ∨ w.locked then w.setPhase k x .skipped
  else
    { w.setPhase k x (.running (w.now + C.lockTTL)) with
      lock := some ⟨C.instanceID x.replica, w.now + C.lockTTL, k⟩ }

/-- `Unlock` of a replica. -/
def Cluster.release (r : R) : Option Entry :=
  match C.locker with
  | .memory => none
  | .redis => if w.locked ∧ w.lock.any fun e => e.id = C.instanceID r then none else w.lock

/-- What a crash leaves of an execution. -/
def Phase.crashed : Phase → Phase
  | .spawned => .skipped
  | .running _ => .done
  | p => p

variable [DecidableEq R]

/-- One event; those that do not apply leave the replicas. -/
def Cluster.step (w : Replicas R) : Event R → Replicas R
  | .advance d => { w with now := w.now + d }
  | .start r =>
    match w.nextRun r with
    | none => { w with nextRun := Function.update w.nextRun r (C.cron.next C.offset (C.clock w r)) }
    | some _ => w
  | .fire r =>
    match w.nextRun r with
    | none => w
    | some tick =>
      if C.clock w r < tick then w
      else
        { w with
          nextRun := Function.update w.nextRun r (C.cron.next C.offset (C.clock w r))
          executions := w.executions ++ [⟨r, tick, .spawned⟩] }
  | .tryLock k failed =>
    match w.executions[k]? with
    | some x => if x.phase = .spawned then C.tryLock w k failed x else w
    | none => w
  | .unlock k failed =>
    match w.executions[k]? with
    | some x =>
      match x.phase with
      | .running _ => { w.setPhase k x .done with lock := if failed then w.lock else C.release w x.replica }
      | _ => w
    | none => w
  | .crash r =>
    { w with
      nextRun := Function.update w.nextRun r none
      executions := w.executions.map fun x => if x.replica = r then { x with phase := x.phase.crashed } else x }

end Seev.Scheduling
