import Seev.Ledger.World

/-!
# `Executor.Execute` and the velocity policy

The boundary in front of `Handle`: the amount, the subject, the limits, the audit record, the posting and,
last, the velocity counters. Executions follow one another, so a `Handle` call runs its statements to the
end (`handle`). What the outside world answers to one execution is its `Draw`.

* `check`, `record`: the limits of a user, and the counters of the windows they are about.
* `execute`: one execution.
* `State.step`: executions, and the passing of time.
-/

namespace Seev.Ledger

open Lib

/-! ## `Handle`, uninterrupted -/

/-- The insert of the session ends in `ErrAlreadyPosted`, which only `handleDuplicate` returns. -/
def Session.alreadyPosted (E : Env) (db : Db) (s : Session) : Bool :=
  match s.phase, insertTx E db.txs (insertParams s.rc s.txID) with
  | .insert, .error .duplicateKey => (handleDuplicate E db s.rc).sentinel = some .alreadyPosted
  | _, _ => false

/-- The statements of a session that nobody disturbs: the committed state, and whether `transfer` returned
nil or `ErrAlreadyPosted`. -/
def Session.complete (E : Env) (now : ℕ) (db : Db) : ℕ → Session → Db × Bool
  | 0, _ => (db, false)
  | n + 1, s =>
    match s.phase with
    | .commit => (s.view db, true)
    | .commitFailed => (s.view db, false)
    | _ =>
      match s.exec E now db with
      | .error _ => (db, s.alreadyPosted E db)
      | .ok s' => s'.complete E now db n

/-- `Handle`: thirteen statements with the commit. -/
def handle (E : Env) (now : ℕ) (db : Db) (txID : UUID) (cmd : Command) : Db × Bool :=
  match prepare E db now cmd with
  | .error _ => (db, false)
  | .ok rc => (Session.start rc 0 txID).complete E now db 13

namespace Executor

/-! ## Contexts and subjects -/

/-- What the caller says of a command. -/
structure ExecutionContext where
  source : String
  currency : Currency
  /-- the zero time is absent -/
  effectiveTime : Option ℕ

/-- `normalized`, and the currency of the command. -/
def ExecutionContext.normalized (x : ExecutionContext) (now : ℕ) (cmd : Command) : ExecutionContext :=
  ⟨if x.source = "" then "unknown" else x.source, if x.currency = "" then cmd.currency else x.currency,
    some (x.effectiveTime.getD now)⟩

/-- How the executor is set up. -/
structure Config where
  /-- `strings.ToLower` -/
  toLower : String → String
  /-- a policy is configured -/
  policy : Bool
  /-- the audit sink is configured -/
  audit : Bool
  minKYC : ℤ
  /-- `Format("2006-01-02")` and `Format("2006-01")` in the location of the engine -/
  dayOf : ℕ → ℕ
  monthOf : ℕ → ℕ

/-- The sources that are exempt. -/
def trustedSources : List String := ["internal-service", "internal-worker", "system"]

/-- The limits apply to the source. -/
def policyApplies (C : Config) (source : String) : Bool := C.toLower source ∉ trustedSources

/-- The gate trims the source, and the policy does not. -/
def subjectGateApplies (C : Config) (source : String) : Bool := C.toLower (trimSpace source) ∉ trustedSources

/-- `ExecutionSubject` -/
structure SubjectState where
  status : String
  tenantStatus : String
  kycLevel : ℤ
  kycVerifiedUntil : Option ℕ

/-- `SubjectAuthorizer.Authorize`: the reason of a refusal. -/
def authorize (C : Config) (effectiveTime : ℕ) : Option SubjectState → Option String
  | none => some "subject state unavailable"
  | some s =>
    if s.status ≠ "" ∧ s.status ≠ "active" then some "subject_disabled"
    else if s.tenantStatus ≠ "" ∧ s.tenantStatus ≠ "active" then some "tenant_disabled"
    else if s.kycLevel < (if C.minKYC = 0 then 1 else C.minKYC) then some "kyc_required"
    else if s.kycVerifiedUntil.any (· ≤ effectiveTime) then some "kyc_expired"
    else none

/-! ## Limits -/

/-- A row of the limits; an absent bound does not limit. -/
structure Limit where
  maxPerTx : Option ℤ
  maxDailyAmount : Option ℤ
  maxDailyCount : Option ℤ
  maxMonthlyAmount : Option ℤ
  enabled : Bool

/-- What a counter counts. -/
inductive Window where
  | dailyAmount (day : ℕ)
  | dailyCount (day : ℕ)
  | monthlyAmount (month : ℕ)
  deriving DecidableEq, Repr

/-- The key of a counter; IDR and no currency share one. -/
structure CounterKey where
  userID : UUID
  type : TxType
  currency : Option Currency
  window : Window
  deriving DecidableEq, Repr

/-- What the outside world answers to one execution. -/
structure Draw where
  /-- none is a failed lookup -/
  subject : Option SubjectState
  /-- `getLimit`, from the table or the cache: none is an error, `some none` no row -/
  limit : Option (Option Limit)
  /-- the counter answers for the key -/
  up : CounterKey → Bool
  /-- `RecordPolicyDecision` succeeds -/
  audited : Bool

variable (C : Config) (E : Env)

/-- The key of a counter; rupiah is not named in it. -/
def counterKey (cmd : Command) (x : ExecutionContext) (window : Window) : CounterKey :=
  ⟨cmd.userID, cmd.type, if x.currency = "" ∨ x.currency = "IDR" then none else some x.currency, window⟩

/-- One dimension: a limit that is not set is passed, and a counter that does not answer ends the check. -/
def checkCounter (max : Option ℤ) (cur : Option ℤ) (exceeds : ℤ → ℤ → Bool) (rule : String)
    (detail : ℤ → ℤ → String)
    (next : Option (String × String)) : Option (String × String) :=
  match max, cur with
  | none, _ => next
  | some _, none => none
  | some max, some cur => if exceeds max cur then some (rule, detail max cur) else next

/-- `check`: the rule and the detail of a refusal. -/
def check (get : CounterKey → Option ℤ) (now : ℕ) (cmd : Command) (x : ExecutionContext) :
    Option (Option Limit) → Option (String × String)
  | none | some none => none
  | some (some limit) =>
    if !limit.enabled then none
    else if limit.maxPerTx.any fun max => (max : ℚ) < cmd.amount then
      some ("max_per_tx", "amount " ++ E.text.decimalString cmd.amount ++ " exceeds per-transaction limit "
        ++ E.text.decimalString ((limit.maxPerTx.getD 0 : ℤ) : ℚ))
    else
      checkCounter limit.maxDailyAmount (get (counterKey cmd x (.dailyAmount (C.dayOf now))))
        (fun max cur => (max : ℚ) < cur + cmd.amount) "max_daily_amount"
        (fun max cur => "would exceed daily amount limit " ++ toString max ++ " (used " ++ toString cur
          ++ " so far today)")
        (checkCounter limit.maxDailyCount (get (counterKey cmd x (.dailyCount (C.dayOf now))))
          (fun max cur => max < cur + 1) "max_daily_count"
          (fun max cur => "would exceed daily count limit " ++ toString max ++ " (used " ++ toString cur
            ++ " so far today)")
          (checkCounter limit.maxMonthlyAmount (get (counterKey cmd x (.monthlyAmount (C.monthOf now))))
            (fun max cur => (max : ℚ) < cur + cmd.amount) "max_monthly_amount"
            (fun max cur =>
              "would exceed monthly amount limit " ++ toString max ++ " (used " ++ toString cur
                ++ " so far this month)")
            none))

/-- What a recorded transaction adds to a counter. -/
def usage (now : ℕ) (cmd : Command) (x : ExecutionContext) (k : CounterKey) : ℤ :=
  (if k = counterKey cmd x (.dailyAmount (C.dayOf now)) then cmd.amount.intPart else 0) +
  (if k = counterKey cmd x (.dailyCount (C.dayOf now)) then 1 else 0) +
  (if k = counterKey cmd x (.monthlyAmount (C.monthOf now)) then cmd.amount.intPart else 0)

/-- `record`: an increment that fails is only logged. -/
def record (now : ℕ) (cmd : Command) (x : ExecutionContext) (up : CounterKey → Bool) (counters : CounterKey → ℤ) :
    CounterKey → ℤ := fun k => if up k then counters k + usage C now cmd x k else counters k

/-! ## `Execute` -/

/-- Why a command was not posted. -/
inductive Refusal where
  | auditNotConfigured
  | auditFailed
  | amountInvalid
  | subject (reason : String)
  | policyLimitExceeded (rule detail : String)
  | handle
  deriving DecidableEq, Repr

/-- A command that was posted, as its first success resolved it. -/
structure Posting where
  cmd : Command
  rc : ResolvedCommand
  context : ExecutionContext
  time : ℕ

/-- The ledger and the counters. -/
structure State where
  db : Db
  now : ℕ
  counters : CounterKey → ℤ
  /-- the commands that were posted, each scope and key once -/
  posted : List Posting

/-- No counter has counted. -/
def State.init (db : Db) (now : ℕ) : State := ⟨db, now, fun _ => 0, []⟩

/-- The command has the scope and key of one that was posted. -/
def Posting.sameKey (cmd : Command) (p : Posting) : Bool :=
  p.cmd.idempotencyScope = cmd.idempotencyScope ∧ p.cmd.idempotencyKey = cmd.idempotencyKey

/-- `ValidatePositiveMinorAmount` -/
def validAmount (amount : Decimal) : Bool := 0 < amount ∧ amount.isInteger ∧ amount ≤ (Decimal.maxInt64 : ℤ)

/-- `policyApplies`, for a configured policy. -/
def metered (x : ExecutionContext) : Bool := C.policy ∧ policyApplies C x.source

/-- `recordDecision`: without a sink there is nothing to fail. -/
def recorded (d : Draw) : Bool := !C.audit || d.audited

/-- The checks of `Execute` before the posting, with their audit records. -/
def refusal (s : State) (cmd : Command) (x : ExecutionContext) (d : Draw) : Option Refusal :=
  if subjectGateApplies C x.source ∧ !C.audit then some .auditNotConfigured
  else if !validAmount cmd.amount then some (if recorded C d then .amountInvalid else .auditFailed)
  else
    match if cmd.userID = UUID.nil ∨ !subjectGateApplies C x.source then none
      else authorize C (x.effectiveTime.getD s.now) d.subject with
    | some reason => some (if recorded C d then .subject reason else .auditFailed)
    | none =>
      match if metered C x then check C E (fun k => if d.up k then some (s.counters k) else none) s.now cmd x
        d.limit
        else none with
      | some (rule, detail) => some (if recorded C d then .policyLimitExceeded rule detail else .auditFailed)
      | none => if recorded C d then none else some .auditFailed

/-- `Execute` -/
def execute (s : State) (txID : UUID) (cmd : Command) (context : ExecutionContext) (d : Draw) :
    State × Option Refusal :=
  let x := context.normalized s.now cmd
  match refusal C E s cmd x d with
  | some refusal => (s, some refusal)
  | none =>
    let (db, ok) := handle E s.now s.db txID cmd
    if ok then
      ({ s with
        db := db
        counters := if metered C x then record C s.now cmd x d.up s.counters else s.counters
        posted :=
          match prepare E s.db s.now cmd with
          | .ok rc => if s.posted.any (Posting.sameKey cmd) then s.posted else s.posted ++ [⟨cmd, rc, x, s.now⟩]
          | .error _ => s.posted }, none)
    else ({ s with db := db }, some .handle)

/-- A command comes in, or time passes. -/
inductive Event where
  | execute (txID : UUID) (cmd : Command) (context : ExecutionContext) (d : Draw)
  | tick (d : ℕ)

/-- The commands run one after the other. -/
def State.step (s : State) : Event → State
  | .execute txID cmd context d => (Executor.execute C E s txID cmd context d).1
  | .tick d => { s with now := s.now + d }

end Executor

end Seev.Ledger
