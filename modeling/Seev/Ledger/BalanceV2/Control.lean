import Seev.Lib.Result
import Seev.Ledger.Basic

/-!
# The control record of the balance projection's migration

One row of `data_migrations` says how far the move from `account_balances` to
`account_balances_v2` has come, and which of the two tables a posting writes.

* `State`, `validateTransition`: the lifecycle.
* `Migration`: the columns the posting path and the operators read.
* `Migration.transition`, `setReadPercentage`, `setDualWrite`: the operators' changes.
-/

namespace Seev.Ledger.BalanceV2

open Lib

/-! ## The lifecycle -/

/-- The states of the migration. -/
inductive State where
  | draft | validated | targetReady | backfilling | dualWriteShadow | shadowRead | canaryRead | rampingRead
  | targetPrimary | sourceWriteDisabled | observation | completed | paused | rollingBack | rolledBack
  | failed | cancelledBeforeWrite
  deriving DecidableEq, Repr

namespace State

/-- `IsTerminal` -/
def isTerminal : State → Bool
  | completed | rolledBack | cancelledBeforeWrite => true
  | _ => false

/-- `IsActive` -/
def isActive (s : State) : Bool := !s.isTerminal

/-- `allowedTransitions` -/
def allowedTransitions : State → List State
  | draft => [validated, cancelledBeforeWrite, paused, rollingBack, failed]
  | validated => [targetReady, cancelledBeforeWrite, paused, rollingBack, failed]
  | targetReady => [backfilling, cancelledBeforeWrite, paused, rollingBack, failed]
  | backfilling => [dualWriteShadow, paused, rollingBack, failed]
  | dualWriteShadow => [shadowRead, paused, rollingBack, failed]
  | shadowRead => [canaryRead, paused, rollingBack, failed]
  | canaryRead => [rampingRead, shadowRead, paused, rollingBack, failed]
  | rampingRead => [targetPrimary, canaryRead, paused, rollingBack, failed]
  | targetPrimary => [sourceWriteDisabled, observation, rampingRead, paused, rollingBack, failed]
  | sourceWriteDisabled => [observation, targetPrimary, paused, rollingBack, failed]
  | observation => [completed, targetPrimary, paused, rollingBack, failed]
  | paused => [rollingBack, failed]
  | rollingBack => [rolledBack, failed]
  | failed => [rollingBack, paused]
  | completed | rolledBack | cancelledBeforeWrite => []

/-- `ValidateTransition` -/
def validateTransition (source target : State) : Bool :=
  if source = target ∨ source.isTerminal then false
  else if source = paused ∧ target.isActive then true
  else target ∈ source.allowedTransitions

/-- `RequiresGate` -/
def requiresGate : State → Bool
  | shadowRead | canaryRead | rampingRead | targetPrimary | sourceWriteDisabled | observation | completed => true
  | _ => false

/-- `RequiresChecker` -/
def requiresChecker (source target : State) (readPercentageBasisPoints : ℕ) : Bool :=
  if target = sourceWriteDisabled ∨ target = observation ∨ target = completed ∨ target = rollingBack then true
  else if target = paused ∨ source = paused then false
  else if source = rampingRead ∧ 5000 ≤ readPercentageBasisPoints then true
  else 2500 < readPercentageBasisPoints

end State

/-! ## The record -/

/-- The control row. -/
structure Migration where
  state : State
  previousState : Option State
  readPercentageBasisPoints : ℕ
  strictDualWrite : Bool
  sourceWriteEnabled : Bool
  targetWriteEnabled : Bool
  version : ℕ
  deriving DecidableEq, Repr

namespace Migration

/-- The row `EnsureReference` inserts. -/
def reference : Migration := ⟨.draft, none, 0, false, true, false, 1⟩

/-- The state, or the one a pause interrupted: how `targetWriteStage` and `WriteForPosting` read it. -/
def effective (m : Migration) : State :=
  if m.state = .paused then m.previousState.getD .paused else m.state

/-- `targetWriteStage` -/
def targetWriteStage (m : Migration) : Bool :=
  match m.effective with
  | .dualWriteShadow | .shadowRead | .canaryRead | .rampingRead | .targetPrimary | .sourceWriteDisabled
  | .observation | .completed => true
  | _ => false

end Migration

/-! ## The operators' changes -/

/-- What a control request brings besides the record: the two people, the evidence of the
gate and whether the backfill's checkpoint is complete. -/
structure Request where
  requestedBy : String
  approvedBy : String
  reason : String
  expectedVersion : ℕ
  gatePassed : Bool
  backfillComplete : Bool
  deriving DecidableEq, Repr

/-- Why a change is refused. -/
inductive ControlError where
  | actorAndReasonRequired | optimisticConflict | invalidTransition | pausedResumesPrevious
  | targetPrimaryNeedsFullReads | backfillIncomplete | approvalRequired | gateBlocked
  | percentageOutOfRange | targetReadsNotEnabled | dualWritesNotEnabled | nonStrictOnlyInShadow
  deriving DecidableEq, Repr

/-- Every change names its actor and a reason. -/
def checkActor (r : Request) : Except ControlError Unit :=
  if trimSpace r.requestedBy = "" ∨ trimSpace r.reason = "" then .error .actorAndReasonRequired else .ok ()

/-- `ExpectedVersion` of zero asks for no check. -/
def checkVersion (m : Migration) (r : Request) : Except ControlError Unit :=
  if r.expectedVersion ≠ 0 ∧ r.expectedVersion ≠ m.version then .error .optimisticConflict else .ok ()

/-- Somebody else has approved. -/
def Request.approved (r : Request) : Bool := trimSpace r.approvedBy ≠ "" ∧ r.approvedBy ≠ r.requestedBy

namespace Migration

variable (m : Migration)

/-- The columns that `Transition` sets with the state it moves to. -/
def setFlags (target : State) : Migration :=
  match target with
  | .rollingBack | .failed =>
    { m with
      readPercentageBasisPoints := 0, sourceWriteEnabled := true, targetWriteEnabled := false
      strictDualWrite := false }
  | .backfilling | .dualWriteShadow => { m with targetWriteEnabled := true, strictDualWrite := false }
  | .shadowRead | .canaryRead | .rampingRead | .targetPrimary | .observation =>
    { m with targetWriteEnabled := true, strictDualWrite := true }
  | .sourceWriteDisabled =>
    { m with sourceWriteEnabled := false, targetWriteEnabled := true, strictDualWrite := true }
  | .completed =>
    { m with readPercentageBasisPoints := 10000, targetWriteEnabled := true, strictDualWrite := true }
  | _ => m

/-- The `UPDATE` of `Transition`: a pause keeps the state it interrupts, the end of one
forgets it. -/
def moveTo (target : State) : Migration :=
  { m.setFlags target with
    state := target
    previousState :=
      if target = .paused then some m.state else if m.state = .paused then none else m.previousState
    version := m.version + 1 }

/-- **`Transition`** -/
def transition (r : Request) (target : State) : Except ControlError Migration := do
  checkActor r
  checkVersion m r
  if !m.state.validateTransition target then throw .invalidTransition
  if m.state = .paused ∧ target ≠ .rollingBack ∧ target ≠ .failed ∧ some target ≠ m.previousState then
    throw .pausedResumesPrevious
  if target = .targetPrimary ∧ m.readPercentageBasisPoints < 10000 then throw .targetPrimaryNeedsFullReads
  if m.state = .backfilling ∧ target = .dualWriteShadow ∧ !r.backfillComplete then throw .backfillIncomplete
  if m.state.requiresChecker target m.readPercentageBasisPoints ∧ !r.approved then throw .approvalRequired
  if target.requiresGate ∧ !r.gatePassed then throw .gateBlocked
  return m.moveTo target

/-- The states in which the target may be read. -/
def targetReadsEnabled : Bool :=
  match m.state with
  | .canaryRead | .rampingRead | .targetPrimary | .sourceWriteDisabled | .observation | .completed => true
  | _ => false

/-- `SetReadPercentage` -/
def setReadPercentage (r : Request) (percentage : ℕ) : Except ControlError Migration := do
  if 10000 < percentage then throw .percentageOutOfRange
  checkActor r
  checkVersion m r
  if 0 < percentage ∧ !m.targetReadsEnabled then throw .targetReadsNotEnabled
  if m.readPercentageBasisPoints < percentage ∧ 2500 < percentage ∧ !r.approved then throw .approvalRequired
  if m.readPercentageBasisPoints < percentage ∧ 0 < percentage ∧ !r.gatePassed then throw .gateBlocked
  return { m with readPercentageBasisPoints := percentage, version := m.version + 1 }

/-- `SetDualWrite` -/
def setDualWrite (r : Request) (strict : Bool) : Except ControlError Migration := do
  checkActor r
  checkVersion m r
  if !m.targetWriteStage then throw .dualWritesNotEnabled
  if !strict ∧ m.state ≠ .dualWriteShadow then throw .nonStrictOnlyInShadow
  return { m with strictDualWrite := strict, targetWriteEnabled := true, version := m.version + 1 }

end Migration

/-- One request of an operator. -/
inductive Change where
  | transition (target : State)
  | setReadPercentage (percentage : ℕ)
  | setDualWrite (strict : Bool)
  deriving DecidableEq, Repr

/-- A change of the control row. -/
def Migration.apply (m : Migration) (r : Request) : Change → Except ControlError Migration
  | .transition target => m.transition r target
  | .setReadPercentage percentage => m.setReadPercentage r percentage
  | .setDualWrite strict => m.setDualWrite r strict

/-! ## What a request leaves -/

namespace Migration

variable {m m' : Migration} {r : Request} {target : State}

/-- The checks of `Transition` that its successors rest on. -/
theorem transition_ok_iff (h : m.transition r target = .ok m') :
    m' = m.moveTo target ∧ m.state.validateTransition target = true ∧
      (m.state = .paused → target = .rollingBack ∨ target = .failed ∨ m.previousState = some target) := by
  unfold transition at h
  obtain ⟨-, -, h⟩ := bind_eq_ok.1 h
  obtain ⟨-, -, h⟩ := bind_eq_ok.1 h
  obtain ⟨hvalid, h⟩ := guard_eq_ok.1 h
  obtain ⟨hpaused, h⟩ := guard_eq_ok.1 h
  obtain ⟨-, h⟩ := guard_eq_ok.1 h
  obtain ⟨-, h⟩ := guard_eq_ok.1 h
  obtain ⟨-, h⟩ := guard_eq_ok.1 h
  obtain ⟨-, h⟩ := guard_eq_ok.1 h
  cases h
  refine ⟨rfl, by simpa using hvalid, fun hp => ?_⟩
  simp only [hp, true_and, not_and_or, not_not] at hpaused
  rcases hpaused with h | h | h
  · exact .inl h
  · exact .inr (.inl h)
  · exact .inr (.inr h.symm)

end Migration

end Seev.Ledger.BalanceV2
