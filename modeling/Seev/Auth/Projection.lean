import Mathlib.Data.Nat.Basic
import Seev.Lib.Run

/-!
# The execution subject of one user

Auth is the source of a user's status and KYC state, and pushes them to the ledger's row of
`money_movement_execution_subjects` with `SetExecutionSubjectState`, an overwrite without a version. The
statements and calls of `Login`, of the KYC decisions and of the closure interleave, and each of them pushes
what it read or decided before.

* `exec`: the next statement or call of an operation.
* `World.step`: also the transaction that finalizes a closure, which pushes nothing.
-/

namespace Seev.Auth.Projection

/-- The status of a user. -/
inductive Status where
  | active
  | disabled
  | closing
  | closed
  deriving DecidableEq, Repr

/-- The columns that `auth_users` and the projection share. -/
structure Subject where
  status : Status
  kycLevel : ℕ
  kycVerifiedUntil : Option ℕ
  deriving DecidableEq, Repr

/-- The operations that push the user to the ledger. -/
inductive Operation where
  | login
  /-- with the level of the submission and the end of its validity -/
  | approveSubmission (level validUntil : ℕ)
  | syncApprovedKYCExecutionSubject (level : ℕ)
  /-- also the expiry, to level 0 -/
  | downgradeKYC (level : ℕ)
  | requestClosure
  deriving DecidableEq, Repr

/-- The next statement or call of an operation, with the user that it has read. -/
inductive Pc where
  | start (op : Operation)
  | provisionUser (u : Subject)
  | downgradeKYCLevel (level : ℕ)
  | insertClosure (u : Subject)
  /-- the calls of `SetExecutionSubjectState` that are left -/
  | setExecutionSubjectState (first : Subject) (rest : List Subject)
  | returned
  deriving DecidableEq, Repr

/-- The state that provisioning gives every identity. -/
def baseline : Subject := ⟨.active, 0, none⟩

/-- The user, the row of the ledger and what is in flight. -/
structure World where
  user : Subject
  /-- the ledger's row -/
  row : Option Subject
  operations : List Pc
  deriving DecidableEq, Repr

/-- A user whose row is up to date. -/
def World.synced (user : Subject) : World := ⟨user, some user, []⟩

/-- One statement or call of an operation; `ok` tells whether what it checks beside the user's row is as it should
be: the password, the submission, the request. -/
def exec (ok : Bool) (user : Subject) (row : Option Subject) : Pc → Pc × Subject × Option Subject
  | .start .login =>
    if ok ∧ user.status = .active then (.provisionUser user, user, row) else (.returned, user, row)
  | .provisionUser u =>
    -- `EnsureExecutionSubjectBaseline`; a user that was not provisioned is still synchronized
    if ok then (.setExecutionSubjectState baseline [u], user, some (row.getD baseline))
    else (.setExecutionSubjectState u [], user, row)
  | .start (.approveSubmission level validUntil) =>
    if ok ∧ user.kycLevel + 1 = level then
      (.setExecutionSubjectState ⟨.active, level, some validUntil⟩ [],
        { user with kycLevel := level, kycVerifiedUntil := some validUntil }, row)
    else (.returned, user, row)
  | .start (.syncApprovedKYCExecutionSubject level) =>
    if user.kycLevel ≠ level ∨ user.kycVerifiedUntil = none then (.returned, user, row)
    else (.setExecutionSubjectState ⟨.active, level, user.kycVerifiedUntil⟩ [], user, row)
  | .start (.downgradeKYC level) =>
    if level ≤ 2 ∧ level < user.kycLevel then (.downgradeKYCLevel level, user, row) else (.returned, user, row)
  | .downgradeKYCLevel level =>
    if level < user.kycLevel then
      (.setExecutionSubjectState ⟨.active, level, none⟩ [],
        { user with kycLevel := level, kycVerifiedUntil := none }, row)
    else (.returned, user, row)
  | .start .requestClosure =>
    if ok ∧ (user.status = .active ∨ user.status = .closing) then (.insertClosure user, user, row)
    else (.returned, user, row)
  | .insertClosure u =>
    -- a second request ends at the unique index, and a user who is not active at the update
    if ok ∧ user.status = .active then
      (.setExecutionSubjectState ⟨.closing, u.kycLevel, u.kycVerifiedUntil⟩ [],
        { user with status := .closing }, row)
    else (.returned, user, row)
  | .setExecutionSubjectState s [] => (.returned, user, some s)
  | .setExecutionSubjectState s (next :: rest) => (.setExecutionSubjectState next rest, user, some s)
  | .returned => (.returned, user, row)

/-- An operation starts or goes on. -/
inductive Event where
  | start (op : Operation)
  | work (k : ℕ) (ok : Bool)
  | closureStepFinalize
  deriving DecidableEq, Repr

/-- Each statement of an operation is an event. -/
def World.step (w : World) : Event → World
  | .start op => { w with operations := w.operations ++ [.start op] }
  | .work k ok =>
    match w.operations[k]? with
    | none => w
    | some pc =>
      let next := exec ok w.user w.row pc
      ⟨next.2.1, next.2.2, w.operations.set k next.1⟩
  | .closureStepFinalize =>
    if w.user.status = .closing then { w with user := { w.user with status := .closed } } else w

end Seev.Auth.Projection
