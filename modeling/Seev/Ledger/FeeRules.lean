import Seev.Ledger.Basic
import Seev.Lib.Run
import Seev.Lib.RowLock

/-!
# Fee rules and their approval

The versions of a fee rule go from draft to submitted to approved or rejected; `fee_rules` has the price in
force. `ApproveFeeRule` is a transaction of four statements under READ COMMITTED: each sees what was committed
before it, with its own writes on top, and an update that had to wait looks at its row again.

* `Approval`: an open `ApproveFeeRule`, with the version it has locked and what it has not yet committed.
* `World.advance`: its next statement; a statement that needs a row or a lock of another approval waits.
* `Overlaps`: the windows of two versions, for the trigger of `fee_rule_versions`.
-/

namespace Seev.Ledger.FeeRules

open Lib

/-- `tx_type`, `gateway`, `currency`, `user_id` -/
structure Scope where
  txType : String
  gateway : String
  currency : String
  userID : Option UUID
  deriving DecidableEq, Repr

/-- The price of a rule. -/
structure Terms where
  flatMinorUnits : ℤ
  percentBasisPts : ℤ
  feeGateway : String
  enabled : Bool
  deriving DecidableEq, Repr

/-- The status of a version. -/
inductive Status where
  | draft | submitted | approved | rejected | retired
  deriving DecidableEq, Repr

/-- A row of `fee_rule_versions`, without the columns that are only written. -/
structure Version where
  id : UUID
  ruleID : UUID
  version : ℕ
  scope : Scope
  terms : Terms
  status : Status
  createdBy : String
  approvedBy : Option String
  effectiveFrom : ℕ
  effectiveUntil : Option ℕ
  deriving DecidableEq, Repr

/-- A row of `fee_rules`. -/
structure Rule where
  id : UUID
  scope : Scope
  terms : Terms
  createdBy : String
  approvedBy : String
  ruleVersion : ℕ
  effectiveFrom : ℕ
  deriving DecidableEq, Repr

/-- The row that `ApproveFeeRule` puts into `fee_rules`. -/
def Version.rule (v : Version) : Rule :=
  ⟨v.ruleID, v.scope, v.terms, v.createdBy, v.approvedBy.getD "", v.version, v.effectiveFrom⟩

/-- `tstzrange(effective_from, effective_until) && …`, without an end for `NULL` -/
def Version.Overlaps (u v : Version) : Prop :=
  (∀ e ∈ v.effectiveUntil, u.effectiveFrom < e) ∧ ∀ e ∈ u.effectiveUntil, v.effectiveFrom < e

instance (u v : Version) : Decidable (u.Overlaps v) := inferInstanceAs (Decidable (_ ∧ _))

/-! ## Approvals -/

/-- The statement an approval is at; the version in `upsert` and `commit` is the one that the second `UPDATE`
returned. -/
inductive Phase where
  | retire
  /-- in the `UPDATE` that retires, with the rows of its snapshot that are left -/
  | retiring (targets : List UUID)
  | approve
  | upsert (result : Version)
  | commit (result : Version)
  deriving DecidableEq, Repr

/-- A transaction of `ApproveFeeRule` in progress. -/
structure Approval where
  /-- the row of `SELECT … FOR UPDATE` -/
  row : Version
  checker : String
  /-- `now()`, the start of the transaction -/
  now : ℕ
  phase : Phase
  /-- the versions it has retired -/
  retired : List UUID
  deriving DecidableEq, Repr

/-- `rule_id=$1 AND status='approved' AND id <> $2 AND effective_until IS NULL` -/
def Approval.Retires (t : Approval) (v : Version) : Prop :=
  v.ruleID = t.row.ruleID ∧ v.status = .approved ∧ v.id ≠ t.row.id ∧ v.effectiveUntil = none

instance (t : Approval) (v : Version) : Decidable (t.Retires v) := inferInstanceAs (Decidable (_ ∧ _ ∧ _ ∧ _))

/-- What an approval waits for. -/
inductive LockKey where
  | version (id : UUID)
  /-- `pg_advisory_xact_lock` of the trigger -/
  | activation (key : ℤ)
  | rule (id : UUID)
  /-- an entry of the unique index of `fee_rules` -/
  | scope (s : Scope)
  deriving DecidableEq, Repr

/-- What the database computes. -/
structure Env where
  /-- `hashtextextended(_, 0)` -/
  hash : String → ℤ
  uuidString : UUID → String

/-- The lock of a scope, by the hash of its text. -/
def Env.activation (E : Env) (s : Scope) : LockKey :=
  .activation (E.hash ("|".intercalate [s.txType, s.gateway, s.currency, (s.userID.map E.uuidString).getD ""]))

/-! ## The world -/

/-- The approvals in progress are numbered. -/
abbrev SessionID := ℕ

/-- The versions, the prices in force and the approvals in progress. -/
structure World where
  versions : List Version
  rules : List Rule
  now : ℕ
  locks : Locks LockKey SessionID
  approvals : SessionID → Option Approval

/-- The calls on fee rules. -/
inductive Event where
  /-- `CreateFeeRuleDraft`; `id` and `fresh` are the ids it draws -/
  | draft (id fresh ruleID : UUID) (scope : Scope) (terms : Terms) (actor : String)
  | submit (id : UUID)
  | reject (id : UUID) (checker : String)
  /-- `ApproveFeeRule` gets its row; its transaction began at `began` -/
  | approve (sid : SessionID) (id : UUID) (checker : String) (began : ℕ)
  | advance (sid : SessionID)
  /-- a lost connection, a deadlock or a crash -/
  | fail (sid : SessionID)
  | tick (d : ℕ)

namespace World

variable (E : Env) (w : World)

/-- The version with an id. -/
def find (id : UUID) : Option Version := w.versions.find? (·.id = id)

/-- `UPDATE fee_rule_versions … WHERE id=$1 AND …` -/
def update (id : UUID) (p : Version → Bool) (f : Version → Version) : World :=
  { w with versions := w.versions.map fun v => if v.id = id ∧ p v then f v else v }

/-- A draft gets the next version of its rule. -/
def draft (id fresh ruleID : UUID) (scope : Scope) (terms : Terms) (actor : String) : World :=
  let ruleID := if ruleID = UUID.nil then fresh else ruleID
  if (w.find id).isSome ∨ terms.flatMinorUnits < 0 ∨ terms.percentBasisPts < 0 ∨ 10000 ≤ terms.percentBasisPts
    then w
  else
    let version := ((w.versions.filter (·.ruleID = ruleID)).map Version.version).foldl max 0 + 1
    { w with versions := w.versions ++ [⟨id, ruleID, version, scope, terms, .draft, actor, none, w.now, none⟩] }

/-- The transaction ends and its locks are free. -/
def endApproval (sid : SessionID) : World :=
  { w with approvals := Function.update w.approvals sid none, locks := w.locks.release sid }

/-- The statement is over: the approval is at `t` and has `keys`. -/
def hold (sid : SessionID) (keys : List LockKey) (t : Approval) : World :=
  { w with approvals := Function.update w.approvals sid (some t), locks := w.locks.acquire sid keys }

/-- `INSERT INTO fee_rules … ON CONFLICT (id) DO UPDATE` -/
def upsert (rules : List Rule) (r : Rule) : List Rule :=
  if rules.any (·.id = r.id) then rules.map fun x => if x.id = r.id then r else x else rules ++ [r]

/-- What an approval has written becomes visible. -/
def commit (sid : SessionID) (t : Approval) (result : Version) : World :=
  { w.endApproval sid with
    versions := w.versions.map fun v =>
      if v.id = t.row.id then result
      else if v.id ∈ t.retired then { v with status := .retired, effectiveUntil := some t.now }
      else v
    rules := upsert w.rules result.rule }

/-- What the upsert locks: its row and the index entries of the scopes it comes to and leaves. -/
def ruleKeys (result : Version) : List LockKey :=
  .rule result.ruleID :: .scope result.scope ::
    (w.rules.filter (·.id = result.ruleID)).map fun r => .scope r.scope

/-- The next statement of an approval. -/
def advance (sid : SessionID) (t : Approval) : World :=
  match t.phase with
  | .retire => w.hold sid [] { t with phase := .retiring ((w.versions.filter t.Retires).map Version.id) }
  | .retiring [] => w.hold sid [] { t with phase := .approve }
  | .retiring (u :: us) =>
    if !w.locks.available sid (.version u) then w
    else match w.versions.find? fun v => v.id = u ∧ t.Retires v with
      | none => w.hold sid [] { t with phase := .retiring us }
      | some v =>
        -- `CHECK (effective_until > effective_from)`
        if t.now ≤ v.effectiveFrom then w.endApproval sid
        else w.hold sid [.version u] { t with phase := .retiring us, retired := u :: t.retired }
  | .approve =>
    match w.versions.find? fun v => v.id = t.row.id ∧ v.status = .submitted ∧ v.createdBy ≠ t.checker with
    | none => w.endApproval sid
    | some v =>
      if !w.locks.available sid (E.activation v.scope) then w
      -- the trigger sees what is committed by now, and what this approval has retired
      else if w.versions.any fun u => u.id ∉ t.retired ∧ u.status = .approved ∧ u.id ≠ v.id ∧ u.scope = v.scope ∧
          u.Overlaps v then w.endApproval sid
      else w.hold sid [E.activation v.scope]
        { t with phase := .upsert { v with status := .approved, approvedBy := some t.checker } }
  | .upsert result =>
    if !(w.ruleKeys result).all (w.locks.available sid) then w
    else if w.rules.any fun r => r.id ≠ result.ruleID ∧ r.scope = result.scope then w.endApproval sid
    else w.hold sid (w.ruleKeys result) { t with phase := .commit result }
  | .commit result => w.commit sid t result

/-- Every call but an approval is one statement. -/
def step : Event → World
  | .draft id fresh ruleID scope terms actor => w.draft id fresh ruleID scope terms actor
  | .submit id => w.update id (·.status = .draft) fun v => { v with status := .submitted }
  | .reject id checker =>
    -- it waits for an approval that has the row
    if (w.locks (.version id)).isSome then w
    else w.update id (fun v => v.status = .submitted ∧ v.createdBy ≠ checker) fun v =>
      { v with status := .rejected }
  | .approve sid id checker began =>
    match w.approvals sid, w.find id with
    | none, some v =>
      if v.status = .submitted ∧ w.locks.available sid (.version id) then
        w.hold sid [.version id] ⟨v, checker, min began w.now, .retire, []⟩
      else w
    | _, _ => w
  | .advance sid =>
    match w.approvals sid with
    | none => w
    | some t => w.advance E sid t
  | .fail sid => w.endApproval sid
  | .tick d => { w with now := w.now + d }

end World

end Seev.Ledger.FeeRules
