import Seev.Payout.Basic

/-!
# Payout repository

The statements of `services/payout/internal/repository`, each one (or each transaction
of them) atomic on the committed tables. A statement that would break a constraint of
its table fails; a transaction that fails leaves the tables as they were.

`picked` is the choice `FOR UPDATE SKIP LOCKED` with `LIMIT` makes among the rows that
match.
-/

namespace Seev.Payout

open Ledger (UUID Decimal Currency)

/-- The payout tables. -/
structure Db where
  requests : RequestTable
  commands : CommandTable
  calls : List VendorCall
  rules : List RoutingRule
  gateways : String → Option String

/-- Which commands a relay pass claims. -/
inductive ClaimKind where
  | pending | failedForRetry
  deriving DecidableEq, Repr

/-- The `WHERE` of `ClaimPendingCommands` and of `ClaimFailedCommandsForRetry`. -/
def ClaimKind.eligible (now : ℕ) : ClaimKind → VendorCommand → Bool
  | pending, c => c.status = .pending
  | failedForRetry, c =>
    c.status = .failed ∧ c.retryCount < c.maxRetries ∧ (c.nextAttemptAt.isNone ∨ ∀ t ∈ c.nextAttemptAt, t ≤ now)

/-- The `WHERE` of `ResolveCandidates`. -/
def RoutingRule.applies (rule : RoutingRule) (flow : String) (userID : UUID) (currency : Currency)
    (amount : ℤ) : Bool :=
  rule.enabled ∧ rule.flow = flow ∧ (rule.userID = some userID ∨ rule.userID = none) ∧
    (rule.currency = some currency ∨ rule.currency = none) ∧
    (∀ min ∈ rule.minAmount, min ≤ amount) ∧ (∀ max ∈ rule.maxAmount, amount ≤ max)

/-- The `ORDER BY` of `ResolveCandidates`. -/
def RoutingRule.before (a b : RoutingRule) : Prop :=
  (a.userID.isSome ∧ b.userID.isNone) ∨ (a.userID.isSome = b.userID.isSome ∧ a.priority ≤ b.priority)

instance : DecidableRel RoutingRule.before := fun a b =>
  inferInstanceAs (Decidable
    ((a.userID.isSome ∧ b.userID.isNone) ∨ (a.userID.isSome = b.userID.isSome ∧ a.priority ≤ b.priority)))

namespace Db

/-! ## `payout_requests` -/

def setRequests (db : Db) (rs : List PayoutRequest) : Except String Db :=
  if h : RequestsOK rs then .ok { db with requests := ⟨rs, h⟩ }
  else .error "payout_requests: constraint violation"

/-- `UPDATE payout_requests SET ... WHERE ...` -/
def updateRequests (db : Db) (p : PayoutRequest → Bool) (f : PayoutRequest → PayoutRequest) : Except String Db :=
  db.setRequests (db.requests.1.map fun r => if p r then f r else r)

/-- `Get` -/
def get (db : Db) (id : UUID) : Option PayoutRequest := db.requests.1.find? fun r => r.id = id

/-- `GetByVendorReference` -/
def getByVendorReference (db : Db) (vendor vendorReference : String) : Option PayoutRequest :=
  db.requests.1.find? fun r => r.vendor = vendor ∧ r.vendorRef = some vendorReference

/-- The row of both inserts: `created`, with the columns they name. -/
def newRow (now : ℕ) (req : PayoutRequest) : PayoutRequest :=
  { req with
    amount := req.amount.intPart, status := .created, holdTxID := none, settleTxID := none
    vendorRef := none, errorMessage := "", feeQuoteID := none, feeAmount := none, feeGateway := ""
    updatedAt := now }

/-- `Insert` -/
def insert (db : Db) (now : ℕ) (req : PayoutRequest) : Except String Db :=
  db.setRequests (db.requests.1 ++ [{ newRow now req with downstreamKey := "" }])

/-- `InsertMerchant`: with the row that holds the tenant's downstream key, the stored one
on a conflict. -/
def insertMerchant (db : Db) (now : ℕ) (req : PayoutRequest) : Except String (Db × PayoutRequest) :=
  if req.downstreamKey = "" then .error "insert merchant payout request: downstream key is required"
  else
    match db.requests.1.find? fun r =>
        r.merchantTenantID = req.merchantTenantID ∧ r.downstreamKey = req.downstreamKey with
    | some stored => .ok (db, stored)
    | none => do
      let db' ← db.setRequests (db.requests.1 ++ [newRow now req])
      return (db', newRow now req)

/-- `transition`: the update of a request in one of the statuses `allowed`. -/
def transition (db : Db) (now : ℕ) (id : UUID) (allowed : List Status) (f : PayoutRequest → PayoutRequest) :
    Except String Db :=
  db.updateRequests (fun r => r.id = id ∧ r.status ∈ allowed) fun r => { f r with updatedAt := now }

/-- `TransitionToHeld` -/
def transitionToHeld (db : Db) (now : ℕ) (id holdTxID : UUID) : Except String Db :=
  db.transition now id [.created] fun r => { r with status := .held, holdTxID := some holdTxID }

/-- `TransitionToVendorPending` -/
def transitionToVendorPending (db : Db) (now : ℕ) (id : UUID) (vendorRef : String) : Except String Db :=
  db.transition now id [.submitted] fun r => { r with status := .vendorPending, vendorRef := some vendorRef }

/-- `TransitionToSettled` -/
def transitionToSettled (db : Db) (now : ℕ) (id settleTxID : UUID) : Except String Db :=
  db.transition now id [.submitted, .vendorPending] fun r =>
    { r with status := .settled, settleTxID := some settleTxID }

/-- `TransitionToCancelled` -/
def transitionToCancelled (db : Db) (now : ℕ) (id settleTxID : UUID) : Except String Db :=
  db.transition now id [.submitted, .vendorPending] fun r =>
    { r with status := .cancelled, settleTxID := some settleTxID }

/-- `TransitionToRejected` cuts the reason to 500 bytes; a cut inside a character is no
valid text. -/
def transitionToRejected (db : Db) (now : ℕ) (id : UUID) (reason : String) : Except String Db :=
  match Ledger.truncateMessage reason with
  | none => .error "invalid byte sequence for encoding"
  | some msg => db.transition now id [.created] fun r => { r with status := .rejected, errorMessage := msg }

/-- `SetError`, which cuts like `TransitionToRejected` -/
def setError (db : Db) (now : ℕ) (id : UUID) (reason : String) : Except String Db :=
  match Ledger.truncateMessage reason with
  | none => .error "invalid byte sequence for encoding"
  | some msg => db.updateRequests (fun r => r.id = id) fun r => { r with errorMessage := msg, updatedAt := now }

/-- `SetQuotedFee` -/
def setQuotedFee (db : Db) (now : ℕ) (id quoteID : UUID) (feeAmount : Decimal) (feeGateway : String) :
    Except String Db :=
  db.updateRequests (fun r => r.id = id) fun r =>
    { r with
      feeQuoteID := some quoteID, feeAmount := some (feeAmount.intPart : ℚ), feeGateway := feeGateway
      updatedAt := now }

/-- `ListStuck` -/
def listStuck (db : Db) (status : Status) (olderThan limit : ℕ) : List PayoutRequest :=
  ((db.requests.1.filter fun r => r.status = status ∧ r.updatedAt < olderThan).insertionSort
    fun a b => a.updatedAt ≤ b.updatedAt).take limit

/-! ## `payout_vendor_commands` -/

def setCommands (db : Db) (cs : List VendorCommand) : Except String Db :=
  if h : CommandsOK cs then .ok { db with commands := ⟨cs, h⟩ }
  else .error "payout_vendor_commands: constraint violation"

/-- `UPDATE payout_vendor_commands SET ... WHERE ...` -/
def updateCommands (db : Db) (p : VendorCommand → Bool) (f : VendorCommand → VendorCommand) : Except String Db :=
  db.setCommands (db.commands.1.map fun c => if p c then f c else c)

/-- The row of both inserts. -/
def newCommand (now : ℕ) (cmdID payoutRequestID : UUID) (vendor : String) (attempt : ℕ) : VendorCommand where
  id := cmdID
  payoutRequestID := payoutRequestID
  vendor := vendor
  attempt := attempt
  status := .pending
  retryCount := 0
  maxRetries := 8
  nextAttemptAt := some now
  lockedAt := none
  createdAt := now

/-- The foreign key on `payout_requests`. -/
def checkReference (db : Db) (payoutRequestID : UUID) : Except String Unit :=
  if db.requests.1.any (·.id = payoutRequestID) then .ok () else .error "payout_request_id: no such request"

/-- `insertVendorCommand` -/
def insertVendorCommand (db : Db) (now : ℕ) (cmdID payoutRequestID : UUID) (vendor : String) (attempt : ℕ) :
    Except String Db := do
  db.checkReference payoutRequestID
  db.setCommands (db.commands.1 ++ [newCommand now cmdID payoutRequestID vendor attempt])

/-- `insertVendorCommandIfAbsent`: `ON CONFLICT DO NOTHING`; with whether it inserted. -/
def insertVendorCommandIfAbsent (db : Db) (now : ℕ) (cmdID payoutRequestID : UUID) (vendor : String)
    (attempt : ℕ) : Except String (Db × Bool) := do
  db.checkReference payoutRequestID
  match db.setCommands (db.commands.1 ++ [newCommand now cmdID payoutRequestID vendor attempt]) with
  | .ok db' => return (db', true)
  | .error _ => return (db, false)

/-- `EnqueueInitialSubmit`; with whether the transition matched. -/
def enqueueInitialSubmit (db : Db) (now : ℕ) (cmdID payoutRequestID : UUID) (vendor : String) :
    Except String (Db × Bool) :=
  let submittable := fun r : PayoutRequest =>
    decide (r.id = payoutRequestID ∧ r.status ∈ [Status.held, .vendorPending])
  if !db.requests.1.any submittable then .ok (db, false)
  else do
    let db' ← db.updateRequests submittable fun r => { r with status := .submitted, updatedAt := now }
    let db'' ← db'.insertVendorCommand now cmdID payoutRequestID vendor 1
    return (db'', true)

/-- An update that is an error when no row matches. -/
def updateFound (db : Db) (p : VendorCommand → Bool) (f : VendorCommand → VendorCommand) : Except String Db :=
  if db.commands.1.any p then db.updateCommands p f else .error "payout: vendor command not found"

/-- `CompleteCommand` -/
def completeCommand (db : Db) (commandID : UUID) : Except String Db :=
  db.updateFound (fun c => c.id = commandID ∧ c.status = .processing) fun c =>
    { c with status := .completed, lockedAt := none }

/-- `CompleteAndEnqueueFailover`; with whether the request still had `fromVendor`. -/
def completeAndEnqueueFailover (db : Db) (now : ℕ) (cmdID payoutRequestID completingCommandID : UUID)
    (fromVendor toVendor : String) (nextAttempt : ℕ) : Except String (Db × Bool) :=
  let current := fun r : PayoutRequest => decide (r.id = payoutRequestID ∧ r.vendor = fromVendor)
  if !db.requests.1.any current then .ok (db, false)
  else do
    let db' ← db.updateRequests current fun r => { r with vendor := toVendor, updatedAt := now }
    let db'' ← db'.completeCommand completingCommandID
    let db''' ← db''.insertVendorCommand now cmdID payoutRequestID toVendor nextAttempt
    return ( db''', true)

/-- `SELECT COALESCE(MAX(attempt), 0) + 1 ...` -/
def nextAttempt (db : Db) (payoutRequestID : UUID) : ℕ :=
  ((db.commands.1.filter (·.payoutRequestID = payoutRequestID)).map (·.attempt)).foldr max 0 + 1

/-- `EnsureSubmitCommand` -/
def ensureSubmitCommand (db : Db) (now : ℕ) (cmdID payoutRequestID : UUID) (vendor : String) :
    Except String (Db × Bool) :=
  db.insertVendorCommandIfAbsent now cmdID payoutRequestID vendor (db.nextAttempt payoutRequestID)

/-- `claim`; with the claimed rows. -/
def claim (db : Db) (now : ℕ) (kind : ClaimKind) (picked : List UUID) : Except String (Db × List VendorCommand) :=
  let chosen := fun c : VendorCommand => decide (kind.eligible now c ∧ c.id ∈ picked)
  let lock := fun c : VendorCommand => { c with status := .processing, lockedAt := some now }
  (db.updateCommands chosen lock).map fun db' => (db', (db.commands.1.filter chosen).map lock)

/-- The delay of `FailCommand`: base 30s, factor 2, cap 15m, and up to half of it as
jitter. -/
def backoff (retryCount jitter : ℕ) : ℕ :=
  let base := min 900 (30 * 2 ^ (retryCount + 1))
  base + min jitter (base / 2)

/-- `FailCommand` -/
def failCommand (db : Db) (now jitter : ℕ) (commandID : UUID) : Except String Db :=
  db.updateFound (fun c => c.id = commandID ∧ c.status = .processing) fun c =>
    { c with
      status := if c.maxRetries ≤ c.retryCount + 1 then .dead else .failed
      retryCount := c.retryCount + 1, lockedAt := none
      nextAttemptAt := some (now + backoff c.retryCount jitter) }

/-- `ReapStuckCommands` -/
def reapStuckCommands (db : Db) (now olderThan : ℕ) : Except String Db :=
  db.updateCommands (fun c => c.status = .processing ∧ ∃ t ∈ c.lockedAt, t + olderThan < now) fun c =>
    { c with status := .failed, nextAttemptAt := some now, lockedAt := none }

/-- The update of both replays of dead commands. -/
def revive (now : ℕ) (c : VendorCommand) : VendorCommand :=
  { c with status := .failed, retryCount := 0, nextAttemptAt := some now, lockedAt := none }

/-- `ReplayDeadCommand` -/
def replayDeadCommand (db : Db) (now : ℕ) (id : UUID) : Except String Db :=
  db.updateFound (fun c => c.id = id ∧ c.status = .dead) (revive now)

/-- `ReplayAllDeadCommands` -/
def replayAllDeadCommands (db : Db) (now olderThan : ℕ) (picked : List UUID) : Except String Db :=
  db.updateCommands (fun c => c.status = .dead ∧ c.createdAt < olderThan ∧ c.id ∈ picked) (revive now)

/-- `GetLiveCommand` -/
def getLiveCommand (db : Db) (payoutRequestID : UUID) : Option VendorCommand :=
  db.commands.1.find? fun c => c.payoutRequestID = payoutRequestID ∧ c.live

/-- `HasDeadCommand`: the most recent command of the request is dead. -/
def hasDeadCommand (db : Db) (payoutRequestID : UUID) : Bool :=
  ((db.commands.1.filter (·.payoutRequestID = payoutRequestID)).insertionSort
    fun a b => b.attempt ≤ a.attempt).head?.any (·.status = .dead)

/-- `ListTriedVendors`; its caller reads no order from it. -/
def listTriedVendors (db : Db) (payoutRequestID : UUID) : List String :=
  ((db.commands.1.filter (·.payoutRequestID = payoutRequestID)).map (·.vendor)).dedup

/-! ## `payout_vendor_calls` -/

/-- `InsertVendorCall` -/
def insertVendorCall (db : Db) (call : VendorCall) : Except String Db := do
  db.checkReference call.payoutRequestID
  return { db with calls := db.calls ++ [call] }

/-- `ListVendorCalls` -/
def listVendorCalls (db : Db) (payoutRequestID : UUID) : List VendorCall :=
  db.calls.filter (·.payoutRequestID = payoutRequestID)

/-! ## Routing -/

/-- `ResolveCandidates`: user-specific rules first, then by priority -/
def resolveCandidates (db : Db) (flow : String) (userID : UUID) (currency : Currency) (amount : ℤ) :
    List RoutingCandidate :=
  ((db.rules.filter (·.applies flow userID currency amount)).insertionSort RoutingRule.before).filterMap
    fun rule => (db.gateways rule.vendor).map (RoutingCandidate.mk rule.vendor)

/-- `GetVendorGateway` -/
def getVendorGateway (db : Db) (vendor : String) : Option String := db.gateways vendor

/-- `CreateRule`, unless the id is taken -/
def createRule (db : Db) (rule : RoutingRule) : Db :=
  if db.rules.any (·.id = rule.id) then db else { db with rules := db.rules ++ [rule] }

/-- `UpdateRule` -/
def updateRule (db : Db) (rule : RoutingRule) : Db :=
  { db with rules := db.rules.map fun r => if r.id = rule.id then rule else r }

/-- `UpsertVendorGateway` -/
def upsertVendorGateway (db : Db) (vendor gateway : String) : Db :=
  { db with gateways := Function.update db.gateways vendor (some gateway) }

end Db

end Seev.Payout
