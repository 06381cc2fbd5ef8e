import Seev.Lib.Server
import Seev.Payin.Topup

/-!
# Concurrent callbacks and replays

Each call of the payin service is a session that takes one statement, or one call to
another service, at a time. Payin takes no lock: between two statements of a session
anything can happen, the end of the process included.

The ledger is a server with idempotency keys: it answers the commands it was sent in
any order, late or never, and posts one command for each scope and key. It has no
account of `uuid.Nil`, so it refuses a command without an owner.

* `Session.exec`: the statement of each phase.
* `Session.onError`: where the code goes when the statement returned an error.
* `World.step`: one event.
-/

namespace Seev.Payin

open Lib
open Ledger (UUID Decimal Currency Text Command)

/-- The call a post step runs for. -/
inductive Caller where
  | callback | replay
  deriving DecidableEq, Repr

/-- What a call returned. -/
inductive Result where
  | outcome (o : VendorCallbackOutcome)
  | replayed
  | intent (i : TopupIntent)
  | error (e : Failure)
  deriving DecidableEq, Repr

/-- The next statement of a call, with the local variables it needs. -/
inductive Session where
  -- `HandleVendorCallback`
  | lookupGateway (cb : Callback) (amount : Decimal)
  | lookupIntent (cb : Callback) (amount : Decimal) (gateway : String)
  | matchIntent (cb : Callback) (amount : Decimal) (gateway : String) (intent : Option TopupIntent)
  | persist (cb : Callback) (event : WebhookEvent) (gateway unmatchedReason : String)
  | record (id : UUID) (reason : String) (outcome : VendorCallbackOutcome)
  -- `ReplayEvent`
  | load (id : UUID)
  | route (ev : WebhookEvent)
  -- `postAndFinalize`
  | begin (caller : Caller) (ev : WebhookEvent) (gateway : String)
  | screen (caller : Caller) (ev : WebhookEvent) (f : Financials)
  | block (caller : Caller) (ev : WebhookEvent) (reason : String)
  | post (caller : Caller) (ev : WebhookEvent) (f : Financials)
  | await (caller : Caller) (ev : WebhookEvent) (call : ℕ)
  | finalize (caller : Caller) (ev : WebhookEvent)
  | settle (caller : Caller) (ev : WebhookEvent)
  | reject (caller : Caller) (ev : WebhookEvent) (e : PostError)
  -- top-up intents; `reading` tells `GetTopupIntent` from the create calls
  | insertTopup (intent : TopupIntent)
  | insertMerchantTopup (intent : TopupIntent)
  | recoverTopup (intent : TopupIntent) (err : String)
  | completeTopup (reading : Bool) (intent : TopupIntent)
  | consumeQuote (reading : Bool) (intent : TopupIntent) (gateway : String)
  | saveSnapshot (reading : Bool) (intent : TopupIntent) (fee : Decimal) (feeGateway : String) (consumedAt : ℕ)
  | getTopup (id : UUID)
  | expireTopup (intent : TopupIntent)
  deriving DecidableEq, Repr

/-- Where a statement leads. -/
inductive Next where
  | goto (s : Session)
  | return (r : Result)
  deriving DecidableEq, Repr

/-- The fraud service's answer; any other error of it is a failed statement. -/
inductive Screening where
  | allow
  | block (reason : String)
  | dependencyUnavailable
  deriving DecidableEq, Repr

/-! ## What a call returns -/

/-- The end of `postAndFinalize` without an error. -/
def Caller.posted : Caller → Result
  | callback => .outcome .finalized
  | replay => .replayed

/-- The end of `postAndFinalize` with an error: the callback acknowledges a business
failure. -/
def Caller.failed (c : Caller) (e : Failure) : Result :=
  match c with
  | callback => if e.business then .outcome .recordedUnmatched else .error e
  | replay => .error e

/-- After `MarkPosted`, whether it succeeded or not. -/
def Caller.marked (c : Caller) (ev : WebhookEvent) : Next :=
  if ev.externalRef ≠ "" then .goto (.settle c ev) else .return c.posted

/-- The end of a call on an intent. `GetTopupIntent` marks a pending one past its time
expired. -/
def finishIntent (reading : Bool) (now : ℕ) (i : TopupIntent) : Next :=
  if reading ∧ i.status = .pending ∧ i.expiresAt ≤ now then .goto (.expireTopup i) else .return (.intent i)

namespace Session

/-! ## Statements -/

/-- The callback after `GetOrInsert`, on the stored row. -/
def afterPersist (cb : Callback) (gateway unmatchedReason : String) (stored : WebhookEvent) : Next :=
  match stored.status with
  | .posted => .return (.outcome .alreadyFinalized)
  | .failed | .blocked => .return (.outcome .recordedUnmatched)
  | .received =>
    if cb.status ≠ "settled" then .goto (.record stored.id (nonTerminalReason cb) .ignored)
    else if unmatchedReason ≠ "" then .goto (.record stored.id unmatchedReason .recordedUnmatched)
    else .goto (.begin .callback stored gateway)

/-- Where the code goes when the statement returned an error. A failed update after the
post is logged and skipped. -/
def onError (s : Session) (e : String) : Next :=
  match s with
  | .lookupGateway .. | .record .. | .load .. | .route .. | .getTopup _ => .return (.error (.plain e))
  | .lookupIntent .. => .return (.error (.plain ("payin: lookup normalized callback intent: " ++ e)))
  | .persist .. => .return (.error (.plain ("payin: persist normalized callback: " ++ e)))
  | .begin c .. => .return (c.failed (.plain ("payin: load topup financial snapshot: " ++ e)))
  | .screen c ev f => .goto (.post c ev f)
  | .block c _ reason => .return (c.failed (.businessError ("payin: screening blocked: " ++ reason)))
  | .post c .. | .await c .. => .return (c.failed (.plain ("payin: post to ledger: " ++ e)))
  | .finalize c ev => c.marked ev
  | .settle c _ => .return c.posted
  | .reject c _ err => .return (c.failed (.businessError err.text))
  | .insertTopup intent =>
    if intent.feeQuoteID.isSome then .goto (.recoverTopup intent e)
    else .return (.error (.plain ("payin: insert topup intent: " ++ e)))
  | .insertMerchantTopup _ => .return (.error (.plain ("payin: insert merchant topup intent: " ++ e)))
  | .recoverTopup .. => .return (.error (.plain ("payin: recover topup fee quote intent: " ++ e)))
  | .completeTopup .. => .return (.error (.plain ("payin: recover topup gateway mapping: " ++ e)))
  | .consumeQuote .. => .return (.error (.plain ("payin: consume topup fee quote: " ++ e)))
  | .saveSnapshot .. => .return (.error (.plain ("payin: persist topup fee snapshot: " ++ e)))
  | .expireTopup i => .return (.intent i)
  -- no statement
  | .matchIntent .. => .goto s

/-- An update whose statement may fail, and where the call goes after it. -/
def update (db : Db) (s : Session) (next : Next) : Except String Db → Db × Next
  | .ok db' => (db', next)
  | .error e => (db, s.onError e)

/-- The answer of the ledger to a command. -/
def onAnswer (c : Caller) (ev : WebhookEvent) : Answer PostError → Next
  | .done => .goto (.finalize c ev)
  | .refused e =>
    if isLedgerAlreadyPosted e then .goto (.finalize c ev)
    else if isBusinessFailure e then .goto (.reject c ev e)
    else .return (c.failed (.plain ("payin: post to ledger: " ++ e.text)))

/-- The answer of the fraud service. -/
def onScreening (c : Caller) (ev : WebhookEvent) (f : Financials) : Screening → Next
  | .allow => .goto (.post c ev f)
  | .block reason => .goto (.block c ev reason)
  | .dependencyUnavailable => .return (c.failed (.plain "payin: screening dependency unavailable"))

/-- The answer of the ledger to `ConsumeFeeQuoteWithGateway`. -/
def onConsumed (reading : Bool) (intent : TopupIntent) (fee : Decimal) (feeGateway : String) (now : ℕ) : Next :=
  match quotedTotal intent fee with
  | .error e => .return (.error e)
  | .ok _ => .goto (.saveSnapshot reading intent fee feeGateway now)

variable (E : Env) (db : Db) (now : ℕ) (id : UUID)

/-- The next statement of a call: the tables after it and where the call goes. A new event
draws the id `id`. The calls to other services are not statements (`screen`, `post`,
`await`, `consumeQuote`): they have events of their own. -/
def exec (s : Session) : Db × Next :=
  match s with
  | .lookupGateway cb amount =>
    match db.getVendorGateway cb.vendor with
    | none => (db, .goto (.persist cb (callbackEvent id cb amount) "" "no payin vendor gateway mapping"))
    | some gateway => (db, .goto (.lookupIntent cb amount gateway))
  | .lookupIntent cb amount gateway =>
    (db, .goto (.matchIntent cb amount gateway (db.getTopupIntentByReference cb.externalReference)))
  | .matchIntent cb amount gateway intent =>
    let (event, reason) := correlate now id cb amount intent
    (db, .goto (.persist cb event gateway reason))
  | .persist cb event gateway reason =>
    match db.getOrInsert event with
    | .error e => (db, s.onError e)
    | .ok (db', stored) => (db', afterPersist cb gateway reason stored)
  | .record id reason outcome => s.update db (.return (.outcome outcome)) (db.markFailed id reason)
  | .load id =>
    match db.get id with
    | none => (db, s.onError "payin: webhook event not found")
    | some ev =>
      if ev.status = .posted then (db, s.onError "payin: event already posted") else (db, .goto (.route ev))
  | .route ev =>
    match db.getVendorGateway ev.vendor with
    | none =>
      (db, s.onError ("payin: vendor " ++ Ledger.quote ev.vendor ++ " has no gateway mapping configured"))
    | some gateway => (db, .goto (.begin .replay ev gateway))
  | .begin c ev gateway =>
    match financials db ev gateway with
    | .error e => (db, .return (c.failed e))
    | .ok f =>
      if E.fraudClient ∧ ev.merchantTenantID = UUID.nil then (db, .goto (.screen c ev f))
      else (db, .goto (.post c ev f))
  | .block c ev reason =>
    s.update db (.return (c.failed (.businessError ("payin: screening blocked: " ++ reason))))
      (db.markBlocked ev.id reason)
  | .finalize c ev => (db.markPosted ev.id, c.marked ev)
  | .settle c ev => (db.markTopupIntentSettled ev.externalRef ev.id, .return c.posted)
  | .reject c ev err =>
    s.update db (.return (c.failed (.businessError err.text))) (db.markFailed ev.id err.text)
  | .insertTopup intent =>
    s.update db (if intent.feeQuoteID.isSome then .goto (.completeTopup false intent)
      else .return (.intent intent))
      (db.insertTopupIntent intent)
  | .insertMerchantTopup intent =>
    match db.insertMerchantTopupIntent intent with
    | .error e => (db, s.onError e)
    | .ok (db', stored) => (db', .return (.intent stored))
  | .recoverTopup intent err =>
    match intent.feeQuoteID.bind db.getTopupIntentByFeeQuoteID with
    | none => (db, .return (.error (.plain ("payin: insert topup intent: " ++ err))))
    | some existing =>
      match recoverQuotedIntent intent existing with
      | .error e => (db, .return (.error e))
      | .ok i => (db, .goto (.completeTopup false i))
  | .completeTopup reading intent =>
    if intent.quoteComplete then (db, finishIntent reading now intent.normalizeFinancials)
    else
      match quoteGateway db intent with
      | .error e => (db, .return (.error e))
      | .ok gateway => (db, .goto (.consumeQuote reading intent gateway))
  | .saveSnapshot reading intent fee feeGateway consumedAt =>
    let completed := { intent with
      feeAmount := fee, totalDebit := intent.amount + fee, feeGateway := feeGateway
      feeQuoteConsumedAt := some consumedAt }
    s.update db (finishIntent reading now completed)
      (db.updateTopupFeeSnapshot intent.id (intent.feeQuoteID.getD UUID.nil) fee (intent.amount + fee) feeGateway
        consumedAt)
  | .getTopup id =>
    match db.getTopupIntent id with
    | none => (db, s.onError "payin: topup intent not found")
    | some intent =>
      if intent.status = .pending ∧ intent.feeQuoteID.isSome ∧ intent.feeQuoteConsumedAt.isNone then
        (db, .goto (.completeTopup true intent))
      else (db, finishIntent true now intent)
  | .expireTopup i => (db.markTopupIntentExpired i.id, .return (.intent { i with status := .expired }))
  | .screen .. | .post .. | .await .. | .consumeQuote .. => (db, .goto s)

end Session

/-! ## The world -/

/-- A command sent to the ledger, with the event it credits. -/
structure Request where
  event : WebhookEvent
  cmd : Command

namespace Request

/-- What the ledger posts at most once. -/
def key (r : Request) : String × String := (r.cmd.idempotencyScope, r.cmd.idempotencyKey)

/-- The command names an owner. -/
def owned (r : Request) : Bool := decide (r.cmd.userID ≠ UUID.nil ∨ r.cmd.merchantTenantID ≠ UUID.nil)

end Request

/-- A callback that matched an intent, with the intent as it was read. -/
structure Report where
  cb : Callback
  amount : Decimal
  intent : TopupIntent
  deriving DecidableEq, Repr

/-- The calls in progress are numbered. -/
abbrev SessionID := ℕ

/-- The service with its tables, and the ledger. -/
structure World where
  db : Db
  now : ℕ
  sessions : SessionID → Option Session
  results : SessionID → Option Result
  ledger : Server Request PostError
  /-- every callback that matched an intent so far -/
  reports : List Report

/-- No call is in progress. -/
def World.idle (db : Db) (now : ℕ) : World :=
  ⟨db, now, fun _ => none, fun _ => none, .empty, []⟩

/-- A call begins or goes on, or something happens outside. -/
inductive Event where
  | callback (sid : SessionID) (cb : Callback)
  | replay (sid : SessionID) (id : UUID)
  | createTopup (sid : SessionID) (req : TopupRequest) (ans : Answers)
  | createMerchantTopup (sid : SessionID) (req : MerchantTopupRequest) (ans : Answers)
  | getTopup (sid : SessionID) (id : UUID)
  /-- the next statement of a session; a new event row would have the id `id` -/
  | advance (sid : SessionID) (id : UUID)
  /-- the next statement returns an error, after it took effect or instead -/
  | fail (sid : SessionID) (applied : Bool) (e : String)
  /-- the process ends -/
  | crash (sid : SessionID)
  | screened (sid : SessionID) (v : Screening)
  /-- the ledger decides on a command it was sent -/
  | ledger (call : ℕ) (v : Verdict PostError)
  /-- the ledger's answer to `ConsumeFeeQuoteWithGateway` -/
  | consumed (sid : SessionID) (fee : Decimal) (feeGateway : String)
  /-- `UpsertVendorGateway` -/
  | upsertVendorGateway (vendor gateway : String)
  | tick (d : ℕ)

namespace World

variable (E : Env)

/-- Session `sid` goes on, or ends with its result. -/
def proceed (w : World) (sid : SessionID) : Next → World
  | .goto s => { w with sessions := Function.update w.sessions sid (some s) }
  | .return r =>
    { w with
      sessions := Function.update w.sessions sid none
      results := Function.update w.results sid (some r) }

/-- A new call, on a session that is free. -/
def start (w : World) (sid : SessionID) (first : Except Failure Session) : World :=
  match w.sessions sid with
  | some _ => w
  | none =>
    match first with
    | .ok s => w.proceed sid (.goto s)
    | .error e => w.proceed sid (.return (.error e))

/-- The match of a callback goes on record. -/
def report (now : ℕ) : Session → List Report
  | .matchIntent cb amount _ (some intent) =>
    if unmatchedReason now cb amount (some intent.normalizeFinancials) = "" then
      [⟨cb, amount, intent.normalizeFinancials⟩]
    else []
  | _ => []

/-- The next statement of session `sid`, the send of its command, or the receipt of the
answer once there is one. -/
def advance (w : World) (sid : SessionID) (id : UUID) (s : Session) : World :=
  match s with
  | .post c ev f =>
    match buildCommand E.text ev f with
    | .error e => w.proceed sid (.return (c.failed e))
    | .ok cmd =>
      { w.proceed sid (.goto (.await c ev w.ledger.calls.length)) with ledger := w.ledger.send ⟨ev, cmd⟩ }
  | .await c ev i =>
    match w.ledger.answer i with
    | none => w
    | some a => w.proceed sid (Session.onAnswer c ev a)
  | s =>
    { w.proceed sid (s.exec E w.db w.now id).2 with
      db := (s.exec E w.db w.now id).1, reports := w.reports ++ report w.now s }

/-- A call that its checks refuse returns at once. -/
def step (w : World) : Event → World
  | .callback sid cb =>
    w.start sid ((checkCallback E.text cb).map (Session.lookupGateway cb))
  | .replay sid id => w.start sid (.ok (.load id))
  | .createTopup sid req ans => w.start sid ((newTopupIntent E w.now req ans).map Session.insertTopup)
  | .createMerchantTopup sid req ans =>
    w.start sid ((newMerchantTopupIntent E w.now req ans).map Session.insertMerchantTopup)
  | .getTopup sid id => w.start sid (.ok (.getTopup id))
  | .advance sid id =>
    match w.sessions sid with
    | none => w
    | some s => w.advance E sid id s
  | .fail sid applied e =>
    match w.sessions sid with
    | none => w
    | some s =>
      { w.proceed sid (s.onError e) with
        db := if applied then (s.exec E w.db w.now UUID.nil).1 else w.db }
  | .crash sid => { w with sessions := Function.update w.sessions sid none }
  | .screened sid v =>
    match w.sessions sid with
    | some (.screen c ev f) => w.proceed sid (Session.onScreening c ev f v)
    | _ => w
  | .ledger i v =>
    if v = .accept ∧ !(w.ledger.calls[i]?.any (·.1.owned)) then w
    else { w with ledger := w.ledger.serve Request.key i v }
  | .consumed sid fee feeGateway =>
    match w.sessions sid with
    | some (.consumeQuote reading intent _) =>
      w.proceed sid (Session.onConsumed reading intent fee feeGateway w.now)
    | _ => w
  | .upsertVendorGateway vendor gateway =>
    { w with db := { w.db with gateways := Function.update w.db.gateways vendor (some gateway) } }
  | .tick d => { w with now := w.now + d }

end World

/-! ## A small payin

One vendor and one pending intent of user 1 for 100, to run the model on. -/

namespace Sample

/-- Texts of whole numbers. -/
def env : Env := ⟨Ledger.Sample.text, 0, true⟩

/-- A pending intent over 100. -/
def intent : TopupIntent where
  id := 7
  reference := "TOP-7"
  userID := 1
  merchantTenantID := UUID.nil
  amount := 100
  feeAmount := 0
  totalDebit := 100
  feeGateway := ""
  feeQuoteID := none
  feeApplication := "added_on_top"
  feeQuoteConsumedAt := none
  currency := "IDR"
  vendor := "acme"
  gateway := "bca"
  status := .pending
  settledEventID := none
  downstreamKey := ""
  expiresAt := 1000

/-- One intent, and the gateway of one vendor. -/
def db : Db := ⟨[], [⟨intent, by decide +kernel⟩], fun vendor => if vendor = "acme" then some "bca" else none⟩

/-- A callback for the intent. -/
def callback (vendorEventID status : String) : Callback :=
  ⟨"acme", vendorEventID, "TOP-7", "100", "IDR", status, ""⟩

/-- A callback up to the send of its command, as event row `id`. -/
def upToSend (sid : SessionID) (id : UUID) (cb : Callback) : List Event :=
  .callback sid cb :: List.replicate 5 (.advance sid id) ++ [.screened sid .allow, .advance sid id]

end Sample

end Seev.Payin
