import Seev.Lib.Server
import Seev.Payout.Orchestrate

/-!
# Concurrent payouts

Each call of the payout service is a session that takes one statement, or one call to
another service, at a time; between two of them anything can happen, the end of the
process included. A relay pass claims a batch of commands and dispatches them one by one,
a resume pass lists the stuck requests of one status after the other; what is left of the
batch or of the list is the session's `Job`.

A vendor gives every `Submit` of a request that reaches it the same answer
(`Env.accepts`). A call reaches the vendor at any time after it was sent, or never, and
can return an error in either case. The
ledger is a server with idempotency keys that closes a hold once.

* `Session.exec`: the statement of each phase.
* `Session.onError`: where the code goes when the statement returned an error.
* `World.step`: one event.
-/

namespace Seev.Payout

open Lib
open Ledger (UUID Decimal Currency Text Command FeeQuote)
open Payin (validatePositiveMinorAmount)

/-! ## Sessions -/

/-- A normalized vendor callback. -/
structure Callback where
  vendor : String
  externalReference : String
  amountRaw : String
  currency : Currency
  status : String
  unknownStatus : String
  deriving DecidableEq, Repr

/-- What a callback came to. -/
inductive CallbackOutcome where
  | finalized | alreadyFinalized | ignored | recordedUnmatched
  deriving DecidableEq, Repr

/-- What a call returned. -/
inductive Result where
  | created (id : UUID) (err : Option String)
  | outcome (o : CallbackOutcome)
  | finished (err : Option String)
  | resumed (resumed failed : ℕ) (err : Option String)
  | dispatched
  deriving DecidableEq, Repr

/-- The statuses a resume pass works through, in its order. -/
inductive Stage where
  | created | held | submitted | vendorPending
  deriving DecidableEq, Repr

/-- The status of the requests that a stage resumes. -/
def Stage.status : Stage → Status
  | created => .created
  | held => .held
  | submitted => .submitted
  | vendorPending => .vendorPending

/-- The order of the stages in `ResumeStuck`. -/
def Stage.next : Stage → Option Stage
  | created => some held
  | held => some submitted
  | submitted => some vendorPending
  | vendorPending => none

/-- Who called `settle` or `cancel`. -/
inductive Caller where
  | relay (cmd : VendorCommand)
  | poll (vendor : String)
  | callback (vendor : String)
  | admin
  deriving DecidableEq, Repr

/-- `settle`, or `cancel` with its reason. -/
inductive Closing where
  | settle
  | cancel (reason : String)
  deriving DecidableEq, Repr

/-- The ledger command that closes the hold. -/
def Closing.kind : Closing → CommandKind
  | settle => .settle
  | cancel _ => .cancel

/-- The next statement of a call, with the local variables it needs. -/
inductive Phase where
  -- `create` and `CreateMerchant`
  | route (id : UUID) (req : CreateRequest) (currency : Currency)
  | insert (req : PayoutRequest) (quoteID : String)
  | consumeQuote (req : PayoutRequest) (quoteID : UUID)
  | setQuotedFee (req : PayoutRequest) (quoteID : UUID) (fee : Decimal) (feeGateway : String)
  | reject (id : UUID) (reason err : String)
  | routeMerchant (id : UUID) (req : MerchantRequest)
  | insertMerchant (req : PayoutRequest)
  -- `hold` and `enqueueSubmit`
  | postHold (req : PayoutRequest)
  | awaitHold (req : PayoutRequest) (call : ℕ)
  | holdTx (req : PayoutRequest)
  | toHeld (req : PayoutRequest) (tx : UUID)
  | enqueue (id : UUID) (vendor : String)
  -- `dispatchOne`
  | dispatch (cmd : VendorCommand)
  | submit (cmd : VendorCommand) (req : PayoutRequest)
  | awaitSubmit (cmd : VendorCommand) (req : PayoutRequest)
  | recordCall (cmd : VendorCommand) (req : PayoutRequest) (answer : VendorAnswer)
  | setSubmitError (cmd : VendorCommand) (req : PayoutRequest) (err : String)
  | listCalls (cmd : VendorCommand) (req : PayoutRequest) (result : PayoutResult)
  | listTried (cmd : VendorCommand) (req : PayoutRequest) (result : PayoutResult)
  | routeFailover (cmd : VendorCommand) (req : PayoutRequest) (result : PayoutResult) (tried : List String)
  | failover (cmd : VendorCommand) (req : PayoutRequest) (nextVendor : String)
  | rejectGateway (cmd : VendorCommand) (req : PayoutRequest) (result : PayoutResult)
  | acceptGateway (cmd : VendorCommand) (req : PayoutRequest) (result : PayoutResult)
  | toVendorPending (cmd : VendorCommand) (req : PayoutRequest) (vendorRef : String)
  | failCommand (id : UUID)
  | completeCommand (id : UUID)
  -- `settle` and `cancel`
  | closeLoad (k : Closing) (c : Caller) (id : UUID) (gateway : String)
  | resolveFee (c : Caller) (req : PayoutRequest) (gateway : String)
  | closePost (k : Closing) (c : Caller) (req : PayoutRequest) (gateway : String)
    (fee : Option (Decimal × String))
  | closeAwait (k : Closing) (c : Caller) (id : UUID) (call : ℕ)
  | closeTx (k : Closing) (c : Caller) (id : UUID)
  | toClosed (k : Closing) (c : Caller) (id tx : UUID)
  | setReason (c : Caller) (id : UUID) (reason : String)
  | closeFailed (c : Caller) (id : UUID) (err : String)
  | reconcile (c : Caller) (id : UUID) (err : String)
  | reconcileError (c : Caller) (id : UUID) (err : String)
  -- `ResumeStuck`
  | list
  | getLive (req : PayoutRequest)
  | hasDead (req : PayoutRequest)
  | ensure (req : PayoutRequest)
  | query (req : PayoutRequest)
  | recordQuery (req : PayoutRequest) (answer : VendorAnswer)
  | pollGateway (req : PayoutRequest) (result : PayoutResult)
  -- `AdminRetry` and `AdminCancel`
  | retryLoad (id : UUID)
  | retryLive (req : PayoutRequest)
  | cancelLoad (id : UUID) (reason : String)
  | cancelGateway (req : PayoutRequest) (reason : String)
  -- `HandleVendorCallback`
  | callbackLookup (cb : Callback) (amount : Decimal)
  | callbackGateway (cb : Callback) (req : PayoutRequest)

/-- What is left of the pass a session belongs to. -/
inductive Job where
  | single
  | relay (rest : List VendorCommand)
  | resume (stage : Stage) (cutoff : ℕ) (rest : List PayoutRequest) (resumed failed : ℕ)

/-- A call in progress. -/
structure Session where
  job : Job
  phase : Phase

/-- Where a statement leads. -/
inductive Next where
  | goto (p : Phase)
  | return (r : Result)
  /-- the item of the pass is done -/
  | task (ok : Bool)
  /-- the list of a resume stage -/
  | listed (rows : List PayoutRequest)

/-- The first statement a resume pass takes on a request of the stage. -/
def Stage.first : Stage → PayoutRequest → Phase
  | created, r => .postHold r
  | held, r => .enqueue r.id r.vendor
  | submitted, r => .getLive r
  | vendorPending, r => .query r

namespace Job

/-- The next item of a pass, or its end. -/
def advance : Job → Session ⊕ Result
  | single => .inr (.finished none)
  | relay [] => .inr .dispatched
  | relay (c :: cs) => .inl ⟨.relay cs, .dispatch c⟩
  | resume stage cutoff [] n m =>
    match stage.next with
    | some stage' => .inl ⟨.resume stage' cutoff [] n m, .list⟩
    | none => .inr (.resumed n m none)
  | resume stage cutoff (r :: rs) n m => .inl ⟨.resume stage cutoff rs n m, stage.first r⟩

/-- `resumed++` or `failed++` -/
def count (ok : Bool) : Job → Job
  | resume stage cutoff rest n m =>
    if ok then resume stage cutoff rest (n + 1) m else resume stage cutoff rest n (m + 1)
  | job => job

/-- A resume pass gets its list. -/
def withRows (rows : List PayoutRequest) : Job → Job
  | resume stage cutoff _ n m => resume stage cutoff rows n m
  | job => job

/-- After `hold` returned an error. -/
def holdFailed (job : Job) (id : UUID) (e : String) : Next :=
  match job with
  | single => .return (.created id (some ("payout: hold: " ++ e)))
  | _ => .task false

/-- After `enqueueSubmit`: the create calls log its error. -/
def enqueued (job : Job) (id : UUID) (ok : Bool) : Next :=
  match job with
  | single => .return (.created id none)
  | _ => .task ok

/-- After `ensureSubmitCommand`, which `AdminRetry` ends with. -/
def ensured (job : Job) (err : Option String) : Next :=
  match job with
  | single => .return (.finished err)
  | _ => .task err.isNone

end Job

/-- After `settle` or `cancel`. -/
def Caller.closed (c : Caller) (err : Option String) : Next :=
  match c with
  | relay cmd => if err.isNone then .goto (.completeCommand cmd.id) else .goto (.failCommand cmd.id)
  | poll _ => .task err.isNone
  | callback _ => if err.isNone then .return (.outcome .finalized) else .return (.finished err)
  | admin => .return (.finished err)

/-- `repository.ErrNotFound` -/
def errNotFound : String := "payout: request not found"

/-- `HandleVendorCallback` up to its first statement. -/
def checkCallback (T : Text) (cb : Callback) : Except String Decimal := do
  answered "payout: invalid normalized callback currency: " (validateCode cb.currency)
  match T.newFromString cb.amountRaw with
  | .error _ => throw "payout: invalid normalized callback amount"
  | .ok amount =>
    match validatePositiveMinorAmount amount with
    | .error _ => throw "payout: invalid normalized callback amount"
    | .ok _ => return amount

/-! ## Statements -/

/-- The payout tables, and the ledger's `fee_quotes`. -/
structure Tables where
  db : Db
  quotes : UUID → Option FeeQuote

/-- What a statement draws: a new id, the jitter of a backoff, and the answers of the
circuit breaker. -/
structure Draw where
  id : UUID
  jitter : ℕ
  allow : String → Bool

namespace Session

/-- Where the code goes when the statement returned an error. -/
def onError (s : Session) (e : String) : Next :=
  match s.phase with
  | .route .. | .routeMerchant .. => .return (.created UUID.nil (some e))
  | .insert .. => .return (.created UUID.nil (some ("payout: insert request: " ++ e)))
  | .insertMerchant .. => .return (.created UUID.nil (some ("payout: insert merchant request: " ++ e)))
  | .consumeQuote req _ => .goto (.reject req.id e e)
  | .setQuotedFee req .. =>
    .goto (.reject req.id "failed to persist quoted fee" ("payout: persist quoted fee: " ++ e))
  | .reject id _ err => .return (.created id (some err))
  | .postHold req | .awaitHold req _ => s.job.holdFailed req.id e
  | .holdTx req => s.job.holdFailed req.id ("resolve hold tx id: " ++ e)
  | .toHeld req _ => s.job.holdFailed req.id ("transition to held: " ++ e)
  | .enqueue id _ => s.job.enqueued id false
  | .dispatch cmd | .recordCall cmd .. | .setSubmitError cmd .. | .listCalls cmd .. | .listTried cmd ..
  | .routeFailover cmd .. | .failover cmd .. | .rejectGateway cmd .. | .acceptGateway cmd ..
  | .toVendorPending cmd .. => .goto (.failCommand cmd.id)
  | .failCommand _ | .completeCommand _ => .task true
  | .closeLoad _ c .. => c.closed (some e)
  | .resolveFee c .. => c.closed (some ("payout: resolve fee: " ++ e))
  | .closePost _ c req .. => .goto (.closeFailed c req.id e)
  | .closeAwait _ c id _ => .goto (.closeFailed c id e)
  | .closeTx k c _ => c.closed (some ("resolve " ++ k.kind.name ++ " tx id: " ++ e))
  | .toClosed k c .. =>
    let status := match k with | .settle => "settled" | .cancel _ => "cancelled"
    c.closed (some ("transition to " ++ status ++ ": " ++ e))
  | .setReason c .. => c.closed none
  | .closeFailed c _ err => c.closed (some err)
  | .reconcile c .. => c.closed (some ("reconcile after lost race: " ++ e))
  | .reconcileError c .. => c.closed none
  | .list =>
    match s.job with
    | .resume stage _ _ n m =>
      .return (.resumed n m (some ("payout: resume: list stuck " ++ stage.status.name ++ ": " ++ e)))
    | _ => .return (.finished (some e))
  | .getLive _ | .hasDead _ | .recordQuery .. | .pollGateway .. => .task false
  | .ensure _ => s.job.ensured (some ("payout: ensure submit command: " ++ e))
  | .retryLive _ => .return (.finished (some ("payout: admin retry: get live command: " ++ e)))
  | .retryLoad _ | .cancelLoad .. | .cancelGateway .. | .callbackLookup .. | .callbackGateway .. =>
    .return (.finished (some e))
  -- the error of a vendor call comes with its own event
  | .submit .. | .awaitSubmit .. | .query _ => .goto s.phase

/-- An update whose statement may fail, and where the call goes after it. -/
def update (t : Tables) (s : Session) (next : Next) : Except String Db → Tables × Next
  | .ok db => ({ t with db := db }, next)
  | .error e => (t, s.onError e)

/-- After `recordVendorCall`. -/
def afterRecord (cmd : VendorCommand) (req : PayoutRequest) : VendorAnswer → Next
  | .error e => .goto (.setSubmitError cmd req e)
  | .ok result =>
    if result.status = .failed then .goto (.listCalls cmd req result) else .goto (.acceptGateway cmd req result)

/-- `handleRejected` after `ResolvePayoutRoute`. -/
def afterRoute (cmd : VendorCommand) (req : PayoutRequest) (result : PayoutResult) :
    Except RouteError RoutingCandidate → Next
  | .ok c => .goto (.failover cmd req c.vendor)
  | .error .noRoute | .error .noVendorAvailable => .goto (.rejectGateway cmd req result)
  | .error .currencyRouteUnavailable => .goto (.failCommand cmd.id)

/-- `handleAccepted` after `gatewayForVendor`. -/
def afterAccept (cmd : VendorCommand) (req : PayoutRequest) (result : PayoutResult) (gateway : String) : Next :=
  match result.status with
  | .settled => .goto (.closeLoad .settle (.relay cmd) req.id gateway)
  | .pending => .goto (.toVendorPending cmd req result.vendorRef)
  | .failed | .other _ => .goto (.failCommand cmd.id)

/-- `pollVendorPending` after `gatewayForVendor`. -/
def afterPoll (req : PayoutRequest) (result : PayoutResult) (gateway : String) : Next :=
  match result.status with
  | .settled => .goto (.closeLoad .settle (.poll req.vendor) req.id gateway)
  | .failed => .goto (.closeLoad (.cancel result.reason) (.poll req.vendor) req.id gateway)
  | .pending => .task true
  | .other _ => .task false

/-- `settle` or `cancel` on the request it loaded. A request with a quote has its fee
stored beside it. -/
def afterLoad (T : Text) (k : Closing) (c : Caller) (req : PayoutRequest) (gateway : String) : Next :=
  match req.holdTxID with
  | none =>
    c.closed (some ("payout: " ++ k.kind.name ++ ": request " ++ T.uuidString req.id ++ " has no hold_tx_id"))
  | some _ =>
    match k with
    | .cancel _ => .goto (.closePost k c req gateway none)
    | .settle =>
      if req.feeQuoteID.isSome then .goto (.closePost k c req gateway (quotedFee req))
      else .goto (.resolveFee c req gateway)

/-- `HandleVendorCallback` on the request it found. -/
def afterLookup (cb : Callback) (amount : Decimal) (req : PayoutRequest) : Next :=
  if req.amount ≠ amount ∨ req.currency ≠ cb.currency then .return (.outcome .recordedUnmatched)
  else if req.status = .settled ∨ req.status = .cancelled ∨ req.status = .failed then
    .return (.outcome .alreadyFinalized)
  else if cb.status ≠ "settled" ∧ cb.status ≠ "failed" then .return (.outcome .ignored)
  else .goto (.callbackGateway cb req)

/-- `settle` or `cancel`, as the callback says. -/
def callbackClosing (cb : Callback) : Closing :=
  if cb.status = "settled" then .settle
  else .cancel (if cb.unknownStatus ≠ "" then cb.unknownStatus else "vendor callback failed")

variable (E : Env) (now : ℕ) (d : Draw) (t : Tables)

/-- The next statement of a call: the tables after it and where the call goes. The calls
to a vendor and to the ledger (`submit`, `query`, `resolveFee` and the posts) are not
statements: they have events of their own. -/
def exec (s : Session) : Tables × Next :=
  match s.phase with
  | .route id req currency =>
    match resolvePayoutRoute E t.db d.allow req.userID currency req.amount [] with
    | .error e => (t, s.onError e.text)
    | .ok c =>
      (t, .goto (.insert (newRequest id req.userID UUID.nil req.amount currency c.vendor "") req.quoteID))
  | .insert req quoteID =>
    s.update t
      (if quoteID = "" then .goto (.postHold req)
      else
        match E.text.parseUUID quoteID with
        | .error _ =>
          .goto (.reject req.id "quote_id is not a valid UUID" "payout: quote_id is not a valid UUID")
        | .ok quote => .goto (.consumeQuote req quote))
      (t.db.insert now req)
  | .consumeQuote req quoteID =>
    match consumeFeeQuote t.quotes now req quoteID with
    | .error e => (t, s.onError e)
    | .ok q =>
      ({ t with quotes := Function.update t.quotes quoteID (some q) },
        .goto (.setQuotedFee req quoteID q.feeAmount q.feeGateway))
  | .setQuotedFee req quoteID fee feeGateway =>
    s.update t (.goto (.postHold req)) (t.db.setQuotedFee now req.id quoteID fee feeGateway)
  | .reject id reason err =>
    s.update t (.return (.created id (some err))) (t.db.transitionToRejected now id reason)
  | .routeMerchant id req =>
    match resolveMerchantVendor E t.db d.allow req.environment req.currency req.amount with
    | .error e => (t, s.onError e)
    | .ok vendor =>
      (t, .goto (.insertMerchant
        (newRequest id UUID.nil req.tenantID req.amount req.currency vendor req.downstreamKey)))
  | .insertMerchant req =>
    match t.db.insertMerchant now req with
    | .error e => (t, s.onError e)
    | .ok (db, stored) =>
      ({ t with db := db }, if stored.id ≠ req.id then .return (.created stored.id none)
        else .goto (.postHold req))
  | .toHeld req tx => s.update t (.goto (.enqueue req.id req.vendor)) (t.db.transitionToHeld now req.id tx)
  | .enqueue id vendor =>
    match t.db.enqueueInitialSubmit now d.id id vendor with
    | .error e => (t, s.onError e)
    | .ok (db, won) => ({ t with db := db }, s.job.enqueued id won)
  | .dispatch cmd =>
    match t.db.get cmd.payoutRequestID with
    | none => (t, s.onError errNotFound)
    | some req =>
      -- the request moved on between the claim and now
      if req.status ≠ .submitted then (t, .goto (.completeCommand cmd.id))
      else if !E.registered cmd.vendor then (t, s.onError ("payout: unknown vendor: " ++ cmd.vendor))
      else (t, .goto (.submit cmd req))
  | .recordCall cmd req answer =>
    s.update t (afterRecord cmd req answer)
      (t.db.insertVendorCall (vendorCall req.id answer (classifySubmitOutcome answer)))
  | .setSubmitError cmd req err => s.update t (.goto (.failCommand cmd.id)) (t.db.setError now req.id err)
  | .listCalls cmd req result =>
    if mayFailover (t.db.listVendorCalls req.id) then (t, .goto (.listTried cmd req result))
    else (t, .goto (.completeCommand cmd.id))
  | .listTried cmd req result => (t, .goto (.routeFailover cmd req result (t.db.listTriedVendors req.id)))
  | .routeFailover cmd req result tried =>
    (t, afterRoute cmd req result (resolvePayoutRoute E t.db d.allow req.userID req.currency req.amount tried))
  | .failover cmd req nextVendor =>
    match t.db.completeAndEnqueueFailover now d.id req.id cmd.id cmd.vendor nextVendor (cmd.attempt + 1) with
    | .error e => (t, s.onError e)
    | .ok (db, won) => ({ t with db := db }, if won then .task true else .goto (.completeCommand cmd.id))
  | .rejectGateway cmd req result =>
    match gatewayForVendor t.db cmd.vendor with
    | .error e => (t, s.onError e)
    | .ok gateway => (t, .goto (.closeLoad (.cancel result.reason) (.relay cmd) req.id gateway))
  | .acceptGateway cmd req result =>
    match gatewayForVendor t.db cmd.vendor with
    | .error e => (t, s.onError e)
    | .ok gateway => (t, afterAccept cmd req result gateway)
  | .toVendorPending cmd req vendorRef =>
    s.update t (.goto (.completeCommand cmd.id)) (t.db.transitionToVendorPending now req.id vendorRef)
  | .failCommand id => s.update t (.task true) (t.db.failCommand now d.jitter id)
  | .completeCommand id => s.update t (.task true) (t.db.completeCommand id)
  | .closeLoad k c id gateway =>
    match t.db.get id with
    | none => (t, s.onError errNotFound)
    | some req => (t, afterLoad E.text k c req gateway)
  | .toClosed .settle c id tx => s.update t (c.closed none) (t.db.transitionToSettled now id tx)
  | .toClosed (.cancel reason) c id tx =>
    s.update t (if reason ≠ "" then .goto (.setReason c id reason) else c.closed none)
      (t.db.transitionToCancelled now id tx)
  | .setReason c id reason => s.update t (c.closed none) (t.db.setError now id reason)
  | .closeFailed c id err => s.update t (c.closed (some err)) (t.db.setError now id err)
  | .reconcile c id err =>
    match t.db.get id with
    | none => (t, s.onError errNotFound)
    | some _ => (t, .goto (.reconcileError c id err))
  | .reconcileError c id err =>
    s.update t (c.closed none) (t.db.setError now id ("lost race to close hold: " ++ err))
  | .list =>
    match s.job with
    | .resume stage cutoff _ _ _ => (t, .listed (t.db.listStuck stage.status cutoff 100))
    | _ => (t, .listed [])
  | .getLive req =>
    if (t.db.getLiveCommand req.id).isSome then (t, .task true) else (t, .goto (.hasDead req))
  | .hasDead req => if t.db.hasDeadCommand req.id then (t, .task true) else (t, .goto (.ensure req))
  | .ensure req =>
    match t.db.ensureSubmitCommand now d.id req.id req.vendor with
    | .error e => (t, s.onError e)
    | .ok (db, _) => ({ t with db := db }, s.job.ensured none)
  | .recordQuery req answer =>
    s.update t
      (match answer with
      | .error _ => .task false
      | .ok result => .goto (.pollGateway req result))
      (t.db.insertVendorCall (vendorCall req.id answer (classifyQueryOutcome answer)))
  | .pollGateway req result =>
    match gatewayForVendor t.db req.vendor with
    | .error e => (t, s.onError e)
    | .ok gateway => (t, afterPoll req result gateway)
  | .retryLoad id =>
    match t.db.get id with
    | none => (t, s.onError errNotFound)
    | some req =>
      if req.status ≠ .submitted then
        (t, s.onError ("payout: invalid transition for current status: cannot retry request in status "
          ++ Ledger.quote req.status.name))
      else (t, .goto (.retryLive req))
  | .retryLive req =>
    if (t.db.getLiveCommand req.id).isSome then (t, .return (.finished none)) else (t, .goto (.ensure req))
  | .cancelLoad id reason =>
    match t.db.get id with
    | none => (t, s.onError errNotFound)
    | some req =>
      if req.status ≠ .submitted ∧ req.status ≠ .vendorPending then
        (t, s.onError ("payout: invalid transition for current status: cannot cancel request in status "
          ++ Ledger.quote req.status.name))
      else (t, .goto (.cancelGateway req reason))
  | .cancelGateway req reason =>
    match gatewayForVendor t.db req.vendor with
    | .error e => (t, s.onError e)
    | .ok gateway => (t, .goto (.closeLoad (.cancel reason) .admin req.id gateway))
  | .callbackLookup cb amount =>
    match t.db.getByVendorReference cb.vendor cb.externalReference with
    | none => (t, .return (.outcome .recordedUnmatched))
    | some req => (t, afterLookup cb amount req)
  | .callbackGateway cb req =>
    match gatewayForVendor t.db cb.vendor with
    | .error e => (t, s.onError e)
    | .ok gateway => (t, .goto (.closeLoad (callbackClosing cb) (.callback cb.vendor) req.id gateway))
  | .submit .. | .awaitSubmit .. | .query _ | .resolveFee .. | .postHold _ | .awaitHold .. | .holdTx _
  | .closePost .. | .closeAwait .. | .closeTx .. => (t, .goto s.phase)

end Session

/-! ## The world -/

/-- An error of `Post`. -/
inductive PostError where
  | alreadyClosed
  | other (text : String)
  deriving DecidableEq, Repr

/-- The text of the error. -/
def PostError.text : PostError → String
  | alreadyClosed => "ALREADY_CLOSED"
  | other text => text

/-- A command sent to the ledger, with the payout request it is for. -/
structure Request where
  kind : CommandKind
  requestID : UUID
  cmd : Command

/-- What the ledger posts at most once. -/
def Request.key (r : Request) : String × String := (r.cmd.idempotencyScope, r.cmd.idempotencyKey)

/-- How a request was created: by a user with a quote id, or by a merchant in an
environment. -/
inductive Origin where
  | user (quoteID : String)
  | merchant (environment : String)
  deriving DecidableEq, Repr

/-- The calls in progress are numbered. -/
abbrev SessionID := ℕ

/-- The service with its tables, the ledger and the vendors. -/
structure World where
  tables : Tables
  now : ℕ
  sessions : SessionID → Option Session
  results : SessionID → Option Result
  ledger : Server Request PostError
  /-- every call of `Submit` so far, by its vendor and request -/
  sent : List (String × UUID)
  /-- the calls of `Submit` that reached their vendor -/
  reached : List (String × UUID)
  /-- every vendor that reported a payout failed, by `Query` or by a callback -/
  reports : List (String × UUID)
  /-- the call that drew each request id -/
  origins : UUID → Option Origin

/-- No payout yet, on any routing tables and quotes. -/
def World.idle (rules : List RoutingRule) (gateways : String → Option String) (quotes : UUID → Option FeeQuote)
    (now : ℕ) : World where
  tables := ⟨⟨⟨[], by decide⟩, ⟨[], by decide⟩, [], rules, gateways⟩, quotes⟩
  now := now
  sessions := fun _ => none
  results := fun _ => none
  ledger := .empty
  sent := []
  reached := []
  reports := []
  origins := fun _ => none

/-- A call begins or goes on, or something happens outside. -/
inductive Event where
  | create (sid : SessionID) (id : UUID) (req : CreateRequest) (ans : Answers)
  | createMerchant (sid : SessionID) (id : UUID) (req : MerchantRequest) (ans : Answers)
  /-- `DispatchPendingCommands` or `DispatchFailedCommandsForRetry` -/
  | relay (sid : SessionID) (kind : ClaimKind) (picked : List UUID)
  | resumeStuck (sid : SessionID) (olderThan : ℕ)
  | adminRetry (sid : SessionID) (id : UUID)
  | adminCancel (sid : SessionID) (id : UUID) (reason : String)
  | callback (sid : SessionID) (cb : Callback)
  /-- the next statement of a session -/
  | advance (sid : SessionID) (d : Draw)
  /-- the next statement returns an error, after it took effect or instead -/
  | fail (sid : SessionID) (applied : Option Draw) (e : String)
  /-- the process ends -/
  | crash (sid : SessionID)
  /-- a call of `Submit` reaches its vendor -/
  | reaches (vendor : String) (id : UUID)
  /-- the end of a call of `Submit` -/
  | submitted (sid : SessionID) (answer : VendorAnswer)
  /-- the end of a call of `Query` -/
  | queried (sid : SessionID) (answer : VendorAnswer)
  /-- the ledger's answer to `ResolveFee` -/
  | feeResolved (sid : SessionID) (fee : Option (Decimal × String))
  /-- the ledger decides on a command it was sent -/
  | ledger (call : ℕ) (v : Verdict PostError)
  | reapStuckCommands (olderThan : ℕ)
  | replayDeadCommand (id : UUID)
  | replayAllDeadCommands (olderThan : ℕ) (picked : List UUID)
  | createRule (rule : RoutingRule)
  | updateRule (rule : RoutingRule)
  | upsertVendorGateway (vendor gateway : String)
  /-- the ledger creates a fee quote -/
  | newQuote (id : UUID) (q : FeeQuote)
  /-- another caller of the ledger consumes a fee quote -/
  | quoteConsumed (id : UUID) (ref : Ledger.QuoteRef)
  | tick (d : ℕ)

/-- The answer of a call that reached the vendor is the vendor's own. -/
def Env.consistent (E : Env) (vendor : String) (id : UUID) (reached : Bool) : VendorAnswer → Bool
  | .error _ => true
  | .ok result =>
    reached &&
      match result.status with
      | .settled | .pending => E.accepts vendor id
      | .failed => !E.accepts vendor id
      | .other _ => true

namespace World

variable (E : Env)

/-- A statement has written. -/
def withDb (w : World) (db : Db) : World := { w with tables := { w.tables with db := db } }

/-- A statement that no session waits for. -/
def apply (w : World) : Except String Db → World
  | .ok db => w.withDb db
  | .error _ => w

/-- A call returns. -/
def finish (w : World) (sid : SessionID) (r : Result) : World :=
  { w with
    sessions := Function.update w.sessions sid none
    results := Function.update w.results sid (some r) }

/-- A call goes on. -/
def enter (w : World) (sid : SessionID) (s : Session) : World :=
  { w with sessions := Function.update w.sessions sid (some s) }

/-- Session `sid` takes up the next item of its pass, or ends. -/
def enterJob (w : World) (sid : SessionID) (job : Job) : World :=
  match job.advance with
  | .inl s => w.enter sid s
  | .inr r => w.finish sid r

/-- Session `sid`, which stood at `s`, goes on. -/
def proceed (w : World) (sid : SessionID) (s : Session) : Next → World
  | .goto p => w.enter sid { s with phase := p }
  | .return r => w.finish sid r
  | .task ok => w.enterJob sid (s.job.count ok)
  | .listed rows => w.enterJob sid (s.job.withRows rows)

/-- A new call, on a session that is free. -/
def start (w : World) (sid : SessionID) (first : Except Result Session) : World :=
  match w.sessions sid with
  | some _ => w
  | none =>
    match first with
    | .ok s => w.enter sid s
    | .error r => w.finish sid r

/-- A new call that draws a request id no call drew before. -/
def startNew (w : World) (sid : SessionID) (id : UUID) (origin : Origin) (first : Except Result Session) :
    World :=
  match w.sessions sid, w.origins id with
  | none, none => { w.start sid first with origins := Function.update w.origins id (some origin) }
  | _, _ => w

/-- `GetTransactionByIdempotencyKey`: the transaction the ledger posted under the key. -/
def txOf (w : World) (key : String) : Option UUID :=
  match w.ledger.performed.findIdx? fun r => r.key = (payoutScope, key) with
  | none => none
  | some i => some (i + 1)

/-- The vendor of a failed callback that found its request goes on record. -/
def report (db : Db) : Phase → List (String × UUID)
  | .callbackLookup cb _ =>
    if cb.status = "failed" then
      match db.getByVendorReference cb.vendor cb.externalReference with
      | none => []
      | some req => [(cb.vendor, req.id)]
    else []
  | _ => []

/-- The next statement of session `sid`, the send of its command, or the receipt of the
answer once there is one. -/
def advance (w : World) (sid : SessionID) (d : Draw) (s : Session) : World :=
  match s.phase with
  | .postHold req =>
    { w.proceed sid s (.goto (.awaitHold req w.ledger.calls.length)) with
      ledger := w.ledger.send ⟨.hold, req.id, holdCommand E.text req⟩ }
  | .awaitHold req i =>
    match w.ledger.answer i with
    | none => w
    | some .done => w.proceed sid s (.goto (.holdTx req))
    | some (.refused e) => w.proceed sid s (s.onError e.text)
  | .holdTx req =>
    match w.txOf (idempotencyKey E.text .hold req.id) with
    | none => w.proceed sid s (s.onError "transaction not found")
    | some tx => w.proceed sid s (.goto (.toHeld req tx))
  | .closePost k c req gateway fee =>
    { w.proceed sid s (.goto (.closeAwait k c req.id w.ledger.calls.length)) with
      ledger := w.ledger.send
        ⟨k.kind, req.id, closeCommand E.text k.kind req (req.holdTxID.getD UUID.nil) gateway fee⟩ }
  | .closeAwait k c id i =>
    match w.ledger.answer i with
    | none => w
    | some .done => w.proceed sid s (.goto (.closeTx k c id))
    | some (.refused .alreadyClosed) => w.proceed sid s (.goto (.reconcile c id PostError.alreadyClosed.text))
    | some (.refused e) => w.proceed sid s (s.onError e.text)
  | .closeTx k c id =>
    match w.txOf (idempotencyKey E.text k.kind id) with
    | none => w.proceed sid s (s.onError "transaction not found")
    | some tx => w.proceed sid s (.goto (.toClosed k c id tx))
  | .query req => if E.registered req.vendor then w else w.proceed sid s (.task false)
  | .submit cmd req =>
    { w.proceed sid s (.goto (.awaitSubmit cmd req)) with sent := w.sent ++ [(cmd.vendor, req.id)] }
  | .awaitSubmit .. | .resolveFee .. => w
  | _ =>
    { w.proceed sid s (s.exec E w.now d w.tables).2 with
      tables := (s.exec E w.now d w.tables).1
      reports := w.reports ++ report w.tables.db s.phase }

/-- The ledger closes a hold once: no command of the other kind closed it before. -/
def closable (w : World) (r : Request) : Bool :=
  r.kind = .hold ∨
    ∀ r' ∈ w.ledger.performed, r'.requestID = r.requestID → r'.kind = .hold ∨ r'.kind = r.kind

/-- A call that begins is checked first; a refused one returns at once. -/
def step (w : World) : Event → World
  | .create sid id req ans =>
    w.startNew sid id (.user req.quoteID) <|
      match checkCreate E req ans with
      | .error e => .error (.created UUID.nil (some e))
      | .ok currency => .ok ⟨.single, .route id req currency⟩
  | .createMerchant sid id req ans =>
    w.startNew sid id (.merchant req.environment) <|
      match checkCreateMerchant req ans with
      | .error e => .error (.created UUID.nil (some e))
      | .ok _ => .ok ⟨.single, .routeMerchant id req⟩
  | .relay sid kind picked =>
    match w.sessions sid, w.tables.db.claim w.now kind picked with
    | none, .ok (db, cmds) => (w.withDb db).enterJob sid (.relay cmds)
    | _, _ => w
  | .resumeStuck sid olderThan =>
    w.start sid (.ok ⟨.resume .created (w.now - olderThan) [] 0 0, .list⟩)
  | .adminRetry sid id => w.start sid (.ok ⟨.single, .retryLoad id⟩)
  | .adminCancel sid id reason => w.start sid (.ok ⟨.single, .cancelLoad id reason⟩)
  | .callback sid cb =>
    w.start sid <|
      match checkCallback E.text cb with
      | .error e => .error (.finished (some e))
      | .ok amount => .ok ⟨.single, .callbackLookup cb amount⟩
  | .advance sid d =>
    match w.sessions sid with
    | none => w
    | some s => w.advance E sid d s
  | .fail sid applied e =>
    match w.sessions sid with
    | none => w
    | some s =>
      { w.proceed sid s (s.onError e) with
        tables := match applied with | none => w.tables | some d => (s.exec E w.now d w.tables).1 }
  | .crash sid => { w with sessions := Function.update w.sessions sid none }
  | .reaches vendor id =>
    if (vendor, id) ∈ w.sent then { w with reached := w.reached ++ [(vendor, id)] } else w
  | .submitted sid answer =>
    match w.sessions sid with
    | some ⟨job, .awaitSubmit cmd req⟩ =>
      if E.consistent cmd.vendor req.id (decide ((cmd.vendor, req.id) ∈ w.reached)) answer then
        w.enter sid ⟨job, .recordCall cmd req answer⟩
      else w
    | _ => w
  | .queried sid answer =>
    match w.sessions sid with
    | some ⟨job, .query req⟩ =>
      { w.enter sid ⟨job, .recordQuery req answer⟩ with
        reports := w.reports ++
          match answer with
          | .ok result => if result.status = .failed then [(req.vendor, req.id)] else []
          | .error _ => [] }
    | _ => w
  | .feeResolved sid fee =>
    match w.sessions sid with
    | some ⟨job, .resolveFee c req gateway⟩ => w.enter sid ⟨job, .closePost .settle c req gateway fee⟩
    | _ => w
  | .ledger i v =>
    if v = .accept ∧ !(w.ledger.calls[i]?.all fun c => w.closable c.1) then w
    else { w with ledger := w.ledger.serve Request.key i v }
  | .reapStuckCommands olderThan => w.apply (w.tables.db.reapStuckCommands w.now olderThan)
  | .replayDeadCommand id => w.apply (w.tables.db.replayDeadCommand w.now id)
  | .replayAllDeadCommands olderThan picked =>
    w.apply (w.tables.db.replayAllDeadCommands w.now olderThan picked)
  | .createRule rule => w.withDb (w.tables.db.createRule rule)
  | .updateRule rule => w.withDb (w.tables.db.updateRule rule)
  | .upsertVendorGateway vendor gateway => w.withDb (w.tables.db.upsertVendorGateway vendor gateway)
  | .newQuote id q =>
    match w.tables.quotes id with
    | none =>
      if QuoteChecks q then
        { w with tables := { w.tables with
            quotes :=
              Function.update w.tables.quotes id (some { q with consumedAt := none, consumedBy := none }) } }
      else w
    | some _ => w
  | .quoteConsumed id ref =>
    match w.tables.quotes id with
    | some q =>
      if q.open w.now then
        { w with tables := { w.tables with
            quotes := Function.update w.tables.quotes id (some (q.consume w.now ref)) } }
      else w
    | none => w
  | .tick d => { w with now := w.now + d }

end World

/-! ## A small payout

Two vendors, of which the second accepts every request, to run the model on. -/

namespace Sample

/-- Of the vendors only `zeta` accepts. -/
def env : Env where
  text := Ledger.Sample.text
  registered := fun _ => true
  supportsCurrency := fun _ _ => true
  fraudClient := false
  accepts := fun vendor _ => vendor = "zeta"

/-- A route to a vendor, of that priority. -/
def rule (id : UUID) (vendor : String) : RoutingRule :=
  ⟨id, "payout", id, true, none, none, none, none, vendor⟩

/-- No payout yet, with rules for `vendors`. -/
def world (vendors : List String) (quotes : UUID → Option FeeQuote) : World :=
  .idle (vendors.zipIdx.map fun p => rule p.2 p.1) (fun _ => some "bca") quotes 0

/-- Every check before the insert passes. -/
def answers : Answers := ⟨.ok (), .ok "IDR", .ok (), .ok true, .allow⟩

/-- The next `n` statements of a session. -/
def go (sid : SessionID) (n : ℕ) : List Event := List.replicate n (.advance sid ⟨0, 0, fun _ => true⟩)

/-- The next statement of a session, which draws an id for its command. -/
def draw (sid : SessionID) (cmdID : UUID) : List Event := [.advance sid ⟨cmdID, 0, fun _ => true⟩]

/-- A call of `Submit` that reaches its vendor and returns. -/
def submit (sid : SessionID) (vendor : String) (id : UUID) (status : PayoutStatus) : List Event :=
  go sid 2 ++ [.reaches vendor id, .submitted sid (.ok ⟨"ref", status, "declined"⟩)]

/-- Request 1 of user 1 for 100, up to its first command, which gets `cmdID`. -/
def created (cmdID : UUID) : List Event :=
  .create 1 1 ⟨1, 100, "", ""⟩ answers :: go 1 3 ++ [.ledger 0 .accept] ++ go 1 3 ++ draw 1 cmdID

end Sample

end Seev.Payout
