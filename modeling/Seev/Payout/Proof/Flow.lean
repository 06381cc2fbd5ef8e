import Seev.Payout.Proof.Rows

/-!
# From statement to statement

`Flow` is the control flow of the payout calls with what each statement found, and
`exec_flow` says that the list is complete.
-/

namespace Seev.Payout

open Lib
open Ledger (UUID Decimal Currency FeeQuote)

variable {E : Env} {w : World} {e : Event} {sid sid' : SessionID} {s s' : Session} {n : Next} {job : Job}
  {rest rows : List PayoutRequest}

/-- A call to a vendor or to the ledger, which is no statement. -/
def Phase.waits : Phase → Bool
  | .submit .. | .awaitSubmit .. | .query _ | .resolveFee .. | .postHold _ | .awaitHold .. | .holdTx _
  | .closePost .. | .closeAwait .. | .closeTx .. => true
  | _ => false

/-- Phases that end a call or log an error: they dispatch, hold and close nothing. -/
def Phase.inert : Phase → Bool
  | .reject .. | .failCommand _ | .completeCommand _ | .setReason .. | .closeFailed .. | .reconcile ..
  | .reconcileError .. => true
  | _ => false

/-- The statements of one call in their order, when `e` happens in `w`, with what the
earlier one found. -/
inductive Flow (E : Env) (w : World) (e : Event) : Phase → Phase → Prop
  | stays {p : Phase} (h : p.waits = true) : Flow E w e p p
  | inert {p p' : Phase} (h : p'.inert = true) : Flow E w e p p'
  | routed {id : UUID} {req : CreateRequest} {currency : Currency} {c : RoutingCandidate} :
    Flow E w e (.route id req currency)
      (.insert (newRequest id req.userID UUID.nil req.amount currency c.vendor "") req.quoteID)
  | inserted {req : PayoutRequest} {db : Db} (h : w.tables.db.insert w.now req = .ok db)
    (after : (w.step E e).tables.db = db) : Flow E w e (.insert req "") (.postHold req)
  | insertedQuoted {req : PayoutRequest} {quoteID : String} {quote : UUID} {db : Db}
    (h : w.tables.db.insert w.now req = .ok db) (after : (w.step E e).tables.db = db)
    (quoted : quoteID ≠ "") (parsed : E.text.parseUUID quoteID = .ok quote) :
    Flow E w e (.insert req quoteID) (.consumeQuote req quote)
  | consumed {req : PayoutRequest} {quoteID : UUID} {q : FeeQuote}
    (h : consumeFeeQuote w.tables.quotes w.now req quoteID = .ok q)
    (after : (w.step E e).tables.quotes = Function.update w.tables.quotes quoteID (some q)) :
    Flow E w e (.consumeQuote req quoteID) (.setQuotedFee req quoteID q.feeAmount q.feeGateway)
  | quoted {req : PayoutRequest} {quoteID : UUID} {fee : Decimal} {feeGateway : String} {db : Db}
    (h : w.tables.db.setQuotedFee w.now req.id quoteID fee feeGateway = .ok db)
    (after : (w.step E e).tables.db = db) : Flow E w e (.setQuotedFee req quoteID fee feeGateway) (.postHold req)
  | routedMerchant {id : UUID} {req : MerchantRequest} {allow : String → Bool} {vendor : String}
    (h : resolveMerchantVendor E w.tables.db allow req.environment req.currency req.amount = .ok vendor) :
    Flow E w e (.routeMerchant id req)
      (.insertMerchant (newRequest id UUID.nil req.tenantID req.amount req.currency vendor req.downstreamKey))
  | insertedMerchant {req stored : PayoutRequest} {db : Db}
    (h : w.tables.db.insertMerchant w.now req = .ok (db, stored)) (after : (w.step E e).tables.db = db)
    (same : stored.id = req.id) : Flow E w e (.insertMerchant req) (.postHold req)
  | sentHold {req : PayoutRequest} {i : ℕ} : Flow E w e (.postHold req) (.awaitHold req i)
  | heldAnswer {req : PayoutRequest} {i : ℕ} : Flow E w e (.awaitHold req i) (.holdTx req)
  | heldTx {req : PayoutRequest} {tx : UUID} : Flow E w e (.holdTx req) (.toHeld req tx)
  | held {req : PayoutRequest} {tx : UUID} : Flow E w e (.toHeld req tx) (.enqueue req.id req.vendor)
  | dispatched {cmd : VendorCommand} {req : PayoutRequest} (h : w.tables.db.get cmd.payoutRequestID = some req)
    (submitted : req.status = .submitted) : Flow E w e (.dispatch cmd) (.submit cmd req)
  | submits {cmd : VendorCommand} {req : PayoutRequest} (sent : (cmd.vendor, req.id) ∈ (w.step E e).sent) :
    Flow E w e (.submit cmd req) (.awaitSubmit cmd req)
  | submitted {cmd : VendorCommand} {req : PayoutRequest} {answer : VendorAnswer}
    (consistent : E.consistent cmd.vendor req.id (decide ((cmd.vendor, req.id) ∈ w.reached)) answer = true) :
    Flow E w e (.awaitSubmit cmd req) (.recordCall cmd req answer)
  | uncertain {cmd : VendorCommand} {req : PayoutRequest} {text : String} :
    Flow E w e (.recordCall cmd req (.error text)) (.setSubmitError cmd req text)
  | rejected {cmd : VendorCommand} {req : PayoutRequest} {result : PayoutResult} (h : result.status = .failed) :
    Flow E w e (.recordCall cmd req (.ok result)) (.listCalls cmd req result)
  | accepted {cmd : VendorCommand} {req : PayoutRequest} {result : PayoutResult} (h : result.status ≠ .failed) :
    Flow E w e (.recordCall cmd req (.ok result)) (.acceptGateway cmd req result)
  | mayFailover {cmd : VendorCommand} {req : PayoutRequest} {result : PayoutResult} :
    Flow E w e (.listCalls cmd req result) (.listTried cmd req result)
  | tried {cmd : VendorCommand} {req : PayoutRequest} {result : PayoutResult} {tried : List String} :
    Flow E w e (.listTried cmd req result) (.routeFailover cmd req result tried)
  | routedFailover {cmd : VendorCommand} {req : PayoutRequest} {result : PayoutResult} {tried : List String}
    {sid : SessionID} {d : Draw} {c : RoutingCandidate} (event : e = .advance sid d)
    (session : ∃ job, w.sessions sid = some ⟨job, .routeFailover cmd req result tried⟩)
    (h : resolvePayoutRoute E w.tables.db d.allow req.userID req.currency req.amount tried = .ok c) :
    Flow E w e (.routeFailover cmd req result tried) (.failover cmd req c.vendor)
  | noRoute {cmd : VendorCommand} {req : PayoutRequest} {result : PayoutResult} {tried : List String} :
    Flow E w e (.routeFailover cmd req result tried) (.rejectGateway cmd req result)
  | cancels {cmd : VendorCommand} {req : PayoutRequest} {result : PayoutResult} {gateway : String} :
    Flow E w e (.rejectGateway cmd req result) (.closeLoad (.cancel result.reason) (.relay cmd) req.id gateway)
  | settles {cmd : VendorCommand} {req : PayoutRequest} {result : PayoutResult} {gateway : String}
    (h : result.status = .settled) :
    Flow E w e (.acceptGateway cmd req result) (.closeLoad .settle (.relay cmd) req.id gateway)
  | pends {cmd : VendorCommand} {req : PayoutRequest} {result : PayoutResult} (h : result.status = .pending) :
    Flow E w e (.acceptGateway cmd req result) (.toVendorPending cmd req result.vendorRef)
  | loadedCancel {reason : String} {c : Caller} {id : UUID} {gateway : String} {req : PayoutRequest}
    (h : w.tables.db.get id = some req) :
    Flow E w e (.closeLoad (.cancel reason) c id gateway) (.closePost (.cancel reason) c req gateway none)
  | loadedQuoted {c : Caller} {id : UUID} {gateway : String} {req : PayoutRequest}
    (h : w.tables.db.get id = some req) (quoted : req.feeQuoteID.isSome = true) :
    Flow E w e (.closeLoad .settle c id gateway) (.closePost .settle c req gateway (quotedFee req))
  | loadedUnquoted {c : Caller} {id : UUID} {gateway : String} {req : PayoutRequest}
    (h : w.tables.db.get id = some req) (unquoted : req.feeQuoteID = none) (held : req.holdTxID.isSome = true) :
    Flow E w e (.closeLoad .settle c id gateway) (.resolveFee c req gateway)
  | priced {c : Caller} {req : PayoutRequest} {gateway : String} {fee : Option (Decimal × String)} :
    Flow E w e (.resolveFee c req gateway) (.closePost .settle c req gateway fee)
  | sentClose {k : Closing} {c : Caller} {req : PayoutRequest} {gateway : String}
    {fee : Option (Decimal × String)}
    {i : ℕ} : Flow E w e (.closePost k c req gateway fee) (.closeAwait k c req.id i)
  | closedAnswer {k : Closing} {c : Caller} {id : UUID} {i : ℕ} :
    Flow E w e (.closeAwait k c id i) (.closeTx k c id)
  | closedTx {k : Closing} {c : Caller} {id tx : UUID} : Flow E w e (.closeTx k c id) (.toClosed k c id tx)
  | noLive {req : PayoutRequest} : Flow E w e (.getLive req) (.hasDead req)
  | notDead {req : PayoutRequest} : Flow E w e (.hasDead req) (.ensure req)
  | queried {sid : SessionID} {req : PayoutRequest} {answer : VendorAnswer} (event : e = .queried sid answer)
    (session : ∃ job, w.sessions sid = some ⟨job, .query req⟩) :
    Flow E w e (.query req) (.recordQuery req answer)
  | recordedQuery {req : PayoutRequest} {result : PayoutResult} :
    Flow E w e (.recordQuery req (.ok result)) (.pollGateway req result)
  | pollSettles {req : PayoutRequest} {result : PayoutResult} {gateway : String} :
    Flow E w e (.pollGateway req result) (.closeLoad .settle (.poll req.vendor) req.id gateway)
  | pollCancels {req : PayoutRequest} {result : PayoutResult} {gateway : String} (h : result.status = .failed) :
    Flow E w e (.pollGateway req result)
      (.closeLoad (.cancel result.reason) (.poll req.vendor) req.id gateway)
  | retryLoaded {id : UUID} {req : PayoutRequest} (h : w.tables.db.get id = some req) :
    Flow E w e (.retryLoad id) (.retryLive req)
  | retries {req : PayoutRequest} : Flow E w e (.retryLive req) (.ensure req)
  | cancelLoaded {id : UUID} {reason : String} {req : PayoutRequest} :
    Flow E w e (.cancelLoad id reason) (.cancelGateway req reason)
  | adminCancels {req : PayoutRequest} {reason gateway : String} :
    Flow E w e (.cancelGateway req reason) (.closeLoad (.cancel reason) .admin req.id gateway)
  | callbackFound {cb : Callback} {amount : Decimal} {req : PayoutRequest}
    (h : w.tables.db.getByVendorReference cb.vendor cb.externalReference = some req)
    (terminal : cb.status = "settled" ∨ cb.status = "failed")
    (report : cb.status = "failed" → (cb.vendor, req.id) ∈ (w.step E e).reports) :
    Flow E w e (.callbackLookup cb amount) (.callbackGateway cb req)
  | callbackCloses {cb : Callback} {req : PayoutRequest} {gateway : String} :
    Flow E w e (.callbackGateway cb req)
      (.closeLoad (Session.callbackClosing cb) (.callback cb.vendor) req.id gateway)

section Flow

variable {p : Phase}

theorem step_advance {d : Draw} (hs : w.sessions sid = some s) :
    w.step E (.advance sid d) = w.advance E sid d s := by
  simp only [World.step, hs]

theorem Caller.closed_inert {c : Caller} {err : Option String} (h : c.closed err = .goto p) : p.inert = true := by
  cases c with
  | relay cmd =>
    simp only [Caller.closed] at h
    split at h <;> cases h <;> rfl
  | poll | admin => cases h
  | callback vendor =>
    simp only [Caller.closed] at h
    split at h <;> cases h

theorem Job.holdFailed_ne {id : UUID} {text : String} : job.holdFailed id text ≠ .goto p := by
  cases job <;> exact nofun

theorem Job.enqueued_ne {id : UUID} {ok : Bool} : job.enqueued id ok ≠ .goto p := by
  cases job <;> exact nofun

theorem Job.ensured_ne {err : Option String} : job.ensured err ≠ .goto p := by
  cases job <;> exact nofun

/-- An error leads to the end of the call, or back to a vendor call. -/
theorem onError_flow {text : String} (h : s.onError text = .goto p) : Flow E w e s.phase p := by
  obtain ⟨job, q⟩ := s
  cases q <;> simp only [Session.onError] at h <;> try first
    | cases h <;> first | exact .inert rfl | exact .stays rfl
    | exact .inert (Caller.closed_inert h)
    | exact absurd h Job.holdFailed_ne
    | exact absurd h Job.enqueued_ne
    | exact absurd h Job.ensured_ne
  case list => cases job <;> cases h

theorem advance_reports {d : Draw} {cb : Callback} {amount : Decimal} (hs : w.sessions sid = some s)
    (hp : s.phase = .callbackLookup cb amount) :
    (w.step E (.advance sid d)).reports = w.reports ++ World.report w.tables.db s.phase := by
  rw [step_advance hs]
  simp only [World.advance, hp]

theorem callbackLookup_flow {d : Draw} {cb : Callback} {amount : Decimal}
    (hs : w.sessions sid = some ⟨job, .callbackLookup cb amount⟩)
    (hn : (Session.exec E w.now d w.tables ⟨job, .callbackLookup cb amount⟩).2 = .goto p) :
    Flow E w (.advance sid d) (.callbackLookup cb amount) p := by
  simp only [Session.exec] at hn
  split at hn
  · cases hn
  · rename_i req hget
    unfold Session.afterLookup at hn
    split at hn
    · cases hn
    · split at hn
      · cases hn
      · split at hn <;> cases hn
        rename_i hst
        refine .callbackFound hget (by tauto) fun hfailed => ?_
        rw [advance_reports hs rfl]
        simp [World.report, hfailed, hget]

theorem error_flow {t : Tables} {text : String} (h : (t, s.onError text).2 = .goto p) : Flow E w e s.phase p :=
  onError_flow h

theorem closeLoad_flow {d : Draw} {k : Closing} {c : Caller} {id : UUID} {gateway : String}
    (hn : (Session.exec E w.now d w.tables ⟨job, .closeLoad k c id gateway⟩).2 = .goto p) :
    Flow E w e (.closeLoad k c id gateway) p := by
  simp only [Session.exec] at hn
  split at hn
  · exact error_flow hn
  · rename_i req hget
    unfold Session.afterLoad at hn
    split at hn
    · exact .inert (Caller.closed_inert hn)
    · rename_i hhold
      cases k with
      | cancel reason =>
        cases hn
        exact .loadedCancel hget
      | settle =>
        simp only at hn
        split at hn <;> cases hn
        · rename_i hq
          exact .loadedQuoted hget hq
        · rename_i hq
          exact .loadedUnquoted hget (by simpa using hq) (by rw [hhold]; rfl)

/-- An update that fails, or leads to where it says. -/
theorem update_flow {x : Except String Db} (ht : (w.step E e).tables = (s.update w.tables n x).1)
    (hn : (s.update w.tables n x).2 = .goto p)
    (h : ∀ db, x = .ok db → (w.step E e).tables.db = db → n = .goto p → Flow E w e s.phase p) :
    Flow E w e s.phase p := by
  cases x with
  | error text => exact onError_flow hn
  | ok db => exact h db rfl (congrArg Tables.db ht) hn

theorem insert_flow {d : Draw} {req : PayoutRequest} {quoteID : String}
    (ht : (w.step E e).tables = (Session.exec E w.now d w.tables ⟨job, .insert req quoteID⟩).1)
    (hn : (Session.exec E w.now d w.tables ⟨job, .insert req quoteID⟩).2 = .goto p) :
    Flow E w e (.insert req quoteID) p := by
  refine update_flow ht hn fun db h hdb hnext => ?_
  split at hnext
  · rename_i hq
    subst hq
    cases hnext
    exact .inserted h hdb
  · rename_i hq
    split at hnext <;> cases hnext
    · exact .inert rfl
    · rename_i hparse
      exact .insertedQuoted h hdb hq hparse

theorem insertMerchant_flow {d : Draw} {req : PayoutRequest}
    (ht : (w.step E e).tables = (Session.exec E w.now d w.tables ⟨job, .insertMerchant req⟩).1)
    (hn : (Session.exec E w.now d w.tables ⟨job, .insertMerchant req⟩).2 = .goto p) :
    Flow E w e (.insertMerchant req) p := by
  simp only [Session.exec] at ht hn
  split at hn
  · cases hn
  · rename_i db stored h
    simp only [h] at ht
    split at hn <;> cases hn
    rename_i hsame
    exact .insertedMerchant h (congrArg Tables.db ht) (not_not.1 hsame)

theorem consumeQuote_flow {d : Draw} {req : PayoutRequest} {quoteID : UUID}
    (ht : (w.step E e).tables = (Session.exec E w.now d w.tables ⟨job, .consumeQuote req quoteID⟩).1)
    (hn : (Session.exec E w.now d w.tables ⟨job, .consumeQuote req quoteID⟩).2 = .goto p) :
    Flow E w e (.consumeQuote req quoteID) p := by
  simp only [Session.exec] at ht hn
  split at hn
  · exact error_flow hn
  · rename_i q hq
    simp only [hq] at ht
    cases hn
    exact .consumed hq (congrArg Tables.quotes ht)

theorem dispatch_flow {d : Draw} {cmd : VendorCommand}
    (hn : (Session.exec E w.now d w.tables ⟨job, .dispatch cmd⟩).2 = .goto p) : Flow E w e (.dispatch cmd) p := by
  simp only [Session.exec] at hn
  split at hn
  · exact error_flow hn
  · rename_i req hget
    split at hn
    · cases hn
      exact .inert rfl
    · rename_i hsub
      split at hn
      · exact error_flow hn
      · cases hn
        exact .dispatched hget (not_not.1 hsub)

theorem afterRecord_flow {cmd : VendorCommand} {req : PayoutRequest} {answer : VendorAnswer}
    (hn : Session.afterRecord cmd req answer = .goto p) : Flow E w e (.recordCall cmd req answer) p := by
  cases answer with
  | error text =>
    cases hn
    exact .uncertain
  | ok result =>
    simp only [Session.afterRecord] at hn
    split at hn <;> cases hn
    · rename_i hf
      exact .rejected hf
    · rename_i hf
      exact .accepted hf

theorem routeFailover_flow {d : Draw} {cmd : VendorCommand} {req : PayoutRequest} {result : PayoutResult}
    {tried : List String} (hs : w.sessions sid = some ⟨job, .routeFailover cmd req result tried⟩)
    (hn : Session.afterRoute cmd req result
      (resolvePayoutRoute E w.tables.db d.allow req.userID req.currency req.amount tried) = .goto p) :
    Flow E w (.advance sid d) (.routeFailover cmd req result tried) p := by
  cases hr : resolvePayoutRoute E w.tables.db d.allow req.userID req.currency req.amount tried with
  | ok c =>
    rw [hr] at hn
    cases hn
    exact .routedFailover rfl ⟨job, hs⟩ hr
  | error err =>
    rw [hr] at hn
    cases err <;> cases hn
    · exact .noRoute
    · exact .noRoute
    · exact .inert rfl

theorem acceptGateway_flow {d : Draw} {cmd : VendorCommand} {req : PayoutRequest} {result : PayoutResult}
    (hn : (Session.exec E w.now d w.tables ⟨job, .acceptGateway cmd req result⟩).2 = .goto p) :
    Flow E w e (.acceptGateway cmd req result) p := by
  simp only [Session.exec, Session.afterAccept] at hn
  split at hn
  · exact error_flow hn
  · split at hn <;> cases hn
    · exact .settles (by assumption)
    · exact .pends (by assumption)
    · exact .inert rfl
    · exact .inert rfl

theorem pollGateway_flow {d : Draw} {req : PayoutRequest} {result : PayoutResult}
    (hn : (Session.exec E w.now d w.tables ⟨job, .pollGateway req result⟩).2 = .goto p) :
    Flow E w e (.pollGateway req result) p := by
  simp only [Session.exec, Session.afterPoll] at hn
  split at hn
  · exact error_flow hn
  · split at hn <;> cases hn
    · exact .pollSettles
    · exact .pollCancels (by assumption)

theorem toClosed_flow {d : Draw} {k : Closing} {c : Caller} {id tx : UUID}
    (ht : (w.step E e).tables = (Session.exec E w.now d w.tables ⟨job, .toClosed k c id tx⟩).1)
    (hn : (Session.exec E w.now d w.tables ⟨job, .toClosed k c id tx⟩).2 = .goto p) :
    Flow E w e (.toClosed k c id tx) p := by
  cases k with
  | settle => exact update_flow ht hn fun _ _ _ hn => .inert (Caller.closed_inert hn)
  | cancel reason =>
    refine update_flow ht hn fun _ _ _ hn => ?_
    split at hn
    · cases hn
      exact .inert rfl
    · exact .inert (Caller.closed_inert hn)

/-- **Where a statement leads.** -/
theorem exec_flow {d : Draw} (hs : w.sessions sid = some s)
    (ht : (w.step E (.advance sid d)).tables = (s.exec E w.now d w.tables).1)
    (hn : (s.exec E w.now d w.tables).2 = .goto p) : Flow E w (.advance sid d) s.phase p := by
  obtain ⟨job, q⟩ := s
  cases q with
  | insert => exact insert_flow ht hn
  | insertMerchant => exact insertMerchant_flow ht hn
  | dispatch => exact dispatch_flow hn
  | recordCall => exact update_flow ht hn fun _ _ _ hn => afterRecord_flow hn
  | routeFailover => exact routeFailover_flow hs hn
  | toClosed => exact toClosed_flow ht hn
  | setQuotedFee => exact update_flow ht hn fun _ h hdb hn => by cases hn; exact .quoted h hdb
  | toHeld => exact update_flow ht hn fun _ _ _ hn => by cases hn; exact .held
  | reject | failCommand | completeCommand => exact update_flow ht hn fun _ _ _ hn => by cases hn
  | setSubmitError | toVendorPending => exact update_flow ht hn fun _ _ _ hn => by cases hn; exact .inert rfl
  | setReason | closeFailed | reconcileError =>
    exact update_flow ht hn fun _ _ _ hn => .inert (Caller.closed_inert hn)
  | recordQuery req answer =>
    refine update_flow ht hn fun _ _ _ hn => ?_
    cases answer <;> cases hn
    exact .recordedQuery
  | consumeQuote => exact consumeQuote_flow ht hn
  | closeLoad => exact closeLoad_flow hn
  | callbackLookup => exact callbackLookup_flow hs hn
  | acceptGateway => exact acceptGateway_flow hn
  | pollGateway => exact pollGateway_flow hn
  | route =>
    simp only [Session.exec] at hn
    split at hn <;> cases hn
    exact .routed
  | routeMerchant =>
    simp only [Session.exec] at hn
    split at hn <;> cases hn
    exact .routedMerchant (by assumption)
  | enqueue =>
    simp only [Session.exec] at hn
    split at hn <;> exact absurd hn Job.enqueued_ne
  | ensure =>
    simp only [Session.exec] at hn
    split at hn <;> exact absurd hn Job.ensured_ne
  | listCalls =>
    simp only [Session.exec] at hn
    split at hn <;> cases hn
    · exact .mayFailover
    · exact .inert rfl
  | failover =>
    simp only [Session.exec] at hn
    split at hn
    · exact error_flow hn
    · split at hn <;> cases hn
      exact .inert rfl
  | rejectGateway =>
    simp only [Session.exec] at hn
    split at hn <;> cases hn
    · exact .inert rfl
    · exact .cancels
  | reconcile =>
    simp only [Session.exec] at hn
    split at hn
    · exact error_flow hn
    · cases hn
      exact .inert rfl
  | list => cases job <;> cases hn
  | getLive =>
    simp only [Session.exec] at hn
    split at hn <;> cases hn
    exact .noLive
  | hasDead =>
    simp only [Session.exec] at hn
    split at hn <;> cases hn
    exact .notDead
  | retryLoad =>
    simp only [Session.exec] at hn
    split at hn
    · cases hn
    · split at hn <;> cases hn
      exact .retryLoaded (by assumption)
  | retryLive =>
    simp only [Session.exec] at hn
    split at hn <;> cases hn
    exact .retries
  | cancelLoad =>
    simp only [Session.exec] at hn
    split at hn
    · cases hn
    · split at hn <;> cases hn
      exact .cancelLoaded
  | cancelGateway =>
    simp only [Session.exec] at hn
    split at hn <;> cases hn
    exact .adminCancels
  | callbackGateway =>
    simp only [Session.exec] at hn
    split at hn <;> cases hn
    exact .callbackCloses
  | listTried => cases hn; exact .tried
  | submit | awaitSubmit | query | resolveFee | postHold | awaitHold | holdTx | closePost | closeAwait
  | closeTx =>
    cases hn
    exact .stays rfl

end Flow

theorem onError_ne_listed {t : Tables} {text : String} : (t, s.onError text).2 ≠ .listed rows := by
  obtain ⟨job, p⟩ := s
  intro h
  cases p <;> simp only [Session.onError, Job.holdFailed, Job.enqueued, Job.ensured, Caller.closed] at h <;>
    (try split at h) <;> (try split at h) <;> cases h

theorem mem_listStuck {db : Db} {status : Status} {olderThan limit : ℕ} {r : PayoutRequest}
    (h : r ∈ db.listStuck status olderThan limit) : r ∈ db.requests.1 ∧ r.status = status := by
  have h := List.mem_of_mem_take h
  rw [List.mem_insertionSort, List.mem_filter] at h
  exact ⟨h.1, (of_decide_eq_true h.2).1⟩

/-- Only the list of a resume pass is listed. -/
theorem exec_ne_listed {d : Draw} (hn : (s.exec E w.now d w.tables).2 = .listed rows) : s.phase = .list := by
  obtain ⟨job, p⟩ := s
  cases p with
  | list => rfl
  | toClosed k =>
    cases k <;> simp only [Session.exec, Session.update, Caller.closed] at hn <;> (repeat' split at hn) <;>
      first | cases hn | exact absurd hn onError_ne_listed
  | _ =>
    simp only [Session.exec, Session.update, Session.afterRecord, Session.afterRoute, Session.afterAccept,
      Session.afterPoll, Session.afterLoad, Session.afterLookup, Job.enqueued, Job.ensured, Caller.closed] at hn
    repeat' split at hn
    all_goals first | cases hn | exact absurd hn onError_ne_listed

/-- The list a resume pass reads when `e` happens in `w`, with its stage. -/
def World.listing (w : World) : Event → Option (Stage × List PayoutRequest)
  | .advance sid _ =>
    match w.sessions sid with
    | some ⟨.resume stage cutoff .., .list⟩ => some (stage, w.tables.db.listStuck stage.status cutoff 100)
    | _ => none
  | _ => none

theorem listing_mem {stage : Stage} (h : w.listing e = some (stage, rows)) {r : PayoutRequest} (hr : r ∈ rows) :
    r ∈ w.tables.db.requests.1 ∧ r.status = stage.status := by
  unfold World.listing at h
  split at h
  · split at h <;> cases h
    exact mem_listStuck hr
  · cases h

theorem exec_listed {d : Draw} (hs : w.sessions sid = some s) (hn : (s.exec E w.now d w.tables).2 = .listed rows)
    {stage : Stage} {cutoff i j : ℕ} (hjob : s.job = .resume stage cutoff rest i j) :
    w.listing (.advance sid d) = some (stage, rows) := by
  have hp := exec_ne_listed hn
  obtain ⟨job, p⟩ := s
  cases hp
  cases hjob
  cases hn
  simp only [World.listing, hs]

end Seev.Payout
