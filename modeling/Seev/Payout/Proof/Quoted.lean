import Seev.Ledger.Proof.Balances
import Seev.Payout.Proof.Vendors

/-!
# Payouts with a quote

`Create` inserts the request, consumes its quote, stores the quoted fee and only then
posts the hold; each is a commit of its own. The quote id itself is not stored before the
fee is: a resume pass that finds the request in `created` cannot tell whether it has a
quote.

* `Locked`: the quote is consumed for the request and its fee is stored on the row.
* `quoted_payout_charged`: a request with a quote is held, submitted and settled only with
  its quote consumed, and charged the quote's fee, when every resume pass that lists it in
  `created` finds the stored fee.
* `quoted_payout_repriced`: after a crash before the quote is consumed, a resume pass
  holds the request, and the settlement charges another fee.
-/

namespace Seev.Payout

open Lib
open Ledger (UUID Decimal Currency FeeQuote)

variable {E : Env} {w : World} {e : Event} {sid : SessionID} {s s' : Session} {id quote : UUID} {q : FeeQuote}
  {now : ℕ} {quoteID : String} {r : PayoutRequest}

/-! ## Quotes -/

theorem consumeFeeQuote_eq_ok {quotes : UUID → Option FeeQuote} {req : PayoutRequest} {q' : FeeQuote}
    (h : consumeFeeQuote quotes now req quote = .ok q') :
    ∃ q, quotes quote = some q ∧ (q.open now = true ∨ q.consumedBy = some (.payout req.id)) ∧
      q' = q.consume now (.payout req.id) := by
  unfold consumeFeeQuote at h
  split at h
  · cases h
  · rename_i q hq
    dsimp only at h
    split at h
    · rename_i hmatch
      cases h
      exact ⟨q, hq, hmatch.2.2.2.2, rfl⟩
    · split at h <;> cases h

/-- Only the consumption of a quote changes the quotes. -/
theorem exec_quotes {d : Draw} {t : Tables} (s : Session) :
    (s.exec E now d t).1.quotes = t.quotes ∨ ∃ req quote q, consumeFeeQuote t.quotes now req quote = .ok q ∧
      (s.exec E now d t).1.quotes = Function.update t.quotes quote (some q) := by
  obtain ⟨job, p⟩ := s
  have hupdate : ∀ {s : Session} {n x}, (s.update t n x).1.quotes = t.quotes := by
    intro s n x
    cases x <;> rfl
  cases p with
  | consumeQuote req quote =>
    simp only [Session.exec]
    split
    · exact .inl rfl
    · rename_i hc
      exact .inr ⟨_, _, _, hc, rfl⟩
  | toClosed k => cases k <;> exact .inl hupdate
  | list => cases job <;> exact .inl rfl
  | _ =>
    left
    simp only [Session.exec]
    first
    | done
    | exact hupdate
    | repeat' split
      all_goals rfl

/-- The quote was consumed for the payout request. -/
structure Consumed (w : World) (quote id : UUID) (q : FeeQuote) : Prop where
  row : w.tables.quotes quote = some q
  ref : q.consumedBy = some (.payout id)
  closed : q.consumedAt.isSome = true
  checks : QuoteChecks q

theorem Consumed.not_open (h : Consumed w quote id q) : q.open now = false := by
  have hclosed := h.closed
  simp only [FeeQuote.open, Bool.and_eq_false_iff]
  left
  cases hq : q.consumedAt with
  | none => simp [hq] at hclosed
  | some t => rfl

/-- A consumed quote stays as it is. -/
theorem Consumed.step (h : Consumed w quote id q) : Consumed (w.step E e) quote id q := by
  refine ⟨?_, h.ref, h.closed, h.checks⟩
  have other : ∀ {quote' : UUID} {x : Option FeeQuote}, quote ≠ quote' →
      Function.update w.tables.quotes quote' x quote = some q := by
    intro quote' x hne
    rw [Function.update_of_ne hne]
    exact h.row
  cases step_tables (E := E) (w := w) (e := e) with
  | same ht => rw [ht]; exact h.row
  | @exec sid s d hs he hx =>
    rw [hx]
    rcases exec_quotes s with hq | ⟨req, quote', q', hc, hq⟩
    · rw [hq]; exact h.row
    · rw [hq]
      by_cases hne : quote = quote'
      · subst hne
        obtain ⟨q0, hq0, hopen, rfl⟩ := consumeFeeQuote_eq_ok hc
        rw [h.row] at hq0
        cases hq0
        -- it can only be consumed again under the same reference
        have href : q.consumedBy = some (.payout req.id) := by
          rcases hopen with hopen | href
          · rw [h.not_open] at hopen
            cases hopen
          · exact href
        obtain ⟨t, ht⟩ := Option.isSome_iff_exists.1 h.closed
        have hsame : q.consume w.now (.payout req.id) = q := by
          cases q
          simp only [FeeQuote.consume] at href ht ⊢
          rw [href, ht]
          rfl
        rw [Function.update_self, hsame]
      · exact other hne
  | commands _ _ _ hq => rw [hq]; exact h.row
  | routing _ _ hq => rw [hq]; exact h.row
  | newQuote hfresh _ ht =>
    rw [ht]
    refine other fun hne => ?_
    rw [← hne, h.row] at hfresh
    cases hfresh
  | quoteConsumed hwas hopen ht =>
    rw [ht]
    refine other fun hne => ?_
    rw [← hne, h.row] at hwas
    cases hwas
    rw [h.not_open] at hopen
    cases hopen

/-- Every quote satisfies the constraints of its table. -/
def QuotesOK (w : World) : Prop := ∀ quote q, w.tables.quotes quote = some q → QuoteChecks q

theorem QuotesOK.step (h : QuotesOK w) : QuotesOK (w.step E e) := by
  have updated : ∀ {quote' : UUID} {q' : FeeQuote}, QuoteChecks q' → ∀ quote q,
      Function.update w.tables.quotes quote' (some q') quote = some q → QuoteChecks q := by
    intro quote' q' hq' quote q hq
    by_cases hne : quote = quote'
    · subst hne
      rw [Function.update_self] at hq
      cases hq
      exact hq'
    · rw [Function.update_of_ne hne] at hq
      exact h quote q hq
  intro quote q hq
  cases step_tables (E := E) (w := w) (e := e) with
  | same ht => exact h quote q (ht ▸ hq)
  | @exec sid s d hs he hx =>
    rw [hx] at hq
    rcases exec_quotes s with hsame | ⟨req, quote', q', hc, hup⟩
    · exact h quote q (hsame ▸ hq)
    · obtain ⟨q0, hq0, -, rfl⟩ := consumeFeeQuote_eq_ok hc
      have hchecks : QuoteChecks (q0.consume w.now (.payout req.id)) := (h _ q0 hq0 :)
      rw [hup] at hq
      exact updated hchecks quote q hq
  | commands _ _ _ hsame => exact h quote q (hsame ▸ hq)
  | routing _ _ hsame => exact h quote q (hsame ▸ hq)
  | newQuote _ hchecks ht =>
    rw [ht] at hq
    exact updated hchecks quote q hq
  | @quoteConsumed _ q0 ref hwas _ ht =>
    have hchecks : QuoteChecks (q0.consume w.now ref) := (h _ q0 hwas :)
    rw [ht] at hq
    exact updated hchecks quote q hq

theorem QuoteChecks.fee_inInt64 (h : QuoteChecks q) : Decimal.inInt64 q.feeAmount = true := by
  obtain ⟨-, hin, hfee, hlt⟩ := h
  rw [Ledger.inInt64_iff] at hin ⊢
  omega

/-! ## Requests with a quote -/

/-- `P` of the quote id of the request, if it was created with one. -/
def ForQuoted (w : World) (id : UUID) (P : String → Prop) : Prop :=
  ∃ o, w.origins id = some o ∧ ∀ quoteID, o = .user quoteID → quoteID ≠ "" → P quoteID

theorem ForQuoted.step {P P' : String → Prop} (h : ForQuoted w id P) (hP : ∀ quoteID, P quoteID → P' quoteID) :
    ForQuoted (w.step E e) id P' := by
  obtain ⟨o, ho, hq⟩ := h
  exact ⟨o, origins_step ho, fun quoteID h1 h2 => hP _ (hq quoteID h1 h2)⟩

theorem ForQuoted.elim {P : String → Prop} (h : ForQuoted w id P)
    (ho : w.origins id = some (.user quoteID)) (hne : quoteID ≠ "") : P quoteID := by
  obtain ⟨o, ho', hq⟩ := h
  rw [ho] at ho'
  exact hq quoteID (Option.some.inj ho').symm hne

/-- The quote is consumed for the request, and its fee is stored on the request's row. -/
def Locked (E : Env) (w : World) (id : UUID) (quoteID : String) : Prop :=
  ∃ quote q, E.text.parseUUID quoteID = .ok quote ∧ Consumed w quote id q ∧
    ∃ r ∈ w.tables.db.requests.1, r.id = id ∧ r.feeQuoteID = some quote ∧ r.feeAmount = some (q.feeAmount : ℚ) ∧
      r.feeGateway = q.feeGateway

/-- A request with a quote has it locked. -/
def Ready (E : Env) (w : World) (id : UUID) : Prop := ForQuoted w id (Locked E w id)

/-- The fee a settlement charges under the quote. -/
def chargedFee (q : FeeQuote) : Option (Decimal × String) :=
  if (0 : ℚ) < q.feeAmount then some ((q.feeAmount : ℚ), q.feeGateway) else none

theorem quotedFee_eq (hfee : r.feeAmount = some (q.feeAmount : ℚ))
    (hgateway : r.feeGateway = q.feeGateway) : quotedFee r = chargedFee q := by
  simp only [quotedFee, hfee, hgateway, chargedFee]

/-- The quote is consumed, and `fee` is what it charges. -/
def Charges (E : Env) (w : World) (id : UUID) (fee : Option (Decimal × String)) (quoteID : String) : Prop :=
  ∃ quote q, E.text.parseUUID quoteID = .ok quote ∧ Consumed w quote id q ∧ fee = chargedFee q

theorem Charges.step {fee : Option (Decimal × String)} (h : Charges E w id fee quoteID) :
    Charges E (w.step E e) id fee quoteID := by
  obtain ⟨quote, q, hparse, hc, hfee⟩ := h
  exact ⟨quote, q, hparse, hc.step, hfee⟩

/-- The statement holds the quote `quote` for request `id`. -/
def Holds (E : Env) (w : World) (id quote : UUID) : Prop :=
  ∃ quoteID, w.origins id = some (.user quoteID) ∧ quoteID ≠ "" ∧ E.text.parseUUID quoteID = .ok quote ∧
    ∃ r ∈ w.tables.db.requests.1, r.id = id

/-- The request was created with a quote. -/
def Origin.quoted : Origin → Bool
  | user quoteID => quoteID ≠ ""
  | merchant _ => false

/-- What a statement knows of the quote of its request. -/
def Phase.Quotes (E : Env) (w : World) : Phase → Prop
  | .consumeQuote req quote => Holds E w req.id quote
  | .setQuotedFee req quote fee feeGateway =>
    Holds E w req.id quote ∧
      ∃ q, Consumed w quote req.id q ∧ fee = (q.feeAmount : ℚ) ∧ feeGateway = q.feeGateway
  | .postHold req | .awaitHold req _ | .holdTx req | .toHeld req _ | .submit _ req | .awaitSubmit _ req =>
    Ready E w req.id
  | .resolveFee _ req _ => ForQuoted w req.id fun _ => False
  | .closePost .settle _ req _ fee => ForQuoted w req.id (Charges E w req.id fee)
  | _ => True

/-- What the ledger was sent for a request with a quote. -/
def Request.Quotes (E : Env) (w : World) (r : Request) : Prop :=
  r.kind ≠ .cancel → ForQuoted w r.requestID fun quoteID =>
    ∃ quote q, E.text.parseUUID quoteID = .ok quote ∧ Consumed w quote r.requestID q ∧
      (r.kind = .settle → ∃ gateway, r.cmd.metadata = closeMetadata E.text gateway (chargedFee q))

/-- Requests with a quote are held, submitted and settled with their quote locked. -/
structure Quoted (E : Env) (w : World) : Prop where
  paying : Paying E w
  quotes : QuotesOK w
  rows : ∀ r ∈ w.tables.db.requests.1,
    (r.status ≠ .created ∧ r.status ≠ .rejected) ∨ r.holdTxID.isSome = true → Ready E w r.id
  stored : ∀ r ∈ w.tables.db.requests.1, r.feeQuoteID.isSome = true → Ready E w r.id
  sessions : ∀ sid s, w.sessions sid = some s → s.Sat (Phase.Quotes E w)
  sent : ∀ x ∈ w.sent, Ready E w x.2
  calls : ∀ c ∈ w.ledger.calls, c.1.Quotes E w
  performed : ∀ r ∈ w.ledger.performed, r.Quotes E w

theorem Quoted.idle (E : Env) (rules : List RoutingRule) (gateways : String → Option String)
    {quotes : UUID → Option FeeQuote} (hq : ∀ quote q, quotes quote = some q → QuoteChecks q) (now : ℕ) :
    Quoted E (World.idle rules gateways quotes now) where
  paying := .idle ..
  quotes := hq
  rows := fun r h => by simp [World.idle] at h
  stored := fun r h => by simp [World.idle] at h
  sessions := fun sid s h => by simp [World.idle] at h
  sent := fun x h => by simp [World.idle] at h
  calls := fun c h => by simp [World.idle, Server.empty] at h
  performed := fun r h => by simp [World.idle, Server.empty] at h

/-- A resume pass lists a request with a quote in `created` only when its fee is stored. -/
def ListsLocked (w : World) (e : Event) : Prop :=
  ∀ x ∈ w.listing e, x.1 = .created → ∀ r ∈ x.2, ∀ o ∈ w.origins r.id, o.quoted = true →
    r.feeQuoteID.isSome = true

instance : Decidable (ListsLocked w e) := inferInstanceAs (Decidable (∀ x ∈ w.listing e, _))

/-! ### One step -/

theorem holds_step (h : r ∈ w.tables.db.requests.1) :
    ∃ r' ∈ (w.step E e).tables.db.requests.1, r'.id = r.id := by
  rcases step_rows_image (E := E) (e := e) h with hr | ⟨sid, s, r', -, -, hr', hrw⟩
  · exact ⟨r, hr, rfl⟩
  · exact ⟨r', hr', hrw.id_eq⟩

theorem setQuotedFee_mem {db db' : Db} {fee : Decimal} {feeGateway : String}
    (h : db.setQuotedFee now id quote fee feeGateway = .ok db') (hr : r ∈ db'.requests.1) (hid : r.id = id) :
    r.feeQuoteID = some quote ∧ r.feeAmount = some (fee.intPart : ℚ) ∧ r.feeGateway = feeGateway := by
  obtain ⟨_, rfl⟩ := setRequests_eq_ok.1 h
  obtain ⟨r0, hr0, rfl⟩ := List.mem_map.1 hr
  by_cases heq : r0.id = id
  · simp [heq]
  · simp only [heq, decide_false, Bool.false_eq_true, if_false] at hid

theorem Request.Quotes.step {r : Request} (h : r.Quotes E w) : r.Quotes E (w.step E e) := by
  intro hk
  refine (h hk).step fun quoteID hq => ?_
  obtain ⟨quote, q, hparse, hc, hfee⟩ := hq
  exact ⟨quote, q, hparse, hc.step, hfee⟩

theorem Holds.step (h : Holds E w id quote) : Holds E (w.step E e) id quote := by
  obtain ⟨quoteID, ho, hne, hparse, r, hr, rfl⟩ := h
  exact ⟨quoteID, origins_step ho, hne, hparse, holds_step hr⟩

section Step

variable (hI : Quoted E w)

include hI

/-- A stored fee is rewritten with the same fee only. -/
theorem Quoted.locked_step (ho : w.origins id = some (.user quoteID))
    (h : Locked E w id quoteID) : Locked E (w.step E e) id quoteID := by
  obtain ⟨quote, q, hparse, hc, r, hr, hid, hquote, hfee, hgateway⟩ := h
  refine ⟨quote, q, hparse, hc.step, ?_⟩
  rcases step_rows_image (E := E) (e := e) hr with hr' | ⟨sid, s, r', -, hs, hr', hrw⟩
  · exact ⟨r, hr', hid, hquote, hfee, hgateway⟩
  · refine ⟨r', hr', hrw.id_eq.trans hid, ?_⟩
    have hphase := (hI.sessions sid s hs).1
    cases hrw with
    | @quoted req quote' fee' feeGateway' hp hreq =>
      rw [hp] at hphase
      obtain ⟨⟨quoteID', ho', -, hparse', -⟩, q', hc', rfl, rfl⟩ := hphase
      rw [← hreq, hid, ho] at ho'
      cases ho'
      rw [hparse] at hparse'
      cases hparse'
      have hq' := hc'.row
      rw [hc.row] at hq'
      cases hq'
      exact ⟨rfl, by rw [Ledger.intPart_intCast hc.checks.fee_inInt64], rfl⟩
    | _ => exact ⟨hquote, hfee, hgateway⟩

theorem Quoted.ready_step (h : Ready E w id) : Ready E (w.step E e) id := by
  obtain ⟨o, ho, hq⟩ := h
  refine ⟨o, origins_step ho, fun quoteID ho' hne => ?_⟩
  exact hI.locked_step (ho.trans (congrArg some ho')) (hq quoteID ho' hne)

theorem Quoted.phase_step {p : Phase} (h : p.Quotes E w) : p.Quotes E (w.step E e) := by
  unfold Phase.Quotes at h ⊢
  split at h
  case h_1 => exact h.step
  case h_2 =>
    obtain ⟨hh, q, hc, hfee⟩ := h
    exact ⟨hh.step, q, hc.step, hfee⟩
  case h_9 => exact h.step fun _ hF => hF
  case h_10 => exact h.step fun _ => Charges.step
  case h_11 => trivial
  all_goals exact hI.ready_step h

theorem Quoted.rows_step (hr : r ∈ (w.step E e).tables.db.requests.1)
    (h : (r.status ≠ .created ∧ r.status ≠ .rejected) ∨ r.holdTxID.isSome = true) :
      Ready E (w.step E e) r.id := by
  rcases step_rows hr with hold | ⟨sid, s, -, hs, ⟨r0, hr0, hrw⟩ | hins⟩
  · exact hI.ready_step (hI.rows r hold h)
  · rw [hrw.id_eq]
    have hphase := (hI.sessions sid s hs).1
    refine hI.ready_step ?_
    cases hrw with
    | held hp hid =>
      rw [hp] at hphase
      rw [hid]
      exact hphase
    | submitted _ _ hwas =>
      exact hI.rows r0 hr0 (.inl (by rcases hwas with h | h <;> rw [h] <;> decide))
    | pending _ _ hwas => exact hI.rows r0 hr0 (.inl (by rw [hwas]; decide))
    | settled _ _ hwas =>
      exact hI.rows r0 hr0 (.inl (by rcases hwas with h | h <;> rw [h] <;> decide))
    | cancelled _ _ hwas =>
      exact hI.rows r0 hr0 (.inl (by rcases hwas with h | h <;> rw [h] <;> decide))
    | rejected => exact hI.rows r0 hr0 (.inr (by simpa using h))
    | error | quoted | moved => exact hI.rows r0 hr0 h
  · obtain ⟨job, p⟩ := s
    cases hins <;> simp [Db.newRow] at h

theorem Quoted.stored_step (hr : r ∈ (w.step E e).tables.db.requests.1)
    (h : r.feeQuoteID.isSome = true) : Ready E (w.step E e) r.id := by
  rcases step_rows hr with hold | ⟨sid, s, -, hs, ⟨r0, hr0, hrw⟩ | hins⟩
  · exact hI.ready_step (hI.stored r hold h)
  · have hphase := (hI.sessions sid s hs).1
    cases hrw with
    | @quoted req quote fee feeGateway hp hid =>
      rw [hp] at hphase
      obtain ⟨⟨quoteID, ho, hne, hparse, -⟩, q, hc, rfl, rfl⟩ := hphase
      rw [← hid] at ho hc
      refine ⟨_, origins_step ho, fun quoteID' ho' _ => ?_⟩
      cases ho'
      refine ⟨quote, q, hparse, hc.step, _, hr, rfl, rfl, ?_, rfl⟩
      rw [Ledger.intPart_intCast hc.checks.fee_inInt64]
    | _ => exact hI.ready_step (hI.stored r0 hr0 h)
  · obtain ⟨job, p⟩ := s
    cases hins <;> simp [Db.newRow] at h

theorem Quoted.flow {p p' : Phase} {job : Job} (hs : w.sessions sid = some ⟨job, p⟩) (h : Flow E w e p p')
    (hp : p.Quotes E (w.step E e)) : p'.Quotes E (w.step E e) := by
  have hdrawn := (hI.paying.fresh.drawn sid _ hs).1
  cases h with
  | stays | sentHold | heldAnswer | heldTx | submits => exact hp
  | @inert _ p' hinert => cases p' <;> trivial
  | inserted =>
    exact ⟨_, origins_step hdrawn, fun quoteID ho hne => absurd (Origin.user.inj ho).symm hne⟩
  | insertedQuoted hins hafter hne hparse =>
    obtain ⟨r, hr, hid, -⟩ := insert_mem hins
    exact ⟨_, origins_step hdrawn, hne, hparse, r, hafter ▸ hr, hid⟩
  | insertedMerchant =>
    obtain ⟨env, ho, -⟩ := hdrawn
    exact ⟨_, origins_step ho, fun quoteID ho' => by cases ho'⟩
  | @consumed req quoteID q hc hafter =>
    obtain ⟨q0, hq0, -, rfl⟩ := consumeFeeQuote_eq_ok hc
    have hchecks : QuoteChecks (q0.consume w.now (.payout req.id)) := (hI.quotes _ q0 hq0 :)
    refine ⟨hp, _, ⟨?_, rfl, rfl, hchecks⟩, rfl, rfl⟩
    rw [hafter, Function.update_self]
  | @quoted req quote fee feeGateway db hset hafter =>
    obtain ⟨⟨quoteID, ho, hne, hparse, r, hr, hid⟩, q, hc, rfl, rfl⟩ := hp
    obtain ⟨hquote, hfee, hgateway⟩ := setQuotedFee_mem hset (hafter ▸ hr) hid
    refine ⟨_, ho, fun quoteID' ho' _ => ?_⟩
    cases ho'
    rw [Ledger.intPart_intCast hc.checks.fee_inInt64] at hfee
    exact ⟨quote, q, hparse, hc, r, hr, hid, hquote, hfee, hgateway⟩
  | dispatched hget hst =>
    exact hI.ready_step (hI.rows _ (get_eq_some hget).1 (.inl (by rw [hst]; decide)))
  | @loadedQuoted c id gateway req hget hquoted =>
    have hrow := (get_eq_some hget).1
    refine (hI.stored req hrow hquoted).step fun quoteID hlocked => ?_
    obtain ⟨quote, q, hparse, hc, r, hr, hid, -, hfee, hgateway⟩ := hlocked
    cases row_unique hr hrow hid
    exact ⟨quote, q, hparse, hc.step, quotedFee_eq hfee hgateway⟩
  | @loadedUnquoted c id gateway req hget hun hheld =>
    have hrow := (get_eq_some hget).1
    refine (hI.rows req hrow (.inr hheld)).step fun quoteID hlocked => ?_
    -- a held request with a quote has its fee stored
    obtain ⟨quote, q, -, -, r, hr, hid, hquote, -⟩ := hlocked
    cases row_unique hr hrow hid
    rw [hun] at hquote
    cases hquote
  | priced =>
    obtain ⟨o, ho, hno⟩ := hp
    exact ⟨o, ho, fun quoteID ho' hne => (hno quoteID ho' hne).elim⟩
  | _ => trivial

theorem Quoted.listed (hC : ListsLocked w e) {stage : Stage} {rows : List PayoutRequest}
    (hlist : w.listing e = some (stage, rows)) (hr : r ∈ rows) (hmem : r ∈ w.tables.db.requests.1) :
    (stage.first r).Quotes E (w.step E e) := by
  cases stage with
  | created =>
    refine hI.ready_step ?_
    obtain ⟨o, ho⟩ := Option.isSome_iff_exists.1 (hI.paying.fresh.known r hmem)
    by_cases hq : o.quoted = true
    · exact hI.stored r hmem (hC _ hlist rfl r hr o ho hq)
    · refine ⟨o, ho, fun quoteID heq hne => absurd ?_ hq⟩
      rw [heq]
      exact decide_eq_true hne
  | _ => trivial

/-- What goes to the ledger for a request with a quote, and what it performs. -/
theorem Quoted.ledger_step :
    (∀ c ∈ (w.step E e).ledger.calls, c.1.Quotes E (w.step E e)) ∧
      ∀ r ∈ (w.step E e).ledger.performed, r.Quotes E (w.step E e) := by
  have hold : (∀ c ∈ w.ledger.calls, c.1.Quotes E (w.step E e)) ∧
      ∀ r ∈ w.ledger.performed, r.Quotes E (w.step E e) :=
    ⟨fun c hc => (hI.calls c hc).step, fun r hr => (hI.performed r hr).step⟩
  have sends : ∀ {r : Request}, r.Quotes E w → (∀ c ∈ (w.ledger.send r).calls, c.1.Quotes E (w.step E e)) ∧
      ∀ r' ∈ (w.ledger.send r).performed, r'.Quotes E (w.step E e) := by
    intro r hr
    refine ⟨fun c hc => ?_, hold.2⟩
    rcases List.mem_append.1 hc with hc | hc
    · exact hold.1 c hc
    · cases List.mem_singleton.1 hc
      exact hr.step
  have hlogs := (step_effect (E := E) (w := w) (e := e)).2
  generalize hrec : (w.step E e).records = rec at hlogs
  have hledger : (w.step E e).ledger = rec.ledger := by rw [← hrec]; rfl
  rw [hledger]
  cases hlogs with
  | hold _ hs =>
    refine sends fun _ => ?_
    obtain ⟨o, ho, hq⟩ := (hI.sessions _ _ hs).1
    refine ⟨o, ho, fun quoteID h1 h2 => ?_⟩
    obtain ⟨quote, q, hparse, hc, -⟩ := hq quoteID h1 h2
    exact ⟨quote, q, hparse, hc, fun hk => by cases hk⟩
  | @close sid job d k c req gateway fee _ hs =>
    cases k with
    | cancel reason => exact sends fun hk => absurd rfl hk
    | settle =>
      refine sends fun _ => ?_
      obtain ⟨o, ho, hq⟩ := (hI.sessions _ _ hs).1
      refine ⟨o, ho, fun quoteID h1 h2 => ?_⟩
      obtain ⟨quote, q, hparse, hc, hfee⟩ := hq quoteID h1 h2
      exact ⟨quote, q, hparse, hc, fun _ => ⟨gateway, by rw [← hfee]; rfl⟩⟩
  | served =>
    refine ⟨fun c hc => ?_, fun r hr => ?_⟩
    · obtain ⟨c', hc', heq, -⟩ := Server.mem_calls_serve hc
      rw [← heq]
      exact hold.1 c' hc'
    · rcases Server.mem_performed_serve hr with hr | ⟨-, hcall⟩
      · exact hold.2 r hr
      · exact hold.1 _ (List.mem_of_getElem? hcall)
  | _ => exact hold

/-- **Locked quotes stay locked**, and nothing is held, submitted or settled without. -/
theorem Quoted.step (hC : ListsLocked w e) : Quoted E (w.step E e) where
  paying := hI.paying.step e
  quotes := hI.quotes.step
  rows := fun _ hr h => hI.rows_step hr h
  stored := fun _ hr h => hI.stored_step hr h
  sessions := fun sid s' hs' => by
    refine (step_sessions hs').sat (fun s hs => (hI.sessions sid s hs).mono fun p hp => hI.phase_step hp)
      (fun s hf => ?_) (fun c _ => trivial) (fun stage rows hlist r hr hmem _ => hI.listed hC hlist hr hmem)
        trivial
      (fun p p' job hs hflow hp => hI.flow hs hflow hp)
    cases hf with
    | resume => exact ⟨trivial, fun r hr => absurd hr List.not_mem_nil⟩
    | _ => exact ⟨trivial, trivial⟩
  sent := fun x hx => by
    rcases step_sent hx with hx | ⟨sid, job, cmd, req, hs, rfl⟩
    · exact hI.ready_step (hI.sent x hx)
    · exact hI.ready_step (hI.sessions sid _ hs).1
  calls := hI.ledger_step.1
  performed := hI.ledger_step.2

end Step

/-- The quote the request was created with was consumed with its reference. -/
def World.ConsumedFor (E : Env) (w : World) (id : UUID) (quoteID : String) (q : FeeQuote) : Prop :=
  ∃ quote, E.text.parseUUID quoteID = .ok quote ∧ w.tables.quotes quote = some q ∧
    q.consumedBy = some (.payout id)

theorem Ready.consumedFor (h : Ready E w id) (ho : w.origins id = some (.user quoteID))
    (hne : quoteID ≠ "") : ∃ q, w.ConsumedFor E id quoteID q := by
  obtain ⟨quote, q, hparse, hc, -⟩ := ForQuoted.elim h ho hne
  exact ⟨q, quote, hparse, hc.row, hc.ref⟩

/-- **A quoted payout charges its quote or nothing**: in every run in which a resume pass
lists a request with a quote in `created` only with its fee stored, such a request is held,
submitted and settled only with its quote consumed for it, and the settlement charges the
quote's fee. -/
theorem quoted_payout_charged (E : Env) (rules : List RoutingRule) (gateways : String → Option String)
    (quotes : UUID → Option FeeQuote) (hq : ∀ quote q, quotes quote = some q → QuoteChecks q) (now : ℕ)
    (es : List Event) (h : Along (World.step E) ListsLocked (World.idle rules gateways quotes now) es)
    (w : World) (hw : w = run (World.step E) (World.idle rules gateways quotes now) es) (id : UUID)
    (quoteID : String) (ho : w.origins id = some (.user quoteID)) (hne : quoteID ≠ "") :
    (∀ r ∈ w.ledger.performed, r.requestID = id → r.kind ≠ .cancel →
      ∃ q, w.ConsumedFor E id quoteID q ∧
        (r.kind = .settle → ∃ gateway, r.cmd.metadata = closeMetadata E.text gateway (chargedFee q))) ∧
      (∀ x ∈ w.sent, x.2 = id → ∃ q, w.ConsumedFor E id quoteID q) ∧
      ∀ r ∈ w.tables.db.requests.1, r.id = id → r.status ≠ .created → r.status ≠ .rejected →
        ∃ q, w.ConsumedFor E id quoteID q := by
  have hI : Quoted E w := by
    rw [hw]
    exact run_inv_of_along (I := Quoted E) (fun _ _ hI hC => hI.step hC) (.idle E rules gateways hq now) h
  refine ⟨?_, ?_, ?_⟩
  · rintro r hr rfl hk
    obtain ⟨quote, q, hparse, hc, hfee⟩ := (hI.performed r hr hk).elim ho hne
    exact ⟨q, ⟨quote, hparse, hc.row, hc.ref⟩, hfee⟩
  · rintro x hx rfl
    exact (hI.sent x hx).consumedFor ho hne
  · rintro r hr rfl h1 h2
    exact (hI.rows r hr (.inl ⟨h1, h2⟩)).consumedFor ho hne

namespace Sample

/-- Quote 9 of user 1: a fee of 5 on a withdrawal of 100. -/
def quotes : UUID → Option FeeQuote :=
  fun id => if id = 9 then some ⟨1, .withdrawSettle, "", "IDR", 100, 5, "bca", 5000, none, none⟩ else none

/-- Request 1 with quote 9; the process ends after `n` statements, a resume pass holds and
enqueues the request, and the vendor settles it. -/
def resumedAfter (n : ℕ) : List Event :=
  .create 1 1 ⟨1, 100, "", "9"⟩ answers :: go 1 n ++ [.crash 1, .tick 1000, .resumeStuck 2 300] ++ go 2 2 ++
    [.ledger 0 .accept] ++ go 2 3 ++ draw 2 11 ++ .relay 3 .pending [11] :: submit 3 "zeta" 1 .settled ++ go 3
      3 ++
    [.feeResolved 3 (some (7, "bca"))] ++ go 3 1 ++ [.ledger 1 .accept]

/-- What the ledger performed: the command and the fee it charges. -/
def performed (w : World) : List (CommandKind × UUID × Option Ledger.MetaValue) :=
  w.ledger.performed.map fun r => (r.kind, r.requestID, r.cmd.metadata .feeAmount)

end Sample

theorem Sample.quotes_checks (quote : UUID) (q : FeeQuote) (h : Sample.quotes quote = some q) :
    QuoteChecks q := by
  unfold Sample.quotes at h
  split at h <;> cases h
  decide

set_option maxRecDepth 20000 in
/-- A crash after the fee is stored: the resumed payout is charged the quoted fee. -/
theorem quoted_payout_charged_resumed :
    Along (World.step Sample.env) ListsLocked (Sample.world ["zeta"] Sample.quotes) (Sample.resumedAfter 4) ∧
      Sample.performed (run (World.step Sample.env) (Sample.world ["zeta"] Sample.quotes)
        (Sample.resumedAfter 4)) =
        [(.hold, 1, none), (.settle, 1, some (.str "5"))] ∧
      ∃ q, (run (World.step Sample.env) (Sample.world ["zeta"] Sample.quotes) (Sample.resumedAfter 4)).ConsumedFor
        Sample.env 1 "9" q := by
  have h : Along (World.step Sample.env) ListsLocked (Sample.world ["zeta"] Sample.quotes)
      (Sample.resumedAfter 4) := by
    decide +kernel
  refine ⟨h, by decide +kernel, ?_⟩
  have hsent : ("zeta", 1) ∈ (run (World.step Sample.env) (Sample.world ["zeta"] Sample.quotes)
      (Sample.resumedAfter 4)).sent := by
    decide +kernel
  exact (quoted_payout_charged Sample.env _ _ Sample.quotes Sample.quotes_checks 0 (Sample.resumedAfter 4) h _ rfl
    1
    "9" (by decide +kernel) (by decide)).2.1 _ hsent rfl

set_option maxRecDepth 20000 in
/-- **A crash before the quote is consumed**: the resume pass holds the request without its
quote, and the settlement charges the fee of the day. -/
theorem quoted_payout_repriced :
    (run (World.step Sample.env) (Sample.world ["zeta"] Sample.quotes) (Sample.resumedAfter 2)).origins 1 =
        some (.user "9") ∧
      ((run (World.step Sample.env) (Sample.world ["zeta"] Sample.quotes)
        (Sample.resumedAfter 2)).tables.quotes 9).map (·.consumedBy) = some none ∧
      Sample.performed (run (World.step Sample.env) (Sample.world ["zeta"] Sample.quotes)
        (Sample.resumedAfter 2)) =
        [(.hold, 1, none), (.settle, 1, some (.str "7"))] := by
  decide +kernel

end Seev.Payout
