import Seev.Ledger.FeeQuotes
import Seev.Ledger.Proof.Step

/-!
# A fee quote is spent once

The consumption of a posting is in its own writes until it commits. What carries the argument is that the
posting has the row from the statement to the commit, so that the row it commits over is still the one its
`WHERE` was about.

* `consume_ok`: the `WHERE` of all entry points.
* `Holds`: what a posting that has consumed a quote knows about the row.
* `step_change`: what one event does to the quotes.
* `spent_once`: the reference of a quote, its fee and its repetition, over any run.
-/

namespace Seev.Ledger.FeeQuotes

open Lib

variable {E : Env} {w w' : World} {c : Consumption} {q q' : FeeQuote} {db : Db} {now : ℕ} {sid : SessionID}
  {s s' : Session} {id quoteID userID : UUID} {call : Option Consumption}

/-! ## One statement -/

theorem consumeQuote_ok {t : TxType} {cur : Currency} {amount : Decimal} {ref : QuoteRef} :
    consumeQuote db now quoteID userID t cur amount ref = .ok q' ↔
      tryConsumeQuote db now quoteID userID t cur amount ref = some q' := by
  unfold consumeQuote
  cases tryConsumeQuote db now quoteID userID t cur amount ref with
  | some q => simp
  | none =>
    dsimp only
    split <;> simp

theorem consumeQuoteWithGateway_ok {t : TxType} {g : String} {cur : Currency}
    {amount : Decimal} {ref : QuoteRef} :
      consumeQuoteWithGateway db now quoteID userID t g cur amount ref = .ok q' ↔
      tryConsumeQuoteWithGateway db now quoteID userID t g cur amount ref = some q' := by
  unfold consumeQuoteWithGateway
  cases tryConsumeQuoteWithGateway db now quoteID userID t g cur amount ref with
  | some q => simp
  | none =>
    dsimp only
    split <;> simp

/-- **The `WHERE` of all entry points.** -/
theorem consume_ok : c.consume db now = .ok q' ↔ ∃ q, db.quotes c.quoteID = some q ∧ c.Matches q ∧
    (q.open now = true ∨ q.consumedBy = some c.ref) ∧ q' = q.consume now c.ref := by
  unfold Consumption.consume Consumption.Matches
  cases hg : c.gateway with
  | none =>
    dsimp only
    rw [consumeQuote_ok, tryConsumeQuote]
    cases db.quotes c.quoteID with
    | none => simp
    | some q =>
      simp only [Option.ite_none_right_eq_some, Option.some.injEq, Option.mem_def, reduceCtorEq, false_imp_iff,
        implies_true, and_true, exists_eq_left']
      rw [eq_comm (a := q')]
      tauto
  | some g =>
    -- the callers that name a gateway are payins, the only ones that get their quote again
    have hpayin : c.ref.isPayin = true := c.payin (by rw [hg]; rfl)
    dsimp only
    rw [consumeQuoteWithGateway_ok, tryConsumeQuoteWithGateway]
    cases db.quotes c.quoteID with
    | none => simp
    | some q =>
      simp only [hpayin, true_and, Option.ite_none_right_eq_some, Option.some.injEq, Option.mem_def, forall_eq',
        exists_eq_left']
      rw [eq_comm (a := q')]
      tauto

/-- A consumer of a row comes with the time. -/
def Stamped (db : Db) : Prop := ∀ id q, db.quotes id = some q → q.consumedAt = none → q.consumedBy = none

/-- `q'` is what `c` makes of its row. -/
def Spends (db : Db) (c : Consumption) (q' : FeeQuote) : Prop :=
  ∃ q now, db.quotes c.quoteID = some q ∧ c.Matches q ∧ (q.consumedBy = none ∨ q.consumedBy = some c.ref) ∧
    q' = q.consume now c.ref

theorem spends_of_ok (hdb : Stamped db) (h : c.consume db now = .ok q') : Spends db c q' := by
  obtain ⟨q, hrow, hmatches, hwhere, rfl⟩ := consume_ok.1 h
  refine ⟨q, now, hrow, hmatches, hwhere.imp_left fun hopen => hdb _ q hrow ?_, rfl⟩
  rw [FeeQuote.open, Bool.and_eq_true, Option.isNone_iff_eq_none] at hopen
  exact hopen.1

/-! ## A posting -/

/-- What a posting that has consumed a quote knows: it has the row, and the row is still as it found it. -/
structure Holds (E : Env) (w : Ledger.World) (sid : SessionID) (s : Session) : Prop where
  unquoted : s.phase = .insert ∨ s.phase = .quote → s.writes.quote = none
  held : ∀ quoteID q', s.writes.quote = some (quoteID, q') → s.rc.quoteID ≠ "" ∧
    E.text.parseUUID s.rc.quoteID = .ok quoteID ∧ w.locks (.quote quoteID) = some sid ∧
      Spends w.db (.posting s.rc s.txID quoteID) q'

theorem Holds.frame {w w' : Ledger.World} (h : Holds E w sid s)
    (hl : ∀ k, w.locks k = some sid → w'.locks k = some sid)
    (hq : ∀ id q, w.locks (.quote id) = some sid → w.db.quotes id = some q → w'.db.quotes id = some q) :
    Holds E w' sid s := by
  refine ⟨h.unquoted, fun quoteID q' hw => ?_⟩
  obtain ⟨hnamed, hparse, hheld, q, now, hrow, hrest⟩ := h.held quoteID q' hw
  exact ⟨hnamed, hparse, hl _ hheld, q, now, hq _ q hheld hrow, hrest⟩

theorem Holds.start (w : Ledger.World) (rc : ResolvedCommand) (attempt : ℕ) (txID : UUID) :
    Holds E w sid (.start rc attempt txID) :=
  ⟨fun _ => rfl, fun _ _ h => nomatch h⟩

/-- The statement that consumes the quote. -/
theorem quote_holds {w w' : Ledger.World} (hstamped : Stamped w.db) (h : Holds E w sid s) (hp : s.phase = .quote)
    (hx : s.exec E w.now w.db = .ok s') (hdb : w'.db = w.db)
    (hl : w'.locks = w.locks.acquire sid (s.needs E w.db)) :
    Holds E w' sid s' := by
  have hunq := h.unquoted (.inr hp)
  have hview : (s.view w.db).quotes = w.db.quotes := by
    funext id
    simp [Session.view, Writes.apply, hunq]
  have hstamped' : Stamped (s.view w.db) := by
    intro id
    rw [hview]
    exact hstamped id
  unfold Session.exec at hx
  obtain ⟨p, -, hx⟩ := bind_eq_ok.1 hx
  simp only [hp, Session.quoteStep] at hx
  obtain ⟨r, hr, hx⟩ := bind_eq_ok.1 hx
  unfold consumeFeeQuote at hr
  split at hr
  · cases hr
    obtain ⟨-, -, hx⟩ := bind_eq_ok.1 hx
    cases hx
    exact ⟨fun _ => hunq, fun _ _ hw => by rw [hunq] at hw; cases hw⟩
  rename_i hnamed
  split at hr
  · cases hr
  rename_i quoteID hparse
  split at hr
  · cases hr
  obtain ⟨q', hq', hr⟩ := bind_eq_ok.1 hr
  cases hr
  obtain ⟨-, -, hx⟩ := bind_eq_ok.1 hx
  cases hx
  refine ⟨fun hphase => by simp at hphase, fun id q'' hw => ?_⟩
  cases hw
  have hlock : w'.locks (.quote quoteID) = some sid := by
    rw [hl]
    exact Locks.acquire_of_mem (by simp [Session.needs, hp, hnamed, hparse])
  obtain ⟨q, now, hrow, hrest⟩ := spends_of_ok (c := .posting s.rc s.txID quoteID) hstamped' hq'
  exact ⟨hnamed, hparse, hlock, q, now, by rw [hdb, ← hview]; exact hrow, hrest⟩

/-- Every other statement leaves the consumption as it is. -/
theorem exec_holds {w w' : Ledger.World} (hstamped : Stamped w.db) (h : Holds E w sid s)
    (hx : s.exec E w.now w.db = .ok s') (hdb : w'.db = w.db)
    (hl : w'.locks = w.locks.acquire sid (s.needs E w.db)) :
    Holds E w' sid s' := by
  by_cases hp : s.phase = .quote
  · exact quote_holds hstamped h hp hx hdb hl
  have hkeep : Holds E w' sid s :=
    h.frame (fun k hk => by rw [hl]; exact Locks.acquire_own hk) fun id q _ hq => by rw [hdb, hq]
  cases exec_executes hx with
  | insert _ hp _ => exact ⟨fun _ => h.unquoted (.inl hp), hkeep.held⟩
  | unquoted hp' _ => exact absurd hp' hp
  | quoted _ _ hp' _ => exact absurd hp' hp
  | done _ => exact hkeep
  | preLock | flags | lock | validate | keep | close | build | deltas | entries | update | finish | reject =>
    exact ⟨fun hphase => by simp at hphase, hkeep.held⟩

/-! ## The world -/

/-- The row of a committed consumption has its reference, its dimensions and its fee. -/
def Got (db : Db) (o : Consumption × ℤ × String) : Prop :=
  ∃ q, db.quotes o.1.quoteID = some q ∧ o.1.Matches q ∧ q.consumedBy = some o.1.ref ∧ q.feeAmount = o.2.1 ∧
    q.feeGateway = o.2.2

structure Good (E : Env) (w : World) : Prop where
  stamped : Stamped w.ledger.db
  sessions : ∀ sid s, w.ledger.sessions sid = some s → Holds E w.ledger sid s
  obtained : ∀ o ∈ w.obtained, Got w.ledger.db o

/-- What one event does to the quotes; `call` is the call it is a statement of. -/
inductive Change (w w' : World) (call : Option Consumption) : Prop
  | quiet (quotes : w'.ledger.db.quotes = w.ledger.db.quotes) (obtained : w'.obtained = w.obtained)
  | consumed (c : Consumption) (q q' : FeeQuote) (now : ℕ) (called : call = some c)
      (row : w.ledger.db.quotes c.quoteID = some q) (dimensions : c.Matches q)
      (free : q.consumedBy = none ∨ q.consumedBy = some c.ref) (after : q' = q.consume now c.ref)
      (quotes : w'.ledger.db.quotes = Function.update w.ledger.db.quotes c.quoteID (some q'))
      (obtained : w'.obtained = w.obtained ++ [(c, q.feeAmount, q.feeGateway)])
  | created (id : UUID) (q : FeeQuote) (absent : w.ledger.db.quotes id = none) (fresh : q.consumedBy = none)
      (quotes : w'.ledger.db.quotes = Function.update w.ledger.db.quotes id (some q))
        (obtained : w'.obtained = w.obtained)

/-- An event of the ledger commits a posting or leaves the committed state. -/
theorem ledger_cases (w : World) (e : Ledger.Event) :
    (w.commits e = none ∧ (w.ledger.step E e).db = w.ledger.db) ∨
      ∃ sid s, e = .advance sid ∧ w.ledger.sessions sid = some s ∧ (s.phase = .commit ∨ s.phase = .commitFailed) ∧
        w.ledger.step E e = w.ledger.commit sid s := by
  by_cases hcommit : ∃ sid s, e = .advance sid ∧ w.ledger.sessions sid = some s ∧
      (s.phase = .commit ∨ s.phase = .commitFailed)
  · obtain ⟨sid, s, rfl, hs, hp⟩ := hcommit
    refine .inr ⟨sid, s, rfl, hs, hp, ?_⟩
    have hneeds : s.needs E w.ledger.db = [] := by
      rcases hp with hp | hp <;> simp [Session.needs, hp]
    simp [Ledger.World.step, hs, Ledger.World.advance, hneeds, if_pos hp]
  · refine .inl ⟨?_, ?_⟩
    · unfold World.commits
      split
      · rename_i sid
        split
        · rfl
        · rename_i s hs
          exact if_neg fun hp => hcommit ⟨sid, s, rfl, hs, hp⟩
      · rfl
    · cases step_move E w.ledger e with
      | resumes hdb _ _ => exact hdb
      | commits sid s hs hp hev _ => exact absurd ⟨sid, s, hev, hs, hp⟩ hcommit

theorem view_quotes_update (hw : s.writes.quote = some (quoteID, q)) :
    (s.view db).quotes = Function.update db.quotes quoteID (some q) := by
  funext id
  simp only [Session.view, Writes.apply, hw, Function.update_apply]

/-- **What one event does to the quotes.** -/
theorem step_change (h : Good E w) (e : Event) : Change w (w.step E e) (w.call E e) := by
  cases e with
  | ledger e =>
    rcases ledger_cases (E := E) w e with ⟨hnone, hdb⟩ | ⟨sid, s, rfl, hs, hp, hstep⟩
    · refine .quiet ?_ ?_
      · exact congrArg Db.quotes hdb
      · simp [World.step, hnone]
    have hcommits : w.commits (.advance sid) =
        s.writes.quote.map fun r => (.posting s.rc s.txID r.1, r.2.feeAmount, r.2.feeGateway) := by
      simp [World.commits, hs, if_pos hp]
    have hdb : (w.step E (.ledger (.advance sid))).ledger.db = s.view w.ledger.db := by
      simp only [World.step, hstep]
      rfl
    cases hw : s.writes.quote with
    | none =>
      refine .quiet ?_ ?_
      · rw [hdb]
        funext id
        simp [Session.view, Writes.apply, hw]
      · simp [World.step, hcommits, hw]
    | some r =>
      obtain ⟨quoteID, q'⟩ := r
      obtain ⟨hnamed, hparse, -, q, now, hrow, hmatches, hfree, rfl⟩ := (h.sessions sid s hs).held quoteID q' hw
      refine .consumed (.posting s.rc s.txID quoteID) q _ now ?_ hrow hmatches hfree rfl ?_ ?_
      · simp [World.call, hs, hnamed, hparse]
      · rw [hdb, view_quotes_update hw]
        rfl
      · simp [World.step, hcommits, hw, FeeQuote.consume]
  | standalone c =>
    simp only [World.step]
    split
    · exact .quiet rfl rfl
    split
    · exact .quiet rfl rfl
    rename_i q' hq'
    obtain ⟨q, now, hrow, hmatches, hfree, rfl⟩ := spends_of_ok h.stamped hq'
    exact .consumed c q _ now rfl hrow hmatches hfree rfl rfl rfl
  | create quoteID userID t gateway currency amount fee feeGateway expiresAt =>
    simp only [World.step]
    split
    · exact .quiet rfl rfl
    rename_i habsent
    exact .created quoteID _ (by simpa using habsent) rfl rfl rfl

theorem Change.row (h : Change w w' call) (hq : w.ledger.db.quotes id = some q) :
    w'.ledger.db.quotes id = some q ∨
      ∃ c now, call = some c ∧ c.quoteID = id ∧ c.Matches q ∧ (q.consumedBy = none ∨ q.consumedBy = some c.ref) ∧
        w'.ledger.db.quotes id = some (q.consume now c.ref) := by
  cases h with
  | quiet hquotes _ => exact .inl (by rw [hquotes, hq])
  | consumed c q₀ q' now hcalled hrow hmatches hfree hafter hquotes _ =>
    by_cases hid : id = c.quoteID
    · subst hid
      cases hq.symm.trans hrow
      exact .inr ⟨c, now, hcalled, rfl, hmatches, hfree, by rw [hquotes, Function.update_self, hafter]⟩
    · exact .inl (by rw [hquotes, Function.update_of_ne hid, hq])
  | created id' q₀ habsent _ hquotes _ =>
    have hid : id ≠ id' := by
      rintro rfl
      rw [habsent] at hq
      cases hq
    exact .inl (by rw [hquotes, Function.update_of_ne hid, hq])

/-- A consumed row keeps its consumer, its dimensions and its fee. -/
theorem Change.got {o : Consumption × ℤ × String} (h : Change w w' call)
    (hgot : Got w.ledger.db o) : Got w'.ledger.db o := by
  obtain ⟨q, hrow, hmatches, hby, hfee⟩ := hgot
  rcases h.row hrow with hsame | ⟨c, now, -, -, -, hfree, hafter⟩
  · exact ⟨q, hsame, hmatches, hby, hfee⟩
  · have href : o.1.ref = c.ref := by
      rw [hby] at hfree
      simpa using hfree
    exact ⟨_, hafter, hmatches, by rw [href]; rfl, hfee⟩

theorem Change.stamped (h : Change w w' call) (hs : Stamped w.ledger.db) :
    Stamped w'.ledger.db := by
  intro id q hq hat
  have hnew : ∀ {id' : UUID} {q' : FeeQuote},
      w'.ledger.db.quotes = Function.update w.ledger.db.quotes id' (some q') →
        (q'.consumedAt = none → q'.consumedBy = none) → q.consumedBy = none := by
    intro id' q' hquotes hq'
    rw [hquotes, Function.update_apply] at hq
    split at hq
    · cases hq
      exact hq' hat
    · exact hs id q hq hat
  cases h with
  | quiet hquotes _ => exact hs id q (by rw [← hquotes, hq]) hat
  | consumed _ _ _ _ _ _ _ _ hafter hquotes _ => exact hnew hquotes fun h => by rw [hafter] at h; cases h
  | created _ _ _ hfresh hquotes _ => exact hnew hquotes fun _ => hfresh

theorem sessions_step (h : Good E w) (e : Event) (sid : SessionID) (s : Session)
    (hs : (w.step E e).ledger.sessions sid = some s) : Holds E (w.step E e).ledger sid s := by
  cases e with
  | ledger e =>
    cases step_move E w.ledger e with
    | resumes hdb _ hsessions =>
      cases hsessions sid s hs with
      | untouched hs hl =>
        exact (h.sessions sid s hs).frame hl fun id q _ hq => by rw [← hq]; exact congrArg (Db.quotes · id) hdb
      | accepted txID _ rc _ _ _ hstart => exact hstart ▸ .start _ rc 0 txID
      | retried s₀ txID _ hstart => exact hstart ▸ .start _ s₀.rc _ txID
      | statement s₀ hs₀ _ hx hl => exact exec_holds h.stamped (h.sessions sid s₀ hs₀) hx hdb hl
    | commits sid' s' hs' hp _ hcommit =>
      have hw : (w.step E (.ledger e)).ledger = w.ledger.commit sid' s' := hcommit
      rw [hw] at hs ⊢
      obtain ⟨hne, hs, hl⟩ := endSession_sessions hs
      refine (h.sessions sid s hs).frame hl fun id q hlock hq => ?_
      -- the row another posting has is not the one that is committed
      change (s'.view w.ledger.db).quotes id = some q
      cases hquote : s'.writes.quote with
      | none => simp [Session.view, Writes.apply, hquote, hq]
      | some r =>
        obtain ⟨-, -, hlock', -⟩ := (h.sessions sid' s' hs').held r.1 r.2 hquote
        have hid : id ≠ r.1 := by
          rintro rfl
          exact hne (Locks.holder_unique hlock hlock')
        rw [view_quotes_update hquote, Function.update_of_ne hid, hq]
  | standalone c =>
    simp only [World.step] at hs ⊢
    split at hs
    · rw [if_pos ‹_›]
      exact h.sessions sid s hs
    rename_i hfree
    rw [if_neg hfree]
    split at hs
    · exact h.sessions sid s hs
    refine (h.sessions sid s hs).frame (fun _ hk => hk) fun id q hlock hq => ?_
    have hid : id ≠ c.quoteID := by
      rintro rfl
      exact hfree (by rw [hlock]; rfl)
    exact (Function.update_of_ne hid _ _).trans hq
  | create quoteID userID t gateway currency amount fee feeGateway expiresAt =>
    simp only [World.step] at hs ⊢
    split at hs
    · rw [if_pos ‹_›]
      exact h.sessions sid s hs
    rename_i habsent
    rw [if_neg habsent]
    refine (h.sessions sid s hs).frame (fun _ hk => hk) fun id q _ hq => ?_
    have hid : id ≠ quoteID := by
      rintro rfl
      exact habsent (by rw [hq]; rfl)
    exact (Function.update_of_ne hid _ _).trans hq

theorem Good.step (h : Good E w) (e : Event) : Good E (w.step E e) := by
  have hchange := step_change h e
  have hkept : ∀ o ∈ w.obtained, Got (w.step E e).ledger.db o := fun o ho => hchange.got (h.obtained o ho)
  refine ⟨hchange.stamped h.stamped, sessions_step h e, fun o ho => ?_⟩
  cases hchange with
  | quiet _ hobtained => exact hkept o (hobtained ▸ ho)
  | created _ _ _ _ _ hobtained => exact hkept o (hobtained ▸ ho)
  | consumed c q q' now _ _ hmatches _ hafter hquotes hobtained =>
    rw [hobtained, List.mem_append, List.mem_singleton] at ho
    rcases ho with ho | rfl
    · exact hkept o ho
    · exact ⟨q', by rw [hquotes, Function.update_self], by rw [hafter]; exact hmatches, by rw [hafter]; rfl,
        by rw [hafter]; rfl, by rw [hafter]; rfl⟩

def World.idle (db : Db) (now : ℕ) : World := ⟨.idle db now, []⟩

theorem good_idle (hdb : Stamped db) (now : ℕ) : Good E (.idle db now) where
  stamped := hdb
  sessions _ _ hs := nomatch hs
  obtained _ ho := nomatch ho

/-- What has been obtained stays so along a run. -/
theorem run_got {o : Consumption × ℤ × String} (h : Good E w) (hgot : Got w.ledger.db o) (es : List Event) :
    Got (run (World.step E) w es).ledger.db o :=
  (run_inv (I := fun w => Good E w ∧ Got w.ledger.db o) (fun _ e h => ⟨h.1.step e, (step_change h.1 e).got h.2⟩)
    ⟨h, hgot⟩ es).2

/-- The consumer of a row stays along a run. -/
theorem run_consumer {ref : QuoteRef} (h : Good E w)
    (hrow : ∃ q, w.ledger.db.quotes id = some q ∧ q.consumedBy = some ref) (es : List Event) :
    ∃ q, (run (World.step E) w es).ledger.db.quotes id = some q ∧ q.consumedBy = some ref := by
  refine (run_inv (I := fun w => Good E w ∧ ∃ q, w.ledger.db.quotes id = some q ∧ q.consumedBy = some ref)
    (fun w e h => ⟨h.1.step e, ?_⟩) ⟨h, hrow⟩ es).2
  obtain ⟨q, hq, hby⟩ := h.2
  rcases (step_change h.1 e).row hq with hsame | ⟨c, now, -, -, -, hfree, hafter⟩
  · exact ⟨q, hsame, hby⟩
  · rw [hby] at hfree
    exact ⟨_, hafter, by simpa [FeeQuote.consume, eq_comm] using hfree⟩

/-- **A fee quote is spent once.** After any run `es`, and any `es'` after it: the consumer of a quote does
not change; two consumptions that got the fee of one quote have one reference; a consumption that got its fee
gets the same again, at any time; and a call that does not match leaves the row as it is. -/
theorem spent_once (E : Env) (db : Db) (now : ℕ) (hdb : Stamped db) (es es' : List Event) :
    let w := run (World.step E) (.idle db now) es
    let w' := run (World.step E) w es'
    (∀ id q ref, w.ledger.db.quotes id = some q → q.consumedBy = some ref →
      ∃ q', w'.ledger.db.quotes id = some q' ∧ q'.consumedBy = some ref) ∧
    (∀ o ∈ w.obtained, ∀ o' ∈ w.obtained, o.1.quoteID = o'.1.quoteID → o.1.ref = o'.1.ref) ∧
    (∀ o ∈ w.obtained, ∀ now', ∃ q, o.1.consume w'.ledger.db now' = .ok q ∧ q.feeAmount = o.2.1 ∧
      q.feeGateway = o.2.2) ∧
    (∀ e id q, w.ledger.db.quotes id = some q → (∀ c, w.call E e = some c → c.quoteID = id → ¬c.Matches q) →
      (w.step E e).ledger.db.quotes id = some q) := by
  intro w w'
  have hgood : Good E w := run_inv (fun _ e h => h.step e) (good_idle hdb now) es
  refine ⟨fun id q ref hq hby => run_consumer hgood ⟨q, hq, hby⟩ es', fun o ho o' ho' hid => ?_,
    fun o ho now' => ?_, fun e id q hq hmismatch => ?_⟩
  · obtain ⟨q, hrow, -, hby, -⟩ := hgood.obtained o ho
    obtain ⟨q', hrow', -, hby', -⟩ := hgood.obtained o' ho'
    rw [hid] at hrow
    cases hrow.symm.trans hrow'
    exact Option.some.inj (hby.symm.trans hby')
  · obtain ⟨q, hrow, hmatches, hby, hfee⟩ := run_got hgood (hgood.obtained o ho) es'
    exact ⟨_, consume_ok.2 ⟨q, hrow, hmatches, .inr hby, rfl⟩, hfee⟩
  · rcases (step_change hgood e).row hq with hsame | ⟨c, -, hcall, hid, hmatches, -⟩
    · exact hsame
    · exact absurd hmatches (hmismatch c hcall hid)

namespace Sample

/-- A quote of user 1 for a withdrawal of 500, with a fee of 5, up to time 1000. -/
def quoted : Db :=
  { Ledger.Sample.zeroed with
    quotes := fun id => if id = 7 then
      some ⟨1, .withdrawSettle, "", "IDR", 500, 5, "bca", 1000, none, none⟩ else none }

/-- Payout `id` asks for it. -/
def payout (id : UUID) : Consumption := ⟨7, 1, .withdrawSettle, none, "IDR", 500, .payout id, fun h => nomatch h⟩

end Sample

/-- The payout that has it gets its fee again after it has expired. -/
theorem spent_once_payout :
    let w := run (World.step Ledger.Sample.env) (.idle Sample.quoted 0)
      [.standalone (Sample.payout 31), .standalone (Sample.payout 32)]
    w.obtained = [(Sample.payout 31, 5, "bca")] ∧
      ∃ q, (Sample.payout 31).consume w.ledger.db 2000 = .ok q ∧ q.feeAmount = 5 ∧ q.feeGateway = "bca" := by
  intro w
  have hobtained : w.obtained = [(Sample.payout 31, 5, "bca")] := rfl
  have hstamped : Stamped Sample.quoted := by
    intro id q hq _
    simp only [Sample.quoted, Option.ite_none_right_eq_some, Option.some.injEq] at hq
    rw [← hq.2]
  obtain ⟨-, -, hagain, -⟩ := spent_once Ledger.Sample.env Sample.quoted 0 hstamped
    [.standalone (Sample.payout 31), .standalone (Sample.payout 32)] []
  exact ⟨hobtained, hagain (Sample.payout 31, 5, "bca") (by rw [hobtained]; exact List.mem_singleton_self _) 2000⟩

end Seev.Ledger.FeeQuotes
