import Seev.Ledger.Proof.Closing

/-!
# The outcomes of a posting

A `Handle` call ends in one of three ways: nothing is committed, only its header is
committed with status `failed`, or the whole posting is. Every event other than a
commit leaves the committed state alone, so this is a property of the commit.

* `Outcome`: the three ways, for one transaction.
* `outcome_iff`: at every step of every session of every reachable world, exactly the
  commits of two kinds are outside them. A rejection is committed after the fee quote of
  the command was consumed, and a merchant payout closer leaves its original open.
* `rejection_consumes_quote`: a rejected withdrawal that used up its quote.
-/

namespace Seev.Ledger

open Lib

/-! ## The three outcomes -/

/-- The old state and a header with status `failed`. -/
def FailedOnly (db db' : Db) (txID : UUID) (rc : ResolvedCommand) : Prop :=
  txID ∉ db.txs ∧ ∃ h, h.status = .failed ∧ HeaderOf rc h ∧ db' = { db with txs := db.txs.insert txID h }

/-- The whole posting. -/
structure PostedWhole (E : Env) (db db' : Db) (txID : UUID) (rc : ResolvedCommand) : Prop where
  header : txID ∉ db.txs ∧ ∃ h, db'.txs.lookup txID = some h ∧ h.status = .posted ∧ HeaderOf rc h
  /-- the original was open and is closed by this transaction -/
  closes : closesOriginal rc.type = true → ∃ r reason, db.txs.lookup rc.referenceID = some r ∧
    r.closedByTxID = none ∧ db'.txs.lookup rc.referenceID = some (r.close txID reason)
  others : ∀ t, t ≠ txID → (closesOriginal rc.type = true → t ≠ rc.referenceID) →
    db'.txs.lookup t = db.txs.lookup t
  /-- the entries the processor built, balanced, with the balances and events they imply -/
  posting : ∃ p db₀ bal es rows, registry E rc.type = .ok p ∧ p.buildEntries db₀ rc bal = .ok es ∧
    List.Forall₂ (RowFor txID) es rows ∧
    total .debit (rows.map LedgerEntry.posting) = total .credit (rows.map LedgerEntry.posting) ∧
    db'.entries = db.entries ++ rows ∧
    (∀ a, db'.balances a = (db.balances a).map (· + net (rows.map LedgerEntry.posting) a)) ∧
    db'.outbox = db.outbox ++ p.outboxEvents rc txID es
  unquoted : rc.quoteID = "" → db'.quotes = db.quotes
  quoted : rc.quoteID ≠ "" → ∃ quoteID q now, E.text.parseUUID rc.quoteID = .ok quoteID ∧
    db.quotes quoteID = some q ∧
    db'.quotes = Function.update db.quotes quoteID (some (q.consume now (.tx txID)))

/-- **The three outcomes** of a transaction, from the committed state before to the one
after. -/
def Outcome (E : Env) (db db' : Db) (txID : UUID) (rc : ResolvedCommand) : Prop :=
  db' = db ∨ FailedOnly db db' txID rc ∨ PostedWhole E db db' txID rc

variable {E : Env} {w : World} {sid : SessionID} {s : Session} {db db' : Db}

/-! ## Quotes of transactions that exist -/

/-- A quote consumed by a transaction is consumed by one that exists. -/
def QuotesOK (db : Db) : Prop :=
  ∀ id q t, db.quotes id = some q → q.consumedBy = some (.tx t) → t ∈ db.txs

theorem QuoteEffect.quotesOK (h : QuotesOK db) (hq : QuoteEffect E db s db')
    (hmem : ∀ t ∈ db.txs, t ∈ db'.txs) (hown : s.txID ∈ db'.txs) : QuotesOK db' := by
  intro id q t hid hby
  cases hq with
  | none _ hsame => exact hmem t (h id q t (by rwa [hsame] at hid) hby)
  | consumed quoteID q₀ now _ _ _ _ hafter =>
    rw [hafter] at hid
    by_cases hne : id = quoteID
    · rw [hne, Function.update_self] at hid
      cases hid
      cases hby
      exact hown
    · rw [Function.update_of_ne hne] at hid
      exact hmem t (h id q t hid hby)

theorem quotesOK_step (hw : WorldOK E w) (h : QuotesOK w.db) (ev : Event) : QuotesOK (w.step E ev).db := by
  cases step_effect hw ev with
  | quiet hdb _ => rwa [hdb]
  | posts _ s _ _ hposts _ _ _ =>
    obtain ⟨hd, hhd, -⟩ := hposts.header
    exact hposts.quote.quotesOK h (fun t => hposts.mem_txs) (AList.lookup_isSome.1 (by simp [hhd]))
  | rejects _ s _ _ hrejects _ _ =>
    obtain ⟨hd, htxs, -, -⟩ := hrejects.header
    refine hrejects.quote.quotesOK h (fun t ht => ?_) ?_ <;> rw [htxs, AList.mem_insert]
    · exact .inr ht
    · exact .inl rfl

/-- A consumption changes the row: the transaction is new, so the quote was unconsumed. -/
theorem QuoteEffect.changes (h : QuotesOK db) (hfresh : s.txID ∉ db.txs) (hq : QuoteEffect E db s db')
    (hid : s.rc.quoteID ≠ "") : db'.quotes ≠ db.quotes := by
  cases hq with
  | none hnone _ => exact absurd hnone hid
  | consumed quoteID q now _ _ hrow hopen hafter =>
    intro heq
    have hnone : q.consumedAt = Option.none := hopen.resolve_right fun hby => hfresh (h quoteID q s.txID hrow hby)
    have hsame := congrFun heq quoteID
    rw [hafter, Function.update_self, hrow, Option.some.injEq] at hsame
    have hat := congrArg FeeQuote.consumedAt hsame
    rw [hnone] at hat
    cases hat

/-! ## The commits -/

theorem Posts.outcome (h : Posts E db s db') (hm : merchantCloser s.rc.type = false) :
    PostedWhole E db db' s.txID s.rc := by
  have hreason : (lifecycleCloseReason s.rc.type).isSome = closesOriginal s.rc.type := by
    rw [lifecycleCloseReason_isSome, hm]
    simp
  obtain ⟨p, hreg, hout⟩ := h.outbox
  obtain ⟨p', db₀, hreg', hbuilt, -⟩ := h.built.built
  rw [hreg] at hreg'
  cases hreg'
  obtain ⟨db₁, nb, hrows⟩ := h.rows
  exact {
    header := ⟨h.fresh, h.header⟩
    closes := fun hc => by
      rw [← hreason] at hc
      obtain ⟨reason, hr⟩ := Option.isSome_iff_exists.1 hc
      obtain ⟨-, row, hrow, hopen, hafter⟩ := h.closes reason hr
      exact ⟨row, reason, hrow, hopen, hafter⟩
    others := fun t hne href => h.others t hne fun hc => href (hreason ▸ hc)
    posting := ⟨p, db₀, s.merged, s.built, s.writes.entries, hreg, hbuilt,
      hrows.rowOf.imp fun _ _ hr => hr.rowFor,
      hrows.balanced, h.entries, h.balances, hout⟩
    unquoted := fun hid => by
      cases h.quote with
      | none _ hsame => exact hsame
      | consumed _ _ _ hne => exact absurd hid hne
    quoted := fun hid => by
      cases h.quote with
      | none hnone _ => exact absurd hnone hid
      | consumed quoteID q now _ hparse hrow _ hafter => exact ⟨quoteID, q, now, hparse, hrow, hafter⟩ }

theorem Rejects.outcome (h : Rejects E db s db') (hid : s.rc.quoteID = "") :
    FailedOnly db db' s.txID s.rc := by
  obtain ⟨hd, htxs, hst, hof⟩ := h.header
  refine ⟨h.fresh, hd, hst, hof, ?_⟩
  have hquotes : db'.quotes = db.quotes := by
    cases h.quote with
    | none _ hsame => exact hsame
    | consumed _ _ _ hne => exact absurd hid hne
  have hbal := h.balances
  have hent := h.entries
  have hout := h.outbox
  cases db'
  dsimp only at htxs hquotes hbal hent hout
  rw [htxs, hquotes, hbal, hent, hout]

/-- A committed header tells the outcomes apart: a new row is not the old state, and its
status says which of the other two it can be. -/
theorem outcome_of_header {txID : UUID} {rc : ResolvedCommand} {hd : TxRow} (hfresh : txID ∉ db.txs)
    (hhd : db'.txs.lookup txID = some hd) (h : Outcome E db db' txID rc) :
    (hd.status = .failed ∧ db'.quotes = db.quotes) ∨
      (hd.status = .posted ∧ PostedWhole E db db' txID rc) := by
  rcases h with rfl | ⟨-, h, hst, -, rfl⟩ | hwhole
  · exact absurd (AList.lookup_isSome.1 (by simp [hhd])) hfresh
  · rw [AList.lookup_insert, Option.some.injEq] at hhd
    exact .inl ⟨hhd ▸ hst, rfl⟩
  · obtain ⟨-, h, hh, hst, -⟩ := hwhole.header
    rw [hhd, Option.some.injEq] at hh
    exact .inr ⟨hh ▸ hst, hwhole⟩

/-- A rejection that consumed a quote is none of the three. -/
theorem Rejects.no_outcome (hquotes : QuotesOK db) (h : Rejects E db s db') (hid : s.rc.quoteID ≠ "") :
    ¬ Outcome E db db' s.txID s.rc := by
  intro hout
  obtain ⟨hd, htxs, hst, -⟩ := h.header
  have hhd : db'.txs.lookup s.txID = some hd := by rw [htxs, AList.lookup_insert]
  rcases outcome_of_header h.fresh hhd hout with ⟨-, hsame⟩ | ⟨hposted, -⟩
  · exact h.quote.changes hquotes h.fresh hid hsame
  · rw [hst] at hposted
    cases hposted

/-- A merchant payout closer leaves its original as it was. -/
theorem Posts.no_outcome (h : Posts E db s db') (hm : merchantCloser s.rc.type = true) :
    ¬ Outcome E db db' s.txID s.rc := by
  intro hout
  obtain ⟨hd, hhd, hst, -⟩ := h.header
  have hcloses : closesOriginal s.rc.type = true := by
    revert hm
    cases s.rc.type <;> simp [merchantCloser, closesOriginal]
  have hguard : lifecycleCloseReason s.rc.type = none := by
    rw [← Option.isNone_iff_eq_none, ← Option.not_isSome, lifecycleCloseReason_isSome, hm]
    simp
  rcases outcome_of_header h.fresh hhd hout with ⟨hfailed, -⟩ | ⟨-, hwhole⟩
  · rw [hst] at hfailed
    cases hfailed
  · obtain ⟨row, reason, hrow, hopen, hafter⟩ := hwhole.closes hcloses
    have hne : s.rc.referenceID ≠ s.txID := fun heq => h.fresh (heq ▸ AList.lookup_isSome.1 (by simp [hrow]))
    rw [h.others _ hne (by simp [hguard]), hrow, Option.some.injEq] at hafter
    have hby := congrArg TxRow.closedByTxID hafter
    rw [hopen] at hby
    cases hby

/-- The state and the session of a commit decide what it does. -/
theorem advance_commit (hs : w.sessions sid = some s)
    (hp : s.phase = .commit ∨ s.phase = .commitFailed) :
    (w.step E (.advance sid)).db = s.view w.db := by
  have hneeds : s.needs E w.db = [] := by
    rcases hp with hp | hp <;> simp [Session.needs, hp]
  simp only [World.step, hs, World.advance, hneeds, hp, List.all_nil, Bool.not_true, if_true]
  rfl

/-- A step that is not a commit leaves the committed state alone. -/
theorem advance_uncommitted (hs : w.sessions sid = some s)
    (hp : ¬ (s.phase = .commit ∨ s.phase = .commitFailed)) :
    (w.step E (.advance sid)).db = w.db := by
  simp only [World.step, hs, World.advance, if_neg hp]
  split
  · rfl
  · split <;> rfl

/-- **The outcomes of a posting.** In every reachable world, a step of a session has one
of the three outcomes, except exactly when it commits a rejection of a command with a fee
quote, or the posting of a merchant payout closer. -/
theorem outcome_iff (E : Env) (db : Db) (now : ℕ) (hdb : DbOK E db) (hquotes : QuotesOK db)
    (evs : List Event) (sid : SessionID) (s : Session)
    (hs : (run (World.step E) (.idle db now) evs).sessions sid = some s) :
    Outcome E (run (World.step E) (.idle db now) evs).db
        (run (World.step E) (.idle db now) (evs ++ [.advance sid])).db s.txID s.rc ↔
      ¬ (s.phase = .commitFailed ∧ s.rc.quoteID ≠ "") ∧
      ¬ (s.phase = .commit ∧ merchantCloser s.rc.type = true) := by
  have hrun : WorldOK E (run (World.step E) (.idle db now) evs) ∧
      QuotesOK (run (World.step E) (.idle db now) evs).db :=
    run_inv (I := fun w => WorldOK E w ∧ QuotesOK w.db)
      (fun _ ev hw => ⟨step_ok hw.1 ev, quotesOK_step hw.1 hw.2 ev⟩) ⟨idle_ok hdb, hquotes⟩ evs
  rw [run_append, run_cons, run_nil]
  obtain ⟨hw, hq⟩ := hrun
  generalize run (World.step E) (.idle db now) evs = w at hs hw hq ⊢
  have hok := hw.sessions sid s hs
  by_cases hp : s.phase = .commit ∨ s.phase = .commitFailed
  · rw [advance_commit hs hp]
    rcases hp with hp | hp
    · have hposts := commit_posts hw.db hok hp
      simp only [hp, reduceCtorEq, false_and, not_false_eq_true, true_and, Bool.not_eq_true]
      constructor
      · intro hout
        cases hm : merchantCloser s.rc.type with
        | true => exact absurd hout (hposts.no_outcome hm)
        | false => rfl
      · intro hm
        exact .inr (.inr (hposts.outcome hm))
    · have hrejects := commit_rejects hok hp
      simp only [hp, reduceCtorEq, false_and, not_false_eq_true, and_true, true_and, not_not]
      constructor
      · intro hout
        by_contra hid
        exact hrejects.no_outcome hq hid hout
      · intro hid
        exact .inr (.inl (hrejects.outcome hid))
  · have hnot := not_or.1 hp
    simp only [advance_uncommitted hs hp, hnot.1, hnot.2, false_and, not_false_eq_true, and_self, iff_true]
    exact .inl rfl

/-! ## A rejection that uses up a quote -/

namespace Sample

/-- The ledger with a quote of user 1 for a withdrawal of 500. -/
def quoted : Db :=
  { zeroed with
    quotes := fun id => if id = 7 then
      some ⟨1, .withdrawInitiate, "", "IDR", 500, 5, "bca", 1000, none, none⟩ else none }

/-- The withdrawal; the account has nothing. -/
def quotedWithdrawal : List Event :=
  call 1 201 { command "k1" .withdrawInitiate 500 UUID.nil with quoteID := "7" }

/-- A top-up up to its commit. -/
def uncommitted : List Event :=
  .handle 1 101 (command "k1" .moneyIn 100 UUID.nil) :: List.replicate 12 (.advance 1)

theorem zeroed_ok : DbOK env zeroed := dbOK_empty rfl zeroed_zero

theorem zeroed_quotes : QuotesOK zeroed := fun _ _ _ h => by cases h

end Sample

set_option maxRecDepth 20000 in
theorem outcome_iff_topup : ∃ s,
    (run (World.step Sample.env) (.idle Sample.zeroed 0) Sample.uncommitted).sessions 1 = some s ∧
    s.phase = .commit ∧
    (Outcome Sample.env (run (World.step Sample.env) (.idle Sample.zeroed 0) Sample.uncommitted).db
        (run (World.step Sample.env) (.idle Sample.zeroed 0) (Sample.uncommitted ++ [.advance 1])).db s.txID
          s.rc ↔
      ¬ (s.phase = .commitFailed ∧ s.rc.quoteID ≠ "") ∧
      ¬ (s.phase = .commit ∧ merchantCloser s.rc.type = true)) := by
  have hphase : ((run (World.step Sample.env) (.idle Sample.zeroed 0) Sample.uncommitted).sessions 1).map
      Session.phase = some .commit := by decide +kernel
  obtain ⟨s, hs, hp⟩ := Option.map_eq_some_iff.1 hphase
  exact ⟨s, hs, hp, outcome_iff Sample.env Sample.zeroed 0 Sample.zeroed_ok Sample.zeroed_quotes
    Sample.uncommitted 1 s hs⟩

set_option maxRecDepth 20000 in
/-- **A rejection that used up its quote.** The withdrawal is committed as `failed`, and
its quote with it: none of the three outcomes. -/
theorem rejection_consumes_quote :
    ((run (World.step Sample.env) (.idle Sample.quoted 0) Sample.quotedWithdrawal).db.txs.lookup 201).map
      TxRow.status = some .failed ∧
    ((run (World.step Sample.env) (.idle Sample.quoted 0) Sample.quotedWithdrawal).db.quotes 7).map
      FeeQuote.consumedBy = some (some (.tx 201)) ∧
    ¬ ∃ rc, Outcome Sample.env Sample.quoted
      (run (World.step Sample.env) (.idle Sample.quoted 0) Sample.quotedWithdrawal).db 201 rc := by
  have hst : ((run (World.step Sample.env) (.idle Sample.quoted 0) Sample.quotedWithdrawal).db.txs.lookup
      201).map TxRow.status = some .failed := by decide +kernel
  have hq : ((run (World.step Sample.env) (.idle Sample.quoted 0) Sample.quotedWithdrawal).db.quotes 7).map
      FeeQuote.consumedBy = some (some (.tx 201)) := by decide +kernel
  refine ⟨hst, hq, ?_⟩
  rintro ⟨rc, hout⟩
  obtain ⟨hd, hhd, hstatus⟩ := Option.map_eq_some_iff.1 hst
  rcases outcome_of_header (by decide) hhd hout with ⟨-, hsame⟩ | ⟨hposted, -⟩
  · rw [hsame] at hq
    cases hq
  · rw [hstatus] at hposted
    cases hposted

end Seev.Ledger
