import Seev.Ledger.Proof.Session

/-!
# Each statement keeps what the session knows

One lemma for each phase, and `exec_ok` for all of them: after a statement that
succeeds, with the rows it locked, the session knows what its new phase promises.
-/

namespace Seev.Ledger

open Lib

variable {E : Env} {sid : SessionID} {db : Db} {L : Locks LockKey SessionID} {s s' : Session} {now : ℕ}
  {rc : ResolvedCommand} {a id txID : UUID} {p : TxProcessor}

/-- Taking locks changes nothing for the session that takes them. -/
theorem Frame.acquire (sid : SessionID) (db : Db) (L : Locks LockKey SessionID) (ks : List LockKey) :
    Frame sid db L db (L.acquire sid ks) where
  locks _ hk := Locks.acquire_own hk
  balances _ _ := rfl
  tx _ _ := rfl
  later _ h hh := ⟨h, hh, .refl h⟩
  quotes _ _ := rfl
  entries := ⟨[], by simp, by simp⟩

/-! ## Sessions that agree

The statements change a few fields each; what depends on the others carries over. -/

/-- The two sessions differ at most in phase and writes. -/
structure SameCore (s s' : Session) : Prop where
  rc : s'.rc = s.rc
  txID : s'.txID = s.txID
  flags : s'.flags = s.flags
  userBalances : s'.userBalances = s.userBalances
  built : s'.built = s.built

theorem Quoted.congr (h : Quoted E db L sid s) (heq : s'.rc.quoteID = s.rc.quoteID ∧
    s'.txID = s.txID ∧ s'.writes.quote = s.writes.quote) : Quoted E db L sid s' := by
  obtain ⟨hid, htx, hw⟩ := heq
  cases h with
  | none hn hq => exact .none (hid.trans hn) (hw.trans hq)
  | consumed quoteID q now hn hparse hheld hrow hfresh hq =>
    exact .consumed quoteID q now (hid ▸ hn) (hid ▸ hparse) hheld hrow (htx ▸ hfresh) (by rw [hw, hq, htx])

section Agree

variable (hc : SameCore s s')

include hc

theorem SameCore.resolved (h : Resolved db s) : Resolved db s' := by
  unfold Resolved at h ⊢
  rwa [hc.rc]

theorem SameCore.own (hw : s'.writes.header = s.writes.header)
    (h : Own db L sid s) : Own db L sid s' := by
  obtain ⟨h1, h2, h3⟩ := h
  exact ⟨by rwa [hc.txID], by rwa [hc.txID], by rwa [hw, hc.rc]⟩

theorem SameCore.userIDs : s'.userIDs = s.userIDs := by
  unfold Session.userIDs
  rw [hc.rc, hc.flags]

theorem SameCore.systemIDs : s'.systemIDs = s.systemIDs := by
  unfold Session.systemIDs
  rw [hc.rc, hc.flags]

theorem SameCore.merged : s'.merged = s.merged := by
  unfold Session.merged
  rw [hc.systemIDs, hc.flags, hc.userBalances]

theorem SameCore.split : s'.split = s.split := by
  unfold Session.split
  rw [hc.built, hc.systemIDs]

theorem SameCore.systemDeltas : s'.systemDeltas = s.systemDeltas := by
  unfold Session.systemDeltas
  rw [hc.split]

theorem SameCore.userNewBalances : s'.userNewBalances = s.userNewBalances := by
  unfold Session.userNewBalances
  rw [hc.split, hc.userBalances]

theorem SameCore.held (h : Held E db L sid s) : Held E db L sid s' := by
  obtain ⟨h1, h2, h3⟩ := h
  exact ⟨by rwa [hc.userIDs], by rwa [hc.userIDs, hc.userBalances],
    by rwa [hc.userIDs, hc.userBalances]⟩

theorem SameCore.checked (h : Checked E db s) : Checked E db s' := by
  obtain ⟨h1, h2, h3⟩ := h
  exact ⟨by rwa [hc.rc, hc.merged], by rwa [hc.rc, hc.merged], by rwa [hc.rc]⟩

theorem SameCore.closing (hw : s'.writes.closed = s.writes.closed)
    (h : Closing db L sid s) : Closing db L sid s' := by
  obtain ⟨h1, h2, h3⟩ := h
  exact ⟨by rwa [hw, hc.rc], by rwa [hc.rc], by rwa [hc.rc, hc.txID]⟩

theorem SameCore.hasBuilt (h : Built E db s) : Built E db s' := by
  obtain ⟨h1, h2⟩ := h
  exact ⟨by rwa [hc.rc, hc.built], by rwa [hc.rc, hc.merged, hc.built]⟩

theorem SameCore.applied {rows : List (UUID × ℤ)} (h : Applied E db L sid s rows) :
    Applied E db L sid s' rows := by
  obtain ⟨h1, h2, h3⟩ := h
  exact ⟨by rwa [hc.systemDeltas], by rwa [hc.systemDeltas], by rwa [hc.systemDeltas]⟩

end Agree

/-! ## Before the balances are locked -/

/-- A session that has written its header and perhaps consumed a quote. -/
theorem SessionOK.of_early (h1 : 1 ≤ s.phase.rank) (h5 : s.phase.rank < 5) (hres : Resolved db s)
    (hown : Own db L sid s) (hunq : s.phase = .quote → s.writes.quote = none)
    (hq : s.phase ≠ .quote → Quoted E db L sid s) (hclosed : s.writes.closed = none)
    (hbal : s.writes.balances = [])
    (hent : s.writes.entries = []) (hev : s.writes.events = [])
    (hst : s.writes.header.any (·.status = .posted) = false)
    (hfail : s.phase = .commitFailed → s.writes.header.any (·.status = .failed) = true) :
    SessionOK E db L sid s where
  resolved := hres
  empty h := by omega
  own _ := hown
  unquoted h := by
    rcases h with h | h
    · rw [h] at h1
      simp [Phase.rank] at h1
    · exact hunq h
  quoted _ h := hq h
  held h := by omega
  checked h := by omega
  notClosed _ := hclosed
  closing h := by omega
  built h := by omega
  notApplied _ := hbal
  applied h := by omega
  notInserted _ := hent
  silent _ := hev
  events h := by
    rw [h] at h5
    simp [Phase.rank] at h5
  status := by
    rw [hst]
    constructor
    · intro h
      cases h
    · intro h
      rw [h] at h5
      simp [Phase.rank] at h5
  failed := hfail

/-- `Insert` wrote the row of the command, which conflicts with no other. -/
theorem insertHeader_row {row : TxRow} (h : insertHeader E db rc txID = .ok row) :
    ∃ amount : ℤ, (amount : ℚ) = rc.amount ∧ row = headerRow E (insertParams rc txID) amount ∧
      txID ∉ db.txs ∧ ∀ q ∈ db.txs.entries, q.2.conflicts row = false := by
  unfold insertHeader at h
  split at h
  · cases h
  · cases h
  rename_i r hins
  obtain ⟨-, -, h⟩ := bind_eq_ok.1 h
  cases h
  unfold insertTx at hins
  split at hins
  · cases hins
  split at hins
  · cases hins
  rename_i amount hamount
  split at hins
  · cases hins
  split at hins
  · cases hins
  rename_i hdup
  cases hins
  rw [not_or, List.any_eq_true, not_exists] at hdup
  exact ⟨amount, (toBigint_eq_some.1 hamount).1.symm, rfl, hdup.1,
    fun q hq => Bool.eq_false_iff.2 fun hc => hdup.2 q ⟨hq, hc⟩⟩

/-- What `Insert` and the checks after it leave behind. -/
theorem insertHeader_ok {row : TxRow} (h : insertHeader E db rc txID = .ok row) :
    txID ∉ db.txs ∧ HeaderOf rc row ∧ row.status = .pending := by
  obtain ⟨amount, hamount, rfl, hfresh, -⟩ := insertHeader_row h
  exact ⟨hfresh, ⟨rfl, hamount, rfl, rfl, rfl, rfl⟩, rfl⟩

theorem insertStep_ok (h : SessionOK E db L sid s) (hp : s.phase = .insert)
    (hs : s.insertStep E db = .ok s') :
    SessionOK E db (L.acquire sid (s.needs E db)) sid s' := by
  obtain ⟨row, hrow, hs⟩ := bind_eq_ok.1 hs
  cases hs
  obtain ⟨hfresh, hrow, hst⟩ := insertHeader_ok hrow
  have hw := h.empty (by simp [hp, Phase.rank])
  refine .of_early (by simp [Phase.rank]) (by simp [Phase.rank]) h.resolved ⟨hfresh, ?_, ?_⟩ ?_ (by simp)
    ?_ ?_ ?_ ?_ ?_ (by simp)
  · exact Locks.acquire_of_mem (by simp [Session.needs, hp])
  · exact ⟨row, rfl, hrow⟩
  all_goals simp [hw, Writes.empty, hst]

theorem SessionOK.notPosted (h : SessionOK E db L sid s) (hp : s.phase ≠ .commit) :
    s.writes.header.any (·.status = .posted) = false := by
  rw [Bool.eq_false_iff]
  exact fun hst => hp (h.status.1 hst)

/-- A business rejection keeps the header, and nothing else it may have written is on a
balance, an entry, an event or an original. -/
theorem markFailed_ok {ctx : String} {e : Err} (h : SessionOK E db L sid s) (h1 : 2 ≤ s.phase.rank)
    (h7 : s.phase.rank < 7) (hs : s.markFailed ctx e = .ok s') : SessionOK E db L sid s' := by
  unfold Session.markFailed at hs
  split at hs
  · cases hs
  rename_i msg _
  cases hs
  have hquoted : Quoted E db L sid s := by
    refine h.quoted ?_ ?_ <;> intro hp <;> rw [hp] at h1 <;> simp [Phase.rank] at h1
  obtain ⟨hfresh, hlock, r, hr, hrest⟩ := h.own (by omega)
  refine .of_early (by simp [Phase.rank]) (by simp [Phase.rank]) h.resolved ⟨hfresh, hlock, ?_⟩
    (by simp) (fun _ => hquoted.congr ⟨rfl, rfl, rfl⟩) (h.notClosed h7) (h.notApplied (by omega))
    (h.notInserted (by omega)) (h.silent (by omega)) ?_ ?_
  · obtain ⟨h1, h2, h3, h4, h5, h6⟩ := hrest
    exact ⟨{ r with status := .failed, errorMessage := some msg }, by simp [hr], ⟨h1, h2, h3, h4, h5, h6⟩⟩
  all_goals simp [hr]

/-- A consumed quote is the row the command names, unconsumed or consumed by this very
transaction. -/
theorem consumeFeeQuote_ok {r : Option (UUID × FeeQuote)} (h : consumeFeeQuote E db now rc txID = .ok r) :
    (rc.quoteID = "" ∧ r = none) ∨
    ∃ quoteID q, rc.quoteID ≠ "" ∧ E.text.parseUUID rc.quoteID = .ok quoteID ∧
      db.quotes quoteID = some q ∧ (q.consumedAt = none ∨ q.consumedBy = some (.tx txID)) ∧
      r = some (quoteID, q.consume now (.tx txID)) := by
  unfold consumeFeeQuote at h
  split at h
  · rename_i hid
    cases h
    exact .inl ⟨hid, rfl⟩
  rename_i hid
  split at h
  · cases h
  rename_i quoteID hparse
  split at h
  · cases h
  obtain ⟨q', hq', h⟩ := bind_eq_ok.1 h
  cases h
  unfold consumeQuote tryConsumeQuote at hq'
  split at hq'
  · rename_i q'' htry
    cases hq'
    split at htry
    · rename_i q hq
      split at htry
      · rename_i hwhere
        cases htry
        refine .inr ⟨quoteID, q, hid, hparse, hq, ?_, rfl⟩
        rcases hwhere.2.2.2.2 with hopen | hby
        · rw [FeeQuote.open, Bool.and_eq_true, Option.isNone_iff_eq_none] at hopen
          exact .inl hopen.1
        · exact .inr hby
      · cases htry
    · cases htry
  · split at hq' <;> cases hq'

theorem quoteStep_ok (h : SessionOK E db L sid s) (hp : s.phase = .quote)
    (hs : s.quoteStep E now db = .ok s') :
    SessionOK E db (L.acquire sid (s.needs E db)) sid s' := by
  have hrank : s.phase.rank = 1 := by simp [hp, Phase.rank]
  have hst := h.notPosted (by simp [hp])
  have hunq := h.unquoted (.inr hp)
  have hview : (s.view db).quotes = db.quotes := by
    funext id
    simp [Session.view, Writes.apply, hunq]
  replace h := h.frame (.acquire sid db L (s.needs E db))
  have hown := h.own (by omega)
  unfold Session.quoteStep at hs
  obtain ⟨q, hq, hs⟩ := bind_eq_ok.1 hs
  rcases consumeFeeQuote_ok hq with ⟨hid, rfl⟩ | ⟨quoteID, q₀, hid, hparse, hrow, hfresh, rfl⟩
  · obtain ⟨-, -, hs⟩ := bind_eq_ok.1 hs
    cases hs
    exact .of_early (by simp [Phase.rank]) (by simp [Phase.rank]) h.resolved
      ⟨hown.fresh, hown.lock, hown.header⟩ (by simp) (fun _ => .none hid hunq) (h.notClosed (by omega))
      (h.notApplied (by omega)) (h.notInserted (by omega)) (h.silent (by omega)) hst (by simp)
  · -- the fee of the quote goes into the metadata; no column of the header comes from there
    obtain ⟨-, -, hs⟩ := bind_eq_ok.1 hs
    cases hs
    have hlock : L.acquire sid (s.needs E db) (.quote quoteID) = some sid :=
      Locks.acquire_of_mem (by simp [Session.needs, hp, hid, hparse])
    rw [hview] at hrow
    obtain ⟨r, hr, h1, h2, h3, h4, h5, h6⟩ := hown.header
    exact .of_early (by simp [Phase.rank]) (by simp [Phase.rank]) h.resolved
      ⟨hown.fresh, hown.lock, r, hr, h1, h2, h3, h4, h5, h6⟩ (by simp)
      (fun _ => .consumed quoteID q₀ now hid hparse hlock hrow hfresh rfl) (h.notClosed (by omega))
      (h.notApplied (by omega)) (h.notInserted (by omega)) (h.silent (by omega)) hst (by simp)

theorem preLockStep_ok (h : SessionOK E db L sid s) (hp : s.phase = .preLock) (hs : s.preLockStep db p = .ok s') :
    SessionOK E db (L.acquire sid (s.needs E db)) sid s' := by
  have hrank : s.phase.rank = 2 := by simp [hp, Phase.rank]
  have hst := h.notPosted (by simp [hp])
  replace h := h.frame (.acquire sid db L (s.needs E db))
  have hown := h.own (by omega)
  have hquoted := h.quoted (by simp [hp]) (by simp [hp])
  have hnext : SessionOK E db (L.acquire sid (s.needs E db)) sid { s with phase := .flags } :=
    .of_early (by simp [Phase.rank]) (by simp [Phase.rank]) h.resolved
      ⟨hown.fresh, hown.lock, hown.header⟩ (by simp) (fun _ => hquoted.congr ⟨rfl, rfl, rfl⟩)
        (h.notClosed (by omega)) (h.notApplied (by omega))
      (h.notInserted (by omega)) (h.silent (by omega)) hst (by simp)
  unfold Session.preLockStep at hs
  split at hs
  · cases hs
    exact hnext
  split at hs
  · cases hs
    exact hnext
  split at hs
  · exact markFailed_ok h (by omega) (by omega) hs
  · cases hs

theorem flagsStep_ok (h : SessionOK E db L sid s) (hp : s.phase = .flags)
    (hs : s.flagsStep E db = .ok s') :
    SessionOK E db (L.acquire sid (s.needs E db)) sid s' := by
  have hrank : s.phase.rank = 3 := by simp [hp, Phase.rank]
  have hst := h.notPosted (by simp [hp])
  replace h := h.frame (.acquire sid db L (s.needs E db))
  have hown := h.own (by omega)
  have hquoted := h.quoted (by simp [hp]) (by simp [hp])
  cases hs
  exact .of_early (by simp [Phase.rank]) (by simp [Phase.rank]) h.resolved
    ⟨hown.fresh, hown.lock, hown.header⟩ (by simp) (fun _ => hquoted.congr ⟨rfl, rfl, rfl⟩)
      (h.notClosed (by omega)) (h.notApplied (by omega))
    (h.notInserted (by omega)) (h.silent (by omega)) hst (by simp)

/-! ## After the balances are locked -/

/-- What every statement keeps from the locks of the balances to the commit. -/
structure Kept (E : Env) (db : Db) (L : Locks LockKey SessionID) (sid : SessionID) (s : Session) : Prop where
  resolved : Resolved db s
  own : Own db L sid s
  quoted : Quoted E db L sid s
  held : Held E db L sid s
  silent : s.writes.events = []
  notPosted : s.writes.header.any (·.status = .posted) = false

/-- What the statements add, one after the other. -/
structure Progress (E : Env) (db : Db) (L : Locks LockKey SessionID) (sid : SessionID) (s : Session) : Prop where
  checked : 6 ≤ s.phase.rank → Checked E db s
  notClosed : s.phase.rank < 7 → s.writes.closed = none
  closing : 7 ≤ s.phase.rank → Closing db L sid s
  built : 8 ≤ s.phase.rank → Built E db s
  notApplied : s.phase.rank < 9 → s.writes.balances = []
  applied : 9 ≤ s.phase.rank → ∃ user sys, BalanceWrites E db L sid s user sys
  notInserted : s.phase.rank < 10 → s.writes.entries = []

theorem Kept.ok (h : Kept E db L sid s) (hp : Progress E db L sid s) (h5 : 5 ≤ s.phase.rank)
    (h12 : s.phase.rank < 12) : SessionOK E db L sid s where
  resolved := h.resolved
  empty hr := by omega
  own _ := h.own
  unquoted hr := by
    rcases hr with hr | hr <;> rw [hr] at h5 <;> simp [Phase.rank] at h5
  quoted _ _ := h.quoted
  held _ := h.held
  checked := hp.checked
  notClosed := hp.notClosed
  closing := hp.closing
  built := hp.built
  notApplied := hp.notApplied
  applied := hp.applied
  notInserted := hp.notInserted
  silent _ := h.silent
  events hr := by
    rw [hr] at h12
    simp [Phase.rank] at h12
  status := by
    rw [h.notPosted]
    constructor
    · intro hr
      cases hr
    · intro hr
      rw [hr] at h12
      simp [Phase.rank] at h12
  failed hr := by
    rw [hr] at h5
    simp [Phase.rank] at h5

theorem SessionOK.kept (h : SessionOK E db L sid s) (h5 : 5 ≤ s.phase.rank) (h12 : s.phase.rank < 12)
    (hc : SameCore s s') (hw : s'.writes.header = s.writes.header ∧ s'.writes.quote = s.writes.quote ∧
      s'.writes.events = s.writes.events) : Kept E db L sid s' := by
  obtain ⟨hheader, hquote, hevents⟩ := hw
  have hquoted : Quoted E db L sid s := by
    refine h.quoted ?_ ?_ <;> intro hp <;> rw [hp] at h5 <;> simp [Phase.rank] at h5
  have hcommit : s.phase ≠ .commit := by
    intro hp
    rw [hp] at h12
    simp [Phase.rank] at h12
  refine ⟨hc.resolved h.resolved, hc.own hheader (h.own (by omega)), hquoted.congr ⟨?_, hc.txID, hquote⟩,
    hc.held (h.held h5), ?_, ?_⟩
  · rw [hc.rc]
  · rw [hevents, h.silent h12]
  · rw [hheader]
    exact h.notPosted hcommit

/-! ## Balances locked, checks passed -/

theorem lookupBalance_getAccountFlags (E : Env) (db : Db) {ids : List UUID} (ha : a ∈ ids) :
    lookupBalance (getAccountFlags E db ids) a = accountBalance E db a := by
  induction ids with
  | nil => cases ha
  | cons id ids ih =>
    simp only [lookupBalance, getAccountFlags] at ih ⊢
    cases hid : accountBalance E db id with
    | none =>
      rw [List.filterMap_cons_none hid]
      rcases List.mem_cons.1 ha with rfl | ha
      · -- no row with this id can come from the rest
        rw [hid, List.find?_eq_none]
        intro ab hab
        obtain ⟨b, -, hb⟩ := List.mem_filterMap.1 hab
        intro heq
        have hba : b = a := by rw [← accountBalance_id hb]; simpa using heq
        rw [hba, hid] at hb
        cases hb
      · exact ih ha
    | some ab =>
      rw [List.filterMap_cons_some hid, List.find?_cons, accountBalance_id hid]
      by_cases hia : id = a
      · simp [← hia, hid]
      · simpa [hia] using ih ((List.mem_cons.1 ha).resolve_left (Ne.symm hia))

/-- Before a session writes balances it sees the committed ones. -/
theorem view_balances (h : s.writes.balances = []) : (s.view db).balances = db.balances := by
  funext a
  simp [Session.view, Writes.apply, h]

theorem lockStep_ok (h : SessionOK E db L sid s) (hp : s.phase = .lock) (hs : s.lockStep E db = .ok s') :
    SessionOK E db (L.acquire sid (s.needs E db)) sid s' := by
  have hrank : s.phase.rank = 4 := by simp [hp, Phase.rank]
  have hst := h.notPosted (by simp [hp])
  have hview : (s.view db).balances = db.balances := view_balances (h.notApplied (by omega))
  have hlocks : ∀ a ∈ s.userIDs, L.acquire sid (s.needs E db) (.balance a) = some sid := fun a ha =>
    Locks.acquire_of_mem (by simpa [Session.needs, hp] using ha)
  replace h := h.frame (.acquire sid db L (s.needs E db))
  have hown := h.own (by omega)
  have hquoted := h.quoted (by simp [hp]) (by simp [hp])
  cases hs
  refine Kept.ok ?_ ?_ (by simp [Phase.rank]) (by simp [Phase.rank])
  · refine ⟨h.resolved, ⟨hown.fresh, hown.lock, hown.header⟩, hquoted.congr ⟨rfl, rfl, rfl⟩,
      ⟨hlocks, fun a ha => ?_, _, rfl⟩, h.silent (by omega), hst⟩
    have hscan := lookupBalance_getAccountFlags E (s.view db) (show a ∈ s.userIDs from ha)
    refine Eq.trans ?_ hscan.symm
    simp only [accountBalance, hview]
  · exact {
      checked := fun hr => by simp [Phase.rank] at hr
      notClosed := fun _ => h.notClosed (by omega)
      closing := fun hr => by simp [Phase.rank] at hr
      built := fun hr => by simp [Phase.rank] at hr
      notApplied := fun _ => h.notApplied (by omega)
      applied := fun hr => by simp [Phase.rank] at hr
      notInserted := fun _ => h.notInserted (by omega) }

/-- What a lifecycle type has seen of its original when `Validate` passes. -/
structure OriginalSeen (db : Db) (t : TxType) (referenceID : UUID) (amount : Decimal) (h : TxRow) :
    Prop where
  row : db.txs.lookup referenceID = some h
  isOpen : h.closedByTxID = none
  posted : h.status = .posted
  notReversal : t = .reversal → h.type ≠ .reversal
  required : ∀ t', requiredOriginal t = some t' → h.type = t' ∧ (h.amount : ℚ) = amount

theorem getHeader_ok {h : TxRow} (hh : getHeader E db id = .ok h) :
    db.txs.lookup id = some h := by
  unfold getHeader at hh
  split at hh
  · rename_i r hr
    cases hh
    exact hr
  · cases hh

theorem validateOriginalForClose_ok {referenceID : UUID} {required : TxType} {amount : Decimal}
    (h : validateOriginalForClose E db referenceID required amount = .ok ()) :
    ∃ r, db.txs.lookup referenceID = some r ∧ r.type = required ∧ r.closedByTxID = none ∧
      r.status = .posted ∧ (r.amount : ℚ) = amount := by
  obtain ⟨r, hr, h⟩ := bind_eq_ok.1 h
  obtain ⟨htype, h⟩ := guard_eq_ok.1 h
  obtain ⟨hopen, h⟩ := guard_eq_ok.1 h
  obtain ⟨hstatus, h⟩ := guard_eq_ok.1 h
  have hamount : ¬ (r.amount : ℚ) ≠ amount := by
    intro hne
    simp [hne] at h
  exact ⟨r, getHeader_ok (inContext_eq_ok.1 hr), not_not.1 htype, by simpa using hopen,
    not_not.1 hstatus, not_not.1 hamount⟩

/-- **A closer has seen its original posted and open.** -/
theorem validate_original {t : TxType} (hp : registry E t = .ok p)
    (hc : (lifecycleCloseReason t).isSome ∨ (requiredOriginal t).isSome)
    {bal : Balances} (hv : p.validate db rc bal = .ok ()) :
    ∃ h, OriginalSeen db t rc.referenceID rc.amount h := by
  -- the eight types with a required predecessor share one check
  have hrequired : ∀ required, requiredOriginal t = some required →
      validateOriginalForClose E db rc.referenceID required rc.amount = .ok () →
      ∃ h, OriginalSeen db t rc.referenceID rc.amount h := by
    intro required hr hvo
    obtain ⟨r, hrow, htype, hopen, hstatus, hamount⟩ := validateOriginalForClose_ok hvo
    refine ⟨r, hrow, hopen, hstatus, fun ht => ?_, fun t' ht' => ?_⟩
    · rw [ht] at hr
      cases hr
    rw [hr] at ht'
    cases ht'
    exact ⟨htype, hamount⟩
  cases t <;> simp only [registry, Except.ok.injEq, reduceCtorEq] at hp <;> subst hp
  case reversal =>
    simp only [reversal] at hv
    obtain ⟨r, hr, hv⟩ := bind_eq_ok.1 hv
    obtain ⟨hrev, hv⟩ := guard_eq_ok.1 hv
    obtain ⟨hopen, hv⟩ := guard_eq_ok.1 hv
    have hstatus : ¬ r.status ≠ .posted := by
      intro hne
      simp [hne] at hv
    exact ⟨r, getHeader_ok (inContext_eq_ok.1 hr), by simpa using hopen, not_not.1 hstatus,
      fun _ => hrev, fun t' ht' => by cases ht'⟩
  case refund =>
    simp only [refund] at hv
    obtain ⟨r, hr, hv⟩ := bind_eq_ok.1 hv
    obtain ⟨hopen, hv⟩ := guard_eq_ok.1 hv
    obtain ⟨hstatus, -⟩ := guard_eq_ok.1 hv
    exact ⟨r, getHeader_ok (inContext_eq_ok.1 hr), by simpa using hopen, not_not.1 hstatus,
      fun ht => (by cases ht), fun t' ht' => by cases ht'⟩
  all_goals first
    | (obtain ⟨_, hvo, -⟩ := bind_eq_ok.1 hv
       exact hrequired _ rfl hvo)
    | (exfalso; simp [lifecycleCloseReason, requiredOriginal] at hc)

/-- Before a session closes anything, a posted row it sees is a committed one. -/
theorem lookup_of_view_posted (h : SessionOK E db L sid s) (h1 : 1 ≤ s.phase.rank)
    (h7 : s.phase.rank < 7) {r : TxRow} (hr : (s.view db).txs.lookup id = some r)
    (hst : r.status = .posted) : db.txs.lookup id = some r := by
  obtain ⟨-, -, hd, hhd, -⟩ := h.own h1
  have hnp := h.notPosted (by rintro hp; rw [hp] at h7; simp [Phase.rank] at h7)
  simp only [Session.view, Writes.apply, Writes.closeIn, h.notClosed h7, hhd] at hr
  by_cases hid : id = s.txID
  · subst hid
    rw [AList.lookup_insert] at hr
    cases hr
    simp [hhd, hst] at hnp
  · rwa [AList.lookup_insert_ne hid] at hr

theorem validateAccounts_ok {bal : Balances} (h : validateAccounts E rc bal = .ok ()) (ha : a ∈ rc.accountIDs) :
    ∃ ab, bal a = some ab ∧ ab.currency = rc.currency := by
  unfold validateAccounts at h
  revert ha h
  induction rc.accountIDs with
  | nil => intro _ ha; cases ha
  | cons id ids ih =>
    intro h ha
    obtain ⟨_, hid, h⟩ := bind_eq_ok.1 h
    rcases List.mem_cons.1 ha with rfl | ha
    · unfold validateAccount at hid
      split at hid
      · cases hid
      rename_i ab hab
      split at hid
      · cases hid
      · cases hid
      · cases hid
      split at hid
      · cases hid
      · rename_i hcur
        exact ⟨ab, hab, not_not.1 hcur⟩
    · exact ih h ha

theorem validateStep_ok (hreg : registry E s.rc.type = .ok p)
    (h : SessionOK E db L sid s) (hp : s.phase = .validate) (hs : s.validateStep E db p = .ok s') :
    SessionOK E db (L.acquire sid (s.needs E db)) sid s' := by
  have hrank : s.phase.rank = 5 := by simp [hp, Phase.rank]
  replace h := h.frame (.acquire sid db L (s.needs E db))
  unfold Session.validateStep at hs
  obtain ⟨_, hacc, hs⟩ := bind_eq_ok.1 hs
  split at hs
  · rename_i hv
    cases hs
    have hc : SameCore s { s with phase := .close } := ⟨rfl, rfl, rfl, rfl, rfl⟩
    -- what the processor saw in its own view it would see in the committed state
    have hseen : (lifecycleCloseReason s.rc.type).isSome ∨ (requiredOriginal s.rc.type).isSome →
        ∃ r, OriginalSeen db s.rc.type s.rc.referenceID s.rc.amount r := fun hcl => by
      obtain ⟨r, hr⟩ := validate_original hreg hcl hv
      exact ⟨r, lookup_of_view_posted h (by omega) (by omega) hr.row hr.posted, hr.isOpen, hr.posted,
        hr.notReversal, hr.required⟩
    have hchecked : Checked E db s := {
      accounts := fun a ha => validateAccounts_ok hacc ha
      validated := ⟨p, _, hreg, hv⟩
      original := fun hcl => by
        obtain ⟨r, hr⟩ := hseen hcl
        exact ⟨r, hr.row, .inr hr.posted, hr.notReversal, hr.required⟩ }
    refine (h.kept (by omega) (by omega) hc ⟨rfl, rfl, rfl⟩).ok ?_ (by simp [Phase.rank]) (by simp [Phase.rank])
    exact {
      checked := fun _ => hc.checked hchecked
      notClosed := fun _ => h.notClosed (by omega)
      closing := fun hr => by simp [Phase.rank] at hr
      built := fun hr => by simp [Phase.rank] at hr
      notApplied := fun _ => h.notApplied (by omega)
      applied := fun hr => by simp [Phase.rank] at hr
      notInserted := fun _ => h.notInserted (by omega) }
  · split at hs
    · cases hs
    · exact markFailed_ok h (by omega) (by omega) hs

/-! ## The original closed, the entries built -/

theorem closeStep_ok (h : SessionOK E db L sid s) (hp : s.phase = .close)
    (hs : s.closeStep E db = .ok s') :
    SessionOK E db (L.acquire sid (s.needs E db)) sid s' := by
  have hrank : s.phase.rank = 6 := by simp [hp, Phase.rank]
  have hlock : (lifecycleCloseReason s.rc.type).isSome →
      L.acquire sid (s.needs E db) (.tx s.rc.referenceID) = some sid := fun hcl =>
    Locks.acquire_of_mem (by simp [Session.needs, hp, hcl])
  replace h := h.frame (.acquire sid db L (s.needs E db))
  obtain ⟨hfresh, -, hd, hhd, -⟩ := h.own (by omega)
  have hnext : ∀ closed, closed = (lifecycleCloseReason s.rc.type).map (fun r => (s.rc.referenceID, r)) →
      ((lifecycleCloseReason s.rc.type).isSome → s.rc.referenceID ≠ s.txID ∧
        ∃ r, db.txs.lookup s.rc.referenceID = some r ∧ r.closedByTxID = none) →
      SessionOK E db (L.acquire sid (s.needs E db)) sid
        { s with phase := .build, writes := { s.writes with closed := closed } } := by
    intro closed hclosed hopen
    have hc : SameCore s { s with phase := .build, writes := { s.writes with closed := closed } } :=
      ⟨rfl, rfl, rfl, rfl, rfl⟩
    refine (h.kept (by omega) (by omega) hc ⟨rfl, rfl, rfl⟩).ok ?_ (by simp [Phase.rank]) (by simp [Phase.rank])
    exact {
      checked := fun _ => hc.checked (h.checked (by omega))
      notClosed := fun hr => by simp [Phase.rank] at hr
      closing := fun _ => ⟨hclosed, hlock, hopen⟩
      built := fun hr => by simp [Phase.rank] at hr
      notApplied := fun _ => h.notApplied (by omega)
      applied := fun hr => by simp [Phase.rank] at hr
      notInserted := fun _ => h.notInserted (by omega) }
  unfold Session.closeStep at hs
  split at hs
  · rename_i hnone
    cases hs
    have := hnext s.writes.closed (by rw [h.notClosed (by omega), hnone]; rfl) (by simp [hnone])
    exact this
  · rename_i reason hreason
    split at hs
    · rename_i hopen
      cases hs
      -- `Validate` found the original committed, so it is not the session's own header
      obtain ⟨row, hrow, -⟩ := (h.checked (by omega)).original (.inl (by simp [hreason]))
      have hmem : s.rc.referenceID ∈ db.txs := AList.lookup_isSome.1 (by simp [hrow])
      have hne : s.rc.referenceID ≠ s.txID := fun heq => hfresh (heq ▸ hmem)
      refine hnext _ (by rw [hreason]; rfl) fun _ => ⟨hne, ?_⟩
      simp only [Session.view, Writes.apply, Writes.closeIn, h.notClosed (by omega : s.phase.rank < 7),
        hhd, AList.lookup_insert_ne hne, Option.any_eq_true] at hopen
      obtain ⟨r, hr, hropen⟩ := hopen
      exact ⟨r, hr, by simpa using hropen⟩
    · exact markFailed_ok h (by omega) (by omega) hs

theorem buildStep_ok (hreg : registry E s.rc.type = .ok p)
    (h : SessionOK E db L sid s) (hp : s.phase = .build) (hs : s.buildStep E db p = .ok s') :
    SessionOK E db (L.acquire sid (s.needs E db)) sid s' := by
  have hrank : s.phase.rank = 7 := by simp [hp, Phase.rank]
  have hst := h.notPosted (by simp [hp])
  replace h := h.frame (.acquire sid db L (s.needs E db))
  obtain ⟨es, hes, hs⟩ := bind_eq_ok.1 hs
  obtain ⟨_, -, hs⟩ := bind_eq_ok.1 hs
  cases hs
  have hes := inContext_eq_ok.1 hes
  have hview : (s.view db).entries = db.entries := by
    simp [Session.view, Writes.apply, h.notInserted (by omega : s.phase.rank < 10)]
  have htouches : TouchesOnly s.rc es := by
    by_cases ht : s.rc.type = .reversal
    · -- the accounts of a reversal were resolved from the entries it reads again here
      rw [ht] at hreg
      cases hreg
      intro e he
      obtain ⟨o, ho, hoe⟩ := reversal_touches hes e he
      rw [mem_getEntries, hview] at ho
      rw [← hoe]
      exact (h.resolved ht).2 o ho.1 ho.2
    · exact buildEntries_touches hreg ht hes
  have hown := h.own (by omega)
  have hheld := h.held (by omega)
  have hchecked := h.checked (by omega)
  have hclosing := h.closing (by omega)
  have hquoted := h.quoted (by simp [hp]) (by simp [hp])
  refine Kept.ok ?_ ?_ (by simp [Phase.rank]) (by simp [Phase.rank])
  · exact ⟨h.resolved, ⟨hown.fresh, hown.lock, hown.header⟩, hquoted.congr ⟨rfl, rfl, rfl⟩,
      ⟨hheld.lock, hheld.balances, hheld.scanned⟩, h.silent (by omega), hst⟩
  · exact {
      checked := fun _ => ⟨hchecked.accounts, hchecked.validated, hchecked.original⟩
      notClosed := fun hr => by simp [Phase.rank] at hr
      closing := fun _ => ⟨hclosing.closed, hclosing.lock, hclosing.isOpen⟩
      built := fun _ => ⟨htouches, p, s.view db, hreg, hes, fun _ => by
        rw [getEntries, getEntries, hview]⟩
      notApplied := fun _ => h.notApplied (by omega)
      applied := fun hr => by simp [Phase.rank] at hr
      notInserted := fun _ => h.notInserted (by omega) }

/-! ## Balances and entries written -/

/-- A statement that writes balances or entries. -/
theorem SessionOK.written (h : SessionOK E db L sid s) (h8 : 8 ≤ s.phase.rank) (h12 : s.phase.rank < 12)
    (hc : SameCore s s') (hw : s'.writes.header = s.writes.header ∧ s'.writes.quote = s.writes.quote ∧
      s'.writes.events = s.writes.events) (hclosed : s'.writes.closed = s.writes.closed) (h9 : 9 ≤ s'.phase.rank)
    (h12' : s'.phase.rank < 12) (happlied : ∃ user sys, BalanceWrites E db L sid s' user sys)
    (hinserted : s'.phase.rank < 10 → s'.writes.entries = []) : SessionOK E db L sid s' :=
  (h.kept (by omega) h12 hc hw).ok
    { checked := fun _ => hc.checked (h.checked (by omega))
      notClosed := fun hr => by omega
      closing := fun _ => hc.closing hclosed (h.closing (by omega))
      built := fun _ => hc.hasBuilt (h.built h8)
      notApplied := fun hr => by omega
      applied := fun _ => happlied
      notInserted := hinserted } (by omega) h12'

theorem deltasStep_ok (h : SessionOK E db L sid s) (hp : s.phase = .deltas)
    (hs : s.deltasStep E db = .ok s') :
    SessionOK E db (L.acquire sid (s.needs E db)) sid s' := by
  have hrank : s.phase.rank = 8 := by simp [hp, Phase.rank]
  have hview : (s.view db).balances = db.balances := view_balances (h.notApplied (by omega))
  have hlock : ∀ a x, s.systemDeltas.lookup a = some x →
      L.acquire sid (s.needs E db) (.balance a) = some sid := fun a x hx => by
    refine Locks.acquire_of_mem ?_
    simp only [Session.needs, hp, List.mem_map]
    exact ⟨⟨a, x⟩, AList.mem_lookup_iff.1 hx, rfl⟩
  replace h := h.frame (.acquire sid db L (s.needs E db))
  obtain ⟨rows, hrows, hs⟩ := bind_eq_ok.1 hs
  cases hs
  obtain ⟨hfind, hdelta⟩ := applySystemDeltas_ok hrows
  rw [hview] at hfind
  have hdelta : ∀ a x, s.systemDeltas.lookup a = some x → DeltaOK E db a x := fun a x hx => by
    obtain ⟨h1, h2, h3⟩ := hdelta a x hx
    rw [hview] at h2 h3
    exact ⟨h1, h2, h3⟩
  have hc : SameCore s { s with phase := .entries, writes := { s.writes with balances := rows } } :=
    ⟨rfl, rfl, rfl, rfl, rfl⟩
  refine h.written (by omega) (by omega) hc ⟨rfl, rfl, rfl⟩ rfl (by simp [Phase.rank]) (by simp [Phase.rank])
    ⟨[], rows, ?_⟩ fun _ => h.notInserted (by omega)
  exact {
    writes := rfl
    applied := hc.applied ⟨hlock, hdelta, hfind⟩
    inserted := fun hr => by simp [Phase.rank] at hr
    none := fun _ => rfl
    updated := fun hr => by simp [Phase.rank] at hr }

theorem entriesStep_ok (h : SessionOK E db L sid s) (hp : s.phase = .entries)
    (hs : s.entriesStep E db = .ok s') :
    SessionOK E db (L.acquire sid (s.needs E db)) sid s' := by
  have hrank : s.phase.rank = 9 := by simp [hp, Phase.rank]
  replace h := h.frame (.acquire sid db L (s.needs E db))
  obtain ⟨rows, hrows, hs⟩ := bind_eq_ok.1 hs
  cases hs
  obtain ⟨user, sys, hw⟩ := h.applied (by omega)
  have hsys : s.writes.balances = sys := by rw [hw.writes, hw.none (by omega), List.nil_append]
  have hc : SameCore s { s with phase := .update, writes := { s.writes with entries := rows } } :=
    ⟨rfl, rfl, rfl, rfl, rfl⟩
  refine h.written (by omega) (by omega) hc ⟨rfl, rfl, rfl⟩ rfl (by simp [Phase.rank]) (by simp [Phase.rank])
    ⟨[], sys, ?_⟩ fun hr => by simp [Phase.rank] at hr
  exact {
    writes := hsys
    applied := hc.applied hw.applied
    inserted := fun _ => ⟨_, _, insertEntries_ok hrows, fun a => by
      rw [hc.userNewBalances, Session.allNewBalances, hsys]⟩
    none := fun _ => rfl
    updated := fun hr => by simp [Phase.rank] at hr }

theorem updateStep_ok (h : SessionOK E db L sid s) (hp : s.phase = .update)
    (hs : s.updateStep E db = .ok s') :
    SessionOK E db (L.acquire sid (s.needs E db)) sid s' := by
  have hrank : s.phase.rank = 10 := by simp [hp, Phase.rank]
  have hlock : ∀ a x, s.userNewBalances.lookup a = some x →
      L.acquire sid (s.needs E db) (.balance a) = some sid := fun a x hx => by
    refine Locks.acquire_of_mem ?_
    simp only [Session.needs, hp, List.mem_map]
    exact ⟨⟨a, x⟩, AList.mem_lookup_iff.1 hx, rfl⟩
  replace h := h.frame (.acquire sid db L (s.needs E db))
  obtain ⟨rows, hrows, hs⟩ := bind_eq_ok.1 hs
  cases hs
  obtain ⟨hfind, hupd⟩ := updateBalances_ok hrows
  obtain ⟨user, sys, hw⟩ := h.applied (by omega)
  have hsys : s.writes.balances = sys := by rw [hw.writes, hw.none (by omega), List.nil_append]
  obtain ⟨db₀, nb, hentries, hnb⟩ := hw.inserted (by omega)
  have hc : SameCore s { s with
      phase := .finish, writes := { s.writes with balances := rows ++ s.writes.balances } } :=
    ⟨rfl, rfl, rfl, rfl, rfl⟩
  refine h.written (by omega) (by omega) hc ⟨rfl, rfl, rfl⟩ rfl (by simp [Phase.rank]) (by simp [Phase.rank])
    ⟨rows, sys, ?_⟩ fun hr => by simp [Phase.rank] at hr
  exact {
    writes := by rw [hsys]
    applied := hc.applied hw.applied
    inserted := fun _ => ⟨db₀, nb, hentries, by rwa [hc.userNewBalances]⟩
    none := fun hr => by simp [Phase.rank] at hr
    updated := fun _ => by
      refine ⟨?_, ?_, ?_, ?_⟩ <;> rw [hc.userNewBalances]
      · exact hlock
      · exact fun a x hx => (hupd a x hx).integral
      · exact fun a x hx => (hupd a x hx).allowed
      · exact hfind }

theorem finishStep_ok (hreg : registry E s.rc.type = .ok p) (h : SessionOK E db L sid s) (hp : s.phase = .finish)
    (hs : s.finishStep p = .ok s') :
    SessionOK E db (L.acquire sid (s.needs E db)) sid s' := by
  have hrank : s.phase.rank = 11 := by simp [hp, Phase.rank]
  replace h := h.frame (.acquire sid db L (s.needs E db))
  cases hs
  obtain ⟨user, sys, hw⟩ := h.applied (by omega)
  have hinserted := hw.inserted (by omega)
  have hupdated := hw.updated (by omega)
  obtain ⟨hfresh, hlock, r, hr, h1, h2, h3, h4, h5, h6⟩ := h.own (by omega)
  have hc : SameCore s { s with
      phase := .commit
      writes := { s.writes with
        header := s.writes.header.map fun h => { h with status := .posted, errorMessage := none }
        events := p.outboxEvents s.rc s.txID s.built } } := ⟨rfl, rfl, rfl, rfl, rfl⟩
  exact {
    resolved := hc.resolved h.resolved
    empty := fun hr => by simp [Phase.rank] at hr
    own := fun _ => ⟨hfresh, hlock, { r with status := .posted, errorMessage := none },
      by simp [hr], ⟨h1, h2, h3, h4, h5, h6⟩⟩
    unquoted := fun hr => by simp at hr
    quoted := fun _ _ => (h.quoted (by simp [hp]) (by simp [hp])).congr ⟨rfl, rfl, rfl⟩
    held := fun _ => hc.held (h.held (by omega))
    checked := fun _ => hc.checked (h.checked (by omega))
    notClosed := fun hr => by simp [Phase.rank] at hr
    closing := fun _ => hc.closing rfl (h.closing (by omega))
    built := fun _ => hc.hasBuilt (h.built (by omega))
    notApplied := fun hr => by simp [Phase.rank] at hr
    applied := fun _ => ⟨user, sys, {
      writes := hw.writes
      applied := hc.applied hw.applied
      inserted := fun _ => hinserted
      none := fun hr => by simp [Phase.rank] at hr
      updated := fun _ => ⟨hupdated.lock, hupdated.integral, hupdated.allowed, hupdated.find⟩ }⟩
    notInserted := fun hr => by simp [Phase.rank] at hr
    silent := fun hr => by simp [Phase.rank] at hr
    events := fun _ => ⟨p, hreg, rfl⟩
    status := by simp [hr]
    failed := fun hr => by cases hr }

/-- **A statement that succeeds keeps what the session knows**, with the rows it locked. -/
theorem exec_ok (h : SessionOK E db L sid s) (hs : s.exec E now db = .ok s') :
    SessionOK E db (L.acquire sid (s.needs E db)) sid s' := by
  unfold Session.exec at hs
  obtain ⟨p, hreg, hs⟩ := bind_eq_ok.1 hs
  cases hp : s.phase <;> rw [hp] at hs
  case insert => exact insertStep_ok h hp hs
  case quote => exact quoteStep_ok h hp hs
  case preLock => exact preLockStep_ok h hp hs
  case flags => exact flagsStep_ok h hp hs
  case lock => exact lockStep_ok h hp hs
  case validate => exact validateStep_ok hreg h hp hs
  case close => exact closeStep_ok h hp hs
  case build => exact buildStep_ok hreg h hp hs
  case deltas => exact deltasStep_ok h hp hs
  case entries => exact entriesStep_ok h hp hs
  case update => exact updateStep_ok h hp hs
  case finish => exact finishStep_ok hreg h hp hs
  case commit | commitFailed =>
    cases hs
    exact h.frame (.acquire sid db L _)

end Seev.Ledger
