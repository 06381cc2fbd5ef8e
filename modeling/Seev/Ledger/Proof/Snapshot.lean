import Seev.Lib.Journal
import Seev.Ledger.Snapshot
import Seev.Ledger.Proof.Conservation

/-!
# Balances of the past

A session inserts its entries while it holds the balance of every account they are on, so
the entries of one account are committed in the order of their timestamps and each one
carries the balance after its transaction: they are a journal. A snapshot row is the total
of the journal up to the end of its day at the time it is taken, and it is never corrected.

* `Stamped`: the timestamps of a ledger, in every run.
* `InTime`: no posting commits an entry created before the end of a day its account has
  a snapshot of, and the last timestamp a snapshot reads is of one transaction.
* `balanceAsOf_history`: in the runs that keep to this, `BalanceAsOf` is the sum of the
  entries, whichever snapshots there are.
-/

namespace Seev.Ledger

open Lib

variable {E : Env} {C : Calendar} {B B' : Books} {ev : Event} {s : Session} {sid : SessionID}

/-! ## Timestamps -/

/-- Time does not go back. -/
theorem now_le_step (E : Env) (w : World) (ev : Event) : w.now ≤ (w.step E ev).now := by
  cases ev with
  | handle sid txID cmd =>
    simp only [World.step]
    split <;> exact le_rfl
  | advance sid =>
    simp only [World.step]
    split
    · exact le_rfl
    unfold World.advance
    split
    · exact le_rfl
    split
    · exact le_rfl
    split <;> exact le_rfl
  | fail sid retry =>
    simp only [World.step]
    split
    · exact le_rfl
    cases retry with
    | none => exact le_rfl
    | some txID =>
      simp only [World.failSession]
      split <;> exact le_rfl
  | tick d => exact Nat.le_add_right _ _

/-- Only one statement writes entries. -/
theorem exec_entries {s' : Session} {now : ℕ} {db : Db} (h : s.exec E now db = .ok s')
    (hp : s.phase ≠ .entries) : s'.writes.entries = s.writes.entries := by
  cases exec_executes h with
  | entries _ he _ => exact absurd he hp
  | insert | unquoted | quoted | preLock | flags | lock | validate | keep | close | build | deltas | update
  | finish
  | reject | done => rfl

/-- The entries of one account with a running balance. -/
abbrev AccountJournal (createdAt : UUID → ℕ) (a : UUID) : List LedgerEntry → Prop :=
  Journal LedgerEntry.transactionID LedgerEntry.balanceAfter
    (fun l => net (l.map LedgerEntry.posting) a) createdAt

/-- **The timestamps of a ledger.** -/
structure Stamped (E : Env) (B : Books) : Prop where
  world : WorldOK E B.world
  balances : ∀ a, (B.world.db.balances a).getD 0 = net (B.world.db.entries.map LedgerEntry.posting) a
  journal : ∀ a, AccountJournal B.createdAt a (B.entriesOf a)
  past : ∀ e ∈ B.world.db.entries, B.createdAt e.transactionID ≤ B.world.now
  clock : ∀ sid, B.insertedAt sid ≤ B.world.now
  /-- an insert is later than everything committed on its accounts -/
  inserted : ∀ sid s, B.world.sessions sid = some s → ∀ r ∈ s.writes.entries,
    ∀ e ∈ B.world.db.entries, e.accountID = r.accountID → B.createdAt e.transactionID ≤ B.insertedAt sid

theorem mem_posts :
    (sid, s) ∈ B.posts ev ↔ ev = .advance sid ∧ B.world.sessions sid = some s ∧ s.phase = .commit := by
  cases ev with
  | advance sid' =>
    simp only [Books.posts, Option.mem_def, Option.map_eq_some_iff, Option.filter_eq_some_iff,
      Prod.mk.injEq, Event.advance.injEq, decide_eq_true_eq]
    constructor
    · rintro ⟨_, ⟨hs, hp⟩, rfl, rfl⟩
      exact ⟨rfl, hs, hp⟩
    · rintro ⟨rfl, hs, hp⟩
      exact ⟨s, ⟨hs, hp⟩, rfl, rfl⟩
  | handle | fail | tick => simp [Books.posts]

theorem createdAt_of_posts {p : SessionID × Session} (hp : p ∈ B.posts ev) :
    (B.ledgerStep E ev).createdAt = Function.update B.createdAt p.2.txID (B.insertedAt p.1) := by
  simp only [Books.ledgerStep, Option.mem_def.1 hp]

/-- A timestamp does not change once its transaction is there. -/
theorem createdAt_step (h : WorldOK E B.world) (ev : Event) {t : UUID} (ht : t ∈ B.world.db.txs) :
    (B.ledgerStep E ev).createdAt t = B.createdAt t := by
  cases hp : B.posts ev with
  | none => simp only [Books.ledgerStep, hp]
  | some p =>
    obtain ⟨-, hs, hphase⟩ := mem_posts.1 hp
    have hown := (h.sessions p.1 p.2 hs).own (by simp [hphase, Phase.rank])
    have hne : t ≠ p.2.txID := fun heq => hown.fresh (heq ▸ ht)
    rw [createdAt_of_posts hp, Function.update_of_ne hne]

/-- The time of an insert is kept, or it is now. -/
theorem insertedAt_step (B : Books) (ev : Event) (sid : SessionID) :
    (B.ledgerStep E ev).insertedAt sid = B.insertedAt sid ∨
      (B.ledgerStep E ev).insertedAt sid = B.world.now := by
  cases hi : B.inserts ev with
  | none => simp only [Books.ledgerStep, hi, true_or]
  | some sid' =>
    by_cases heq : sid = sid'
    · subst heq
      simp [Books.ledgerStep, hi]
    · simp [Books.ledgerStep, hi, Function.update_of_ne heq]

theorem insertedAt_entries (hs : B.world.sessions sid = some s)
    (hp : s.phase = .entries) : (B.ledgerStep E (.advance sid)).insertedAt sid = B.world.now := by
  simp [Books.ledgerStep, Books.inserts, hs, hp]

/-- What a posting adds: entries of its own transaction, stamped when they were inserted. -/
structure Appends (B B' : Books) (sid : SessionID) (s : Session) : Prop where
  entries : B'.world.db.entries = B.world.db.entries ++ s.writes.entries
  tx : ∀ r ∈ s.writes.entries, r.transactionID = s.txID
  fresh : ∀ e ∈ B.world.db.entries, e.transactionID ≠ s.txID
  created : B'.createdAt s.txID = B.insertedAt sid
  old : ∀ e ∈ B.world.db.entries, B'.createdAt e.transactionID = B.createdAt e.transactionID

/-- **What a ledger event does to the entries and their timestamps.** -/
theorem entries_step (h : WorldOK E B.world) (ev : Event) :
    ((B.ledgerStep E ev).world.db.entries = B.world.db.entries ∧
      (B.ledgerStep E ev).world.db.balances = B.world.db.balances ∧
      ∀ e ∈ B.world.db.entries, (B.ledgerStep E ev).createdAt e.transactionID = B.createdAt e.transactionID) ∨
    ∃ sid s, (sid, s) ∈ B.posts ev ∧ Posts E B.world.db s (B.ledgerStep E ev).world.db ∧
      Appends B (B.ledgerStep E ev) sid s := by
  have hold : ∀ e ∈ B.world.db.entries,
      (B.ledgerStep E ev).createdAt e.transactionID = B.createdAt e.transactionID :=
    fun e he => createdAt_step h ev (h.db.owned e he)
  cases step_effect h ev with
  | quiet hdb _ => exact .inl ⟨congrArg Db.entries hdb, congrArg Db.balances hdb, hold⟩
  | rejects _ _ _ _ hrejects _ _ => exact .inl ⟨hrejects.entries, hrejects.balances, hold⟩
  | posts sid s hs hp hposts _ _ hev =>
    have hmem : (sid, s) ∈ B.posts ev := mem_posts.2 ⟨hev, hs, hp⟩
    obtain ⟨db₀, nb, hrows⟩ := hposts.rows
    refine .inr ⟨sid, s, hmem, hposts, hposts.entries, fun r hr => hrows.tx_eq hr, fun e he heq => ?_, ?_, hold⟩
    · exact hposts.fresh (heq ▸ h.db.owned e he)
    · rw [createdAt_of_posts hmem]
      exact Function.update_self ..

theorem Appends.entriesOf (h : Appends B B' sid s) (a : UUID) :
    B'.entriesOf a = B.entriesOf a ++ s.writes.entries.filter (·.accountID = a) := by
  rw [Books.entriesOf, Books.entriesOf, h.entries, List.filter_append]

theorem mem_entriesOf {a : UUID} {e : LedgerEntry} :
    e ∈ B.entriesOf a ↔ e ∈ B.world.db.entries ∧ e.accountID = a := by
  simp [Books.entriesOf]

theorem net_entriesOf (B : Books) (a : UUID) : net ((B.entriesOf a).map LedgerEntry.posting) a =
    net (B.world.db.entries.map LedgerEntry.posting) a :=
  net_filter _ _ fun _ _ hea => decide_eq_true hea

namespace Stamped

/-- The balances stay the sums of the entries. -/
theorem balances_step (h : Stamped E B) (ev : Event) (a : UUID) :
    ((B.ledgerStep E ev).world.db.balances a).getD 0 =
      net ((B.ledgerStep E ev).world.db.entries.map LedgerEntry.posting) a := by
  rcases entries_step h.world ev with ⟨hentries, hbal, -⟩ | ⟨sid, s, -, hposts, happ⟩
  · rw [hentries, hbal, h.balances a]
  · rw [hposts.balance a, h.balances a, happ.entries, List.map_append, net_append]

/-- The rows of a posting carry the balances it leaves. -/
theorem balanceAfter (h : Stamped E B) (hmem : (sid, s) ∈ B.posts ev)
    (hposts : Posts E B.world.db s (B.ledgerStep E ev).world.db) {r : LedgerEntry} (hr : r ∈ s.writes.entries) :
    r.balanceAfter = net ((B.ledgerStep E ev).world.db.entries.map LedgerEntry.posting) r.accountID := by
  obtain ⟨-, hs, hp⟩ := mem_posts.1 hmem
  have hok := h.world.sessions sid s hs
  have hview := commit_balanceAfter hok hp hr
  rw [commit_balances h.world.db hok hp, ← hposts.balances] at hview
  rw [← h.balances_step ev, hview, Option.getD_some]

theorem journal_step (h : Stamped E B) (ev : Event) (a : UUID) :
    AccountJournal (B.ledgerStep E ev).createdAt a ((B.ledgerStep E ev).entriesOf a) := by
  rcases entries_step h.world ev with ⟨hentries, -, hold⟩ | ⟨sid, s, hmem, hposts, happ⟩
  · rw [Books.entriesOf, hentries]
    exact (h.journal a).congr fun e he => hold e (mem_entriesOf.1 he).1
  have hjournal : AccountJournal (B.ledgerStep E ev).createdAt a (B.entriesOf a) :=
    (h.journal a).congr fun e he => happ.old e (mem_entriesOf.1 he).1
  have hof := happ.entriesOf a
  by_cases hnil : s.writes.entries.filter (·.accountID = a) = []
  · rw [hof, hnil, List.append_nil]
    exact hjournal
  obtain ⟨-, hs, -⟩ := mem_posts.1 hmem
  have hblock : ∀ r ∈ s.writes.entries.filter (·.accountID = a), r ∈ s.writes.entries ∧ r.accountID = a :=
    fun r hr => by simpa using hr
  obtain ⟨r₀, hr₀⟩ := List.exists_mem_of_ne_nil _ hnil
  rw [hof]
  refine .post s.txID hjournal hnil (fun r hr => happ.tx r (hblock r hr).1)
    (fun e he => happ.fresh e (mem_entriesOf.1 he).1) (fun e he => ?_) fun r hr => ?_
  · -- the account has been locked since before the insert
    obtain ⟨he, hea⟩ := mem_entriesOf.1 he
    rw [happ.old e he, happ.created]
    exact h.inserted sid s hs r₀ (hblock r₀ hr₀).1 e he (hea.trans (hblock r₀ hr₀).2.symm)
  · rw [← hof, net_entriesOf, h.balanceAfter hmem hposts (hblock r hr).1, (hblock r hr).2]

theorem past_step (h : Stamped E B) (ev : Event) {e : LedgerEntry}
    (he : e ∈ (B.ledgerStep E ev).world.db.entries) :
    (B.ledgerStep E ev).createdAt e.transactionID ≤ B.world.now := by
  rcases entries_step h.world ev with ⟨hentries, -, hold⟩ | ⟨sid, s, -, -, happ⟩
  · rw [hentries] at he
    rw [hold e he]
    exact h.past e he
  · rw [happ.entries, List.mem_append] at he
    rcases he with he | he
    · rw [happ.old e he]
      exact h.past e he
    · rw [happ.tx e he, happ.created]
      exact h.clock sid

/-- What was committed before is older than any insert that is later than it or kept. -/
theorem le_insertedAt (h : Stamped E B) (ev : Event) {e : LedgerEntry}
    (he : e ∈ B.world.db.entries) (hle : B.createdAt e.transactionID ≤ B.insertedAt sid) :
    (B.ledgerStep E ev).createdAt e.transactionID ≤ (B.ledgerStep E ev).insertedAt sid := by
  rw [createdAt_step h.world ev (h.world.db.owned e he)]
  rcases insertedAt_step (E := E) B ev sid with hsame | hnow
  · rw [hsame]
    exact hle
  · rw [hnow]
    exact h.past e he

theorem inserted_step (h : Stamped E B) (ev : Event) (sid : SessionID) (s' : Session)
    (hs' : (B.ledgerStep E ev).world.sessions sid = some s') (r : LedgerEntry) (hr : r ∈ s'.writes.entries)
    (e : LedgerEntry) (he : e ∈ (B.ledgerStep E ev).world.db.entries) (hea : e.accountID = r.accountID) :
    (B.ledgerStep E ev).createdAt e.transactionID ≤ (B.ledgerStep E ev).insertedAt sid := by
  cases step_move E B.world ev with
  | resumes hdb _ hsessions =>
    have he : e ∈ B.world.db.entries := hdb ▸ he
    cases hsessions sid s' hs' with
    | untouched hs _ => exact h.le_insertedAt ev he (h.inserted sid s' hs r hr e he hea)
    | accepted _ _ _ _ _ _ hstart =>
      rw [hstart] at hr
      cases hr
    | retried _ _ _ hstart =>
      rw [hstart] at hr
      cases hr
    | statement s hs hev hexec _ =>
      by_cases hp : s.phase = .entries
      · rw [createdAt_step h.world ev (h.world.db.owned e he), hev, insertedAt_entries hs hp]
        exact h.past e he
      · rw [exec_entries hexec hp] at hr
        exact h.le_insertedAt ev he (h.inserted sid s hs r hr e he hea)
  | commits sid₀ s₀ hs₀ _ _ hw =>
    have hs' : (B.world.commit sid₀ s₀).sessions sid = some s' := hw ▸ hs'
    obtain ⟨hne, hs, -⟩ := endSession_sessions hs'
    have he : e ∈ (B.world.commit sid₀ s₀).db.entries := hw ▸ he
    rcases List.mem_append.1 he with he | he
    · exact h.le_insertedAt ev he (h.inserted sid s' hs r hr e he hea)
    · -- both sessions would hold the account
      have hheld := entries_locked (h.world.sessions sid s' hs) hr
      have hheld₀ := entries_locked (h.world.sessions sid₀ s₀ hs₀) he
      rw [hea, hheld] at hheld₀
      exact absurd (Option.some.inj hheld₀) hne

/-- **A ledger event keeps the timestamps in order.** -/
theorem step (h : Stamped E B) (ev : Event) : Stamped E (B.ledgerStep E ev) where
  world := step_ok h.world ev
  balances := h.balances_step ev
  journal := h.journal_step ev
  past e he := (h.past_step ev he).trans (now_le_step E B.world ev)
  clock sid := by
    have hnow := now_le_step E B.world ev
    rcases insertedAt_step (E := E) B ev sid with hsame | hlast
    · rw [hsame]
      exact (h.clock sid).trans hnow
    · rw [hlast]
      exact hnow
  inserted := h.inserted_step ev

theorem idle {db : Db} (hentries : db.entries = []) (hzero : ∀ a x, db.balances a = some x → x = 0)
    (now : ℕ) : Stamped E (.idle db now) where
  world := idle_ok (dbOK_empty hentries hzero)
  balances a := by
    have hproj := (projects_empty (E := E) hentries hzero).balances a
    simpa [Books.idle, World.idle, hentries, Book.balance, Book.postings] using hproj
  journal a := by
    have hnil : (Books.idle db now).entriesOf a = [] := by
      simp [Books.entriesOf, Books.idle, World.idle, hentries]
    rw [hnil]
    exact .nil
  past e he := by
    have he : e ∈ db.entries := he
    rw [hentries] at he
    cases he
  clock _ := Nat.zero_le _
  inserted _ _ hs := by cases hs

end Stamped

/-! ## Snapshots -/

/-- Credits minus debits of the entries of an account created before `t`. -/
def Books.totalBefore (B : Books) (a : UUID) (t : ℕ) : ℤ :=
  net ((B.entriesBefore a t).map LedgerEntry.posting) a

/-- The entries of the account with the last timestamp before `t` are of one transaction,
or the one committed last has the last id. -/
def Books.Untied (B : Books) (a : UUID) (t : ℕ) : Prop :=
  ∀ z ∈ (B.entriesBefore a t).getLast?, ∀ e ∈ B.entriesBefore a t,
    B.createdAt e.transactionID = B.createdAt z.transactionID →
      e.transactionID = z.transactionID ∨ e.id < z.id

/-- **No entry comes after the snapshot it belongs in.** A posting that commits has no
entry created before the end of a day its account has a snapshot of; a snapshot run finds
the last timestamp of each account it writes on one transaction. -/
def Books.InTime (E : Env) (C : Calendar) (B : Books) : BooksEvent → Prop
  | .ledger ev => ∀ p ∈ B.posts ev, ∀ r ∈ p.2.writes.entries, ∀ snap ∈ B.snapshots,
      snap.accountID = r.accountID → C.endOf snap.asOfDate ≤ B.insertedAt p.1
  | .insertForDate d => ∀ a ∈ B.missing d (B.activeOn C d), B.Untied a (C.endOf d)
  | .insertForDateAllAccounts d => ∀ a ∈ B.missing d (Books.interestAccounts E), B.Untied a (C.endOf d)

instance (a : UUID) (t : ℕ) : Decidable (B.Untied a t) :=
  inferInstanceAs (Decidable (∀ z ∈ (B.entriesBefore a t).getLast?, _))

instance (e : BooksEvent) : Decidable (B.InTime E C e) := by
  unfold Books.InTime
  split <;> infer_instance

/-- Every snapshot is the total up to the end of its day. -/
def Frozen (C : Calendar) (B : Books) : Prop :=
  ∀ snap ∈ B.snapshots, snap.closingBalance = B.totalBefore snap.accountID (C.endOf snap.asOfDate)

theorem snapshotRow_closing (h : Stamped E B) {d : ℕ} {a : UUID} (hun : B.Untied a (C.endOf d)) :
    (B.snapshotRow C d a).closingBalance = B.totalBefore a (C.endOf d) :=
  ((h.journal a).before (C.endOf d)).closing LedgerEntry.id hun

/-- A run adds true rows. -/
theorem Frozen.insertSnapshots (h : Frozen C B) (hst : Stamped E B) {d : ℕ} {accounts : List UUID}
    (hun : ∀ a ∈ B.missing d accounts, B.Untied a (C.endOf d)) : Frozen C (B.insertSnapshots C d accounts) := by
  intro snap hsnap
  rcases List.mem_append.1 hsnap with hsnap | hsnap
  · exact h snap hsnap
  · obtain ⟨a, ha, rfl⟩ := List.mem_map.1 hsnap
    exact snapshotRow_closing hst (hun a ha)

/-- A posting in time leaves the past as it was. -/
theorem entriesBefore_step (h : Stamped E B) (ev : Event) {a : UUID} {t : ℕ}
    (hin : ∀ p ∈ B.posts ev, ∀ r ∈ p.2.writes.entries, r.accountID = a → t ≤ B.insertedAt p.1) :
    (B.ledgerStep E ev).entriesBefore a t = B.entriesBefore a t := by
  have hold : (B.entriesOf a).filter (fun e => (B.ledgerStep E ev).createdAt e.transactionID < t) =
      B.entriesBefore a t := by
    refine List.filter_congr fun e he => ?_
    rw [createdAt_step h.world ev (h.world.db.owned e (mem_entriesOf.1 he).1)]
  rcases entries_step h.world ev with ⟨hentries, -, -⟩ | ⟨sid, s, hmem, -, happ⟩
  · rw [← hold, Books.entriesBefore, Books.entriesOf, hentries]
    rfl
  have hnew : (s.writes.entries.filter (·.accountID = a)).filter
      (fun e => (B.ledgerStep E ev).createdAt e.transactionID < t) = [] := by
    rw [List.filter_eq_nil_iff]
    intro r hr
    obtain ⟨hr, hra⟩ : r ∈ s.writes.entries ∧ r.accountID = a := by simpa using hr
    have hle := hin (sid, s) hmem r hr hra
    simpa [happ.tx r hr, happ.created] using hle
  rw [Books.entriesBefore, happ.entriesOf, List.filter_append, hnew, List.append_nil, hold]

theorem Frozen.ledgerStep (h : Frozen C B) (hst : Stamped E B) {ev : Event}
    (hin : B.InTime E C (.ledger ev)) : Frozen C (B.ledgerStep E ev) := by
  intro snap hsnap
  rw [Books.totalBefore, entriesBefore_step hst ev fun p hp r hr hra => hin p hp r hr snap hsnap hra.symm]
  exact h snap hsnap

theorem Stamped.insertSnapshots (h : Stamped E B) (d : ℕ) (accounts : List UUID) :
    Stamped E (B.insertSnapshots C d accounts) :=
  ⟨h.world, h.balances, h.journal, h.past, h.clock, h.inserted⟩

/-- **One event in time keeps every snapshot true.** -/
theorem frozen_step (B : Books) (e : BooksEvent) (h : Stamped E B ∧ Frozen C B) (hin : B.InTime E C e) :
    Stamped E (B.step E C e) ∧ Frozen C (B.step E C e) := by
  obtain ⟨hst, hfr⟩ := h
  cases e with
  | ledger ev => exact ⟨hst.step ev, hfr.ledgerStep hst hin⟩
  | insertForDate d => exact ⟨hst.insertSnapshots d _, hfr.insertSnapshots hst hin⟩
  | insertForDateAllAccounts d => exact ⟨hst.insertSnapshots d _, hfr.insertSnapshots hst hin⟩

/-- A snapshot stays. -/
theorem snapshots_step (B : Books) (e : BooksEvent) {snap : Snapshot} (h : snap ∈ B.snapshots) :
    snap ∈ (B.step E C e).snapshots := by
  cases e with
  | ledger ev => exact h
  | insertForDate | insertForDateAllAccounts => exact List.mem_append_left _ h

/-! ## Reads -/

/-- The entries up to the end of a day are those up to the end of an earlier one and those
after it. -/
theorem totalBefore_split (B : Books) (a : UUID) (snap : Snapshot) {d : ℕ} (hd : snap.asOfDate ≤ d) :
    B.totalBefore a (C.endOf snap.asOfDate) + B.deltaSince C a (some snap) d = B.totalBefore a (C.endOf d) := by
  have hle : C.endOf snap.asOfDate ≤ C.endOf d := C.strictMono.monotone (by omega)
  have hbefore : B.entriesBefore a (C.endOf snap.asOfDate) = (B.entriesBefore a (C.endOf d)).filter
      fun e => B.createdAt e.transactionID < C.endOf snap.asOfDate := by
    rw [Books.entriesBefore, Books.entriesBefore, List.filter_filter]
    refine List.filter_congr fun e _ => ?_
    rw [← Bool.decide_and, decide_eq_decide]
    omega
  have hafter : (B.entriesBefore a (C.endOf d)).filter
      (fun e => ∀ s ∈ some snap, C.endOf s.asOfDate ≤ B.createdAt e.transactionID) =
      (B.entriesBefore a (C.endOf d)).filter
        fun e => !decide (B.createdAt e.transactionID < C.endOf snap.asOfDate) := by
    refine List.filter_congr fun e _ => ?_
    rw [← decide_not, decide_eq_decide]
    simp
  rw [Books.totalBefore, Books.deltaSince, hbefore, hafter, ← net_append, ← List.map_append]
  exact net_perm ((List.filter_append_perm _ _).map _) a

theorem deltaSince_none (B : Books) (a : UUID) (d : ℕ) :
    B.deltaSince C a none d = B.totalBefore a (C.endOf d) := by
  rw [Books.deltaSince, List.filter_eq_self.2 fun _ _ => by simp]
  rfl

/-- A true snapshot and the entries after it make the total. -/
theorem baseline_add_delta (h : Frozen C B') {a : UUID} {d : ℕ}
    (hkept : ∀ snap ∈ B.snapshots, snap ∈ B'.snapshots) :
    ((B.getLatestBefore a d).map Snapshot.closingBalance).getD 0 +
      B'.deltaSince C a (B.getLatestBefore a d) d = B'.totalBefore a (C.endOf d) := by
  cases hbase : B.getLatestBefore a d with
  | none =>
    rw [deltaSince_none]
    exact zero_add _
  | some snap =>
    have hmem : snap ∈ B.snapshots ∧ snap.accountID = a ∧ snap.asOfDate ≤ d := by
      simpa using List.argmax_mem hbase
    obtain ⟨hsnap, rfl, hd⟩ := hmem
    rw [Option.map_some, Option.getD_some, h snap (hkept snap hsnap)]
    exact totalBefore_split B' snap.accountID snap hd

/-- **Historical balances do not depend on snapshots**, in every run in which no posting
commits after a snapshot it belongs in. The snapshot is read after `es` and the entries
after `es'` more events; the read fails only when the movement since the snapshot is not
an int64. -/
theorem balanceAsOf_history (E : Env) (C : Calendar) (db : Db) (now : ℕ) (hentries : db.entries = [])
    (hzero : ∀ a x, db.balances a = some x → x = 0) (es es' : List BooksEvent)
    (hin : Along (Books.step E C) (Books.InTime E C) (.idle db now) (es ++ es')) (a : UUID) (d : ℕ) :
    let B := run (Books.step E C) (.idle db now) es
    let B' := run (Books.step E C) (.idle db now) (es ++ es')
    B.balanceAsOf C B' a d = .ok (B'.totalBefore a (C.endOf d)) ↔
      Decimal.inInt64 (B'.deltaSince C a (B.getLatestBefore a d) d) = true := by
  intro B B'
  have hstart : Stamped E (.idle db now) ∧ Frozen C (.idle db now) :=
    ⟨.idle hentries hzero now, fun _ hsnap => by cases hsnap⟩
  have hfrozen : Frozen C B' :=
    (run_inv_of_along (I := fun B => Stamped E B ∧ Frozen C B) frozen_step hstart hin).2
  have hkept : ∀ snap ∈ B.snapshots, snap ∈ B'.snapshots := by
    intro snap hsnap
    have := run_inv (I := fun B => snap ∈ B.snapshots) (fun B e h => snapshots_step (E := E) (C := C) B e h)
      hsnap es'
    rwa [← run_append] at this
  have hsum := baseline_add_delta (B := B) hfrozen (a := a) (d := d) hkept
  unfold Books.balanceAsOf
  dsimp only
  rw [hsum]
  split <;> rename_i hrange <;> simp [hrange]

/-! ## A ledger with days of ten moments -/

namespace Sample

def days : Calendar := ⟨fun d => 10 * d, fun _ _ h => by dsimp only; omega⟩

def books (es : List BooksEvent) : Books := run (Books.step env days) (.idle zeroed 0) es

/-- A top-up of user 1. -/
def moneyIn (sid : SessionID) (txID : UUID) (key : String) (amount : Decimal) : List BooksEvent :=
  (call sid txID (command key .moneyIn amount UUID.nil)).map .ledger

/-- A top-up on day 0, a snapshot of it on day 1, another top-up and a snapshot on day 2. -/
def dated : List BooksEvent :=
  moneyIn 1 101 "k1" 100 ++ [.ledger (.tick 10), .insertForDateAllAccounts 0] ++
    moneyIn 2 102 "k2" 50 ++ [.ledger (.tick 10), .insertForDate 1]

end Sample

set_option maxRecDepth 20000 in
/-- The balance on day 1 is read from the second snapshot. -/
theorem balanceAsOf_history_dated :
    Along (Books.step Sample.env Sample.days) (Books.InTime Sample.env Sample.days)
        (.idle Sample.zeroed 0) (Sample.dated ++ []) ∧
      (Sample.books Sample.dated).balanceAsOf Sample.days (Sample.books (Sample.dated ++ [])) 11 1 = .ok 150 := by
  have hin : Along (Books.step Sample.env Sample.days) (Books.InTime Sample.env Sample.days)
      (.idle Sample.zeroed 0) (Sample.dated ++ []) := by decide +kernel
  refine ⟨hin, ?_⟩
  have hread := (balanceAsOf_history Sample.env Sample.days Sample.zeroed 0 rfl Sample.zeroed_zero
    Sample.dated [] hin 11 1).2 (by decide +kernel)
  refine hread.trans (congrArg Except.ok ?_)
  decide +kernel

set_option maxRecDepth 20000 in
/-- `RunInterestDaily` takes a snapshot of the current day, and a top-up of the same day
is left out of the balance on it, and on every later day. -/
theorem balanceAsOf_snapshot_today :
    (Sample.books (.insertForDateAllAccounts 0 :: Sample.moneyIn 1 101 "k1" 100)).balanceAsOf Sample.days
        (Sample.books (.insertForDateAllAccounts 0 :: Sample.moneyIn 1 101 "k1" 100)) 11 0 = .ok 0 ∧
      (Sample.books (.insertForDateAllAccounts 0 :: Sample.moneyIn 1 101 "k1" 100)).totalBefore 11
        (Sample.days.endOf 0) = 100 := by
  decide +kernel

end Seev.Ledger
