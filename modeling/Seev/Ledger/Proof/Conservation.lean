import Seev.Ledger.Proof.History

/-!
# The ledger is a balanced book

What the ledger is for, said without sessions, locks or headers: a book to which
transactions are added, each with positive postings, debits equal to credits and all
accounts of one currency. The projection in `account_balances` is what the book says.

* `Projects`: the entries are the postings of the book, and the balances are its
  balances.
* `step_refines`, `run_refines_book`: every event of the ledger adds nothing or one
  transaction to the book.
* `conservation`: in every reachable state the balances are the sums over the entries,
  every transaction balances, and each currency adds up to zero (`Conserved`).
-/

namespace Seev.Ledger

open Lib

variable {E : Env} {db db' : Db} {s : Session} {b : List (Txn UUID ℤ)} {w : World}

/-- The sum of one side of an account. -/
def Db.accountTotal (db : Db) (d : Direction) (accountID : UUID) : ℤ :=
  total d ((db.entries.filter (·.accountID = accountID)).map LedgerEntry.posting)

/-- The sum of one side of a transaction. -/
def Db.txTotal (db : Db) (d : Direction) (txID : UUID) : ℤ :=
  total d ((db.entries.filter (·.transactionID = txID)).map LedgerEntry.posting)

/-- The sum of the balances of one currency. -/
def Db.currencyTotal (E : Env) (db : Db) (c : Currency) : ℤ :=
  ((E.accounts.rows.filter (·.currency = c)).map fun r => (db.balances r.id).getD 0).sum

/-- What a sound ledger shows: (a) every balance is the sum of the account's credits minus
the sum of its debits, (b) every transaction has equal sides and every amount is positive,
(c) the balances of one currency add up to zero. -/
structure Conserved (E : Env) (db : Db) : Prop where
  balance : ∀ a, (db.balances a).getD 0 = db.accountTotal .credit a - db.accountTotal .debit a
  tx : ∀ txID, db.txTotal .debit txID = db.txTotal .credit txID
  pos : ∀ e ∈ db.entries, 0 < e.amount
  currency : ∀ c, db.currencyTotal E c = 0

/-- All postings are on accounts of one currency. -/
def OneCurrency (E : Env) (t : Txn UUID ℤ) : Prop :=
  ∃ c, ∀ p ∈ t.postings, (E.accounts.byID p.account).map AccountRow.currency = some c

/-- The tables project the book `b`. -/
structure Projects (E : Env) (db : Db) (b : List (Txn UUID ℤ)) : Prop where
  postings : db.entries.map LedgerEntry.posting = Book.postings b
  balances : ∀ a, (db.balances a).getD 0 = Book.balance b a
  currency : ∀ t ∈ b, OneCurrency E t
  /-- the entries of one transaction id are one transaction of the book -/
  grouped : ∀ txID, (db.entries.filter (·.transactionID = txID)).map LedgerEntry.posting = [] ∨
    ∃ t ∈ b, (db.entries.filter (·.transactionID = txID)).map LedgerEntry.posting = t.postings

/-- The rows of a posting as a transaction of the book. -/
def EntriesOK.txn {c : Currency} {txID : UUID} {es : List EntryInstruction} {nb : UUID → Option Decimal}
    {rows : List LedgerEntry} (h : EntriesOK E db c txID es nb rows) : Txn UUID ℤ where
  postings := rows.map LedgerEntry.posting
  pos p hp := by
    obtain ⟨r, hr, rfl⟩ := List.mem_map.1 hp
    obtain ⟨_, _, hrow⟩ := h.row_mem hr
    exact hrow.pos
  balanced := h.balanced

theorem dbOK_empty (hentries : db.entries = []) (hzero : ∀ a x, db.balances a = some x → x = 0) :
    DbOK E db where
  owned e he := by
    rw [hentries] at he
    cases he
  range a x hx := by
    rw [hzero a x hx]
    rfl

theorem projects_empty (hentries : db.entries = []) (hzero : ∀ a x, db.balances a = some x → x = 0) :
    Projects E db [] where
  postings := by rw [hentries]; rfl
  balances a := by
    cases hx : db.balances a with
    | none => rfl
    | some x => simp [hzero a x hx]
  currency t ht := by cases ht
  grouped _ := by simp [hentries]

/-- A posting adds one transaction to the book. -/
theorem Posts.projects (hdb : DbOK E db) (h : Posts E db s db') (hb : Projects E db b) :
    ∃ t, Projects E db' (b ++ [t]) := by
  obtain ⟨db₀, nb, hrows⟩ := h.rows
  have hpost : Book.postings (b ++ [hrows.txn]) =
      Book.postings b ++ s.writes.entries.map LedgerEntry.posting := by
    simp [Book.postings, EntriesOK.txn]
  refine ⟨hrows.txn, ⟨?_, fun a => ?_, fun t ht => ?_, fun txID => ?_⟩⟩
  · rw [h.entries, List.map_append, hb.postings, hpost]
  · rw [h.balance a, hb.balances a, Book.balance, Book.balance, hpost, net_append]
  · rcases List.mem_append.1 ht with ht | ht
    · exact hb.currency t ht
    · rw [List.mem_singleton.1 ht]
      refine ⟨s.rc.currency, fun p hp => ?_⟩
      obtain ⟨r, hr, rfl⟩ := List.mem_map.1 hp
      exact hrows.currency r hr
  · by_cases htx : txID = s.txID
    · -- a new id: all its entries are the new rows
      rw [htx, h.filter_entries_self hdb]
      exact .inr ⟨hrows.txn, by simp, rfl⟩
    · rw [h.filter_entries htx]
      rcases hb.grouped txID with hnil | ⟨t, ht, heq⟩
      · exact .inl hnil
      · exact .inr ⟨t, List.mem_append_left _ ht, heq⟩

/-- Nothing else touches the book. -/
theorem Projects.congr (h : Projects E db b) (hentries : db'.entries = db.entries)
    (hbal : db'.balances = db.balances) : Projects E db' b :=
  ⟨by rw [hentries, h.postings], by rw [hbal]; exact h.balances, h.currency, by rw [hentries]; exact h.grouped⟩

/-- One transaction is added at the end. -/
def Appended (b b' : List (Txn UUID ℤ)) : Prop := ∃ t, b' = b ++ [t]

/-- **Every event of the ledger adds nothing or one transaction to the book.** -/
theorem step_refines (h : WorldOK E w) (hb : Projects E w.db b) (ev : Event) :
    ∃ b', Relation.ReflTransGen Appended b b' ∧ Projects E (w.step E ev).db b' := by
  cases step_effect h ev with
  | quiet hdb _ => exact ⟨b, .refl, hb.congr (by rw [hdb]) (by rw [hdb])⟩
  | posts _ _ _ _ hposts _ _ _ =>
    obtain ⟨t, ht⟩ := hposts.projects h.db hb
    exact ⟨b ++ [t], .single ⟨t, rfl⟩, ht⟩
  | rejects _ _ _ _ hrejects _ _ =>
    exact ⟨b, .refl, hb.congr hrejects.entries hrejects.balances⟩

theorem run_refines_book (h : WorldOK E w) (hb : Projects E w.db b) (evs : List Event) :
    ∃ b', Relation.ReflTransGen Appended b b' ∧ Projects E (run (World.step E) w evs).db b' := by
  obtain ⟨b', hrec, -, hproj⟩ := run_refines (A := Appended)
    (R := fun w b => WorldOK E w ∧ Projects E w.db b)
    (fun w ev b hw => by
      obtain ⟨b', hrec, hproj⟩ := step_refines hw.1 hw.2 ev
      exact ⟨b', hrec, step_ok hw.1 ev, hproj⟩) ⟨h, hb⟩ evs
  exact ⟨b', hrec, hproj⟩

/-! ## What the book says about the tables -/

theorem Projects.account (h : Projects E db b) (a : UUID) :
    (db.balances a).getD 0 = db.accountTotal .credit a - db.accountTotal .debit a := by
  rw [h.balances, Book.balance, ← h.postings, net_eq_sides, Db.accountTotal, Db.accountTotal,
    List.filter_map]
  rfl

theorem Projects.tx (h : Projects E db b) (txID : UUID) :
    db.txTotal .debit txID = db.txTotal .credit txID := by
  unfold Db.txTotal
  rcases h.grouped txID with hnil | ⟨t, -, heq⟩
  · rw [hnil]
    rfl
  · rw [heq, t.balanced]

theorem Projects.pos (h : Projects E db b) {e : LedgerEntry} (he : e ∈ db.entries) : 0 < e.amount := by
  have hmem : e.posting ∈ Book.postings b := h.postings ▸ List.mem_map_of_mem he
  obtain ⟨t, -, hp⟩ := List.mem_flatMap.1 hmem
  exact t.pos e.posting hp

/-- Each currency adds up to zero: its accounts are a set no transaction crosses. -/
theorem Projects.currencyTotal (h : Projects E db b) (c : Currency) : db.currencyTotal E c = 0 := by
  have hnodup : ((E.accounts.rows.filter (·.currency = c)).map AccountRow.id).Nodup :=
    E.accounts.nodup.sublist (List.filter_sublist.map _)
  have hsum : db.currencyTotal E c =
      ∑ a ∈ ((E.accounts.rows.filter (·.currency = c)).map AccountRow.id).toFinset, Book.balance b a := by
    rw [List.sum_toFinset _ hnodup, Db.currencyTotal, List.map_map]
    congr 1
    exact List.map_congr_left fun r _ => h.balances r.id
  have hmem : ∀ a, a ∈ ((E.accounts.rows.filter (·.currency = c)).map AccountRow.id).toFinset ↔
      (E.accounts.byID a).map AccountRow.currency = some c := by
    intro a
    simp only [List.mem_toFinset, List.mem_map, List.mem_filter, decide_eq_true_eq, Option.map_eq_some_iff]
    constructor
    · rintro ⟨r, ⟨hr, hc⟩, rfl⟩
      exact ⟨r, AccountTable.byID_of_mem hr, hc⟩
    · rintro ⟨r, hr, hc⟩
      exact ⟨r, ⟨AccountTable.mem_of_byID hr, hc⟩, AccountTable.byID_id hr⟩
  rw [hsum]
  refine Book.sum_balance b _ fun t ht => ?_
  obtain ⟨c', hc'⟩ := h.currency t ht
  by_cases hcc : c' = c
  · exact .inl fun p hp => (hmem p.account).2 (hcc ▸ hc' p hp)
  · refine .inr fun p hp hin => hcc ?_
    have := (hmem p.account).1 hin
    rw [hc' p hp] at this
    exact Option.some.inj this

/-- **Conservation and agreement of the projection.** From a ledger with no entries and
all balances zero, the committed state is sound after any interleaving of `Handle` calls,
statements, failures and time. -/
theorem conservation (E : Env) (db : Db) (now : ℕ) (hentries : db.entries = [])
    (hzero : ∀ a x, db.balances a = some x → x = 0) (evs : List Event) :
    Conserved E (run (World.step E) (.idle db now) evs).db := by
  have hworld : WorldOK E (.idle db now) := idle_ok (dbOK_empty hentries hzero)
  obtain ⟨b, -, hb⟩ := run_refines_book hworld (projects_empty hentries hzero) evs
  exact ⟨hb.account, hb.tx, fun e he => hb.pos he, hb.currencyTotal⟩

theorem Sample.zeroed_zero : ∀ a x, Sample.zeroed.balances a = some x → x = 0 := by
  intro a x hx
  simp only [Sample.zeroed] at hx
  split at hx <;> cases hx
  rfl

/-- Two top-ups of user 1 statement by statement, so that one waits for the other's
lock, and then a withdrawal. -/
def Sample.topups : List Event :=
  [.handle 1 101 (command "k1" .moneyIn 100 UUID.nil), .handle 2 102 (command "k2" .moneyIn 50 UUID.nil)] ++
    (List.replicate 13 [.advance 1, .advance 2]).flatten ++ List.replicate 8 (.advance 2) ++
    call 3 103 (command "k3" .withdrawInitiate 30 UUID.nil)

set_option maxRecDepth 20000 in
/-- The three post, and the state after them is sound. -/
theorem conservation_topups :
    (run (World.step Sample.env) (.idle Sample.zeroed 0) Sample.topups).posted.map Prod.fst = [101, 102, 103] ∧
      Conserved Sample.env (run (World.step Sample.env) (.idle Sample.zeroed 0) Sample.topups).db :=
  ⟨by decide +kernel, conservation Sample.env Sample.zeroed 0 rfl Sample.zeroed_zero Sample.topups⟩

end Seev.Ledger
