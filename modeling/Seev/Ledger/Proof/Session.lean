import Seev.Ledger.Proof.Entries
import Seev.Ledger.Proof.Touches

/-!
# What a session knows

A session runs its statements one at a time while others commit around it. What it
has read or written stays true until it commits because it holds the rows it relies
on. `SessionOK` says what that is, phase by phase; `Frame` says what the rest of the
world may do meanwhile.

* `SessionOK.frame`: nothing another session does breaks what this one knows.
-/

namespace Seev.Ledger

open Lib

/-- How far a session has come. A rejected one has only its header. -/
def Phase.rank : Phase → ℕ
  | .insert => 0
  | .quote | .commitFailed => 1
  | .preLock => 2
  | .flags => 3
  | .lock => 4
  | .validate => 5
  | .close => 6
  | .build => 7
  | .deltas => 8
  | .entries => 9
  | .update => 10
  | .finish => 11
  | .commit => 12

/-- The predecessor a lifecycle type closes, for the types that check it. -/
def requiredOriginal : TxType → Option TxType
  | .withdrawSettle | .withdrawCancel => some .withdrawInitiate
  | .withdrawPendingSettle | .withdrawPendingCancel => some .withdrawPending
  | .escrowRelease | .escrowRefund => some .escrowHold
  | .merchantPayoutSettle | .merchantPayoutCancel => some .merchantPayoutHold
  | _ => none

/-! ## The committed state -/

/-- What holds of every committed state. -/
structure DbOK (E : Env) (db : Db) : Prop where
  /-- an entry belongs to a transaction -/
  owned : ∀ e ∈ db.entries, e.transactionID ∈ db.txs
  range : ∀ a b, db.balances a = some b → Decimal.inInt64 b = true

/-- The columns of a header that never change, and that its first closing is its last
change. -/
structure RowLater (h h' : TxRow) : Prop where
  type : h'.type = h.type
  amount : h'.amount = h.amount
  currency : h'.currency = h.currency
  source : h'.sourceAccountID = h.sourceAccountID
  destination : h'.destinationAccountID = h.destinationAccountID
  same : h'.closedByTxID.isSome ∨ h' = h

theorem RowLater.refl (h : TxRow) : RowLater h h := ⟨rfl, rfl, rfl, rfl, rfl, .inr rfl⟩

/-- What may happen around session `sid`: its locks stay, the rows behind them do not
change, rows do not go away, and new entries belong to new transactions. -/
structure Frame (sid : SessionID) (db : Db) (L : Locks LockKey SessionID) (db' : Db)
    (L' : Locks LockKey SessionID) : Prop where
  locks : ∀ k, L k = some sid → L' k = some sid
  balances : ∀ a, L (.balance a) = some sid → db'.balances a = db.balances a
  tx : ∀ t, L (.tx t) = some sid → db'.txs.lookup t = db.txs.lookup t
  later : ∀ t h, db.txs.lookup t = some h → ∃ h', db'.txs.lookup t = some h' ∧ RowLater h h'
  quotes : ∀ q, L (.quote q) = some sid → db'.quotes q = db.quotes q
  entries : ∃ new, db'.entries = db.entries ++ new ∧ ∀ e ∈ new, e.transactionID ∉ db.txs

/-! ## The session -/

/-- The row of a command, before anything closes it. -/
structure HeaderOf (rc : ResolvedCommand) (h : TxRow) : Prop where
  type : h.type = rc.type
  amount : (h.amount : ℚ) = rc.amount
  currency : h.currency = rc.currency
  source : h.sourceAccountID = uuidPtr rc.source
  destination : h.destinationAccountID = uuidPtr rc.destination
  isOpen : h.closedByTxID = none

/-- Its own header, once inserted. -/
structure Own (db : Db) (L : Locks LockKey SessionID) (sid : SessionID) (s : Session) : Prop where
  fresh : s.txID ∉ db.txs
  lock : L (.tx s.txID) = some sid
  header : ∃ h, s.writes.header = some h ∧ HeaderOf s.rc h

/-- The fee quote, once its statement is over. -/
inductive Quoted (E : Env) (db : Db) (L : Locks LockKey SessionID) (sid : SessionID) (s : Session) : Prop
  | none (unnamed : s.rc.quoteID = "") (writes : s.writes.quote = none)
  /-- consumed by this transaction, with the row still held -/
  | consumed (quoteID : UUID) (q : FeeQuote) (now : ℕ) (named : s.rc.quoteID ≠ "")
      (parsed : E.text.parseUUID s.rc.quoteID = .ok quoteID) (held : L (.quote quoteID) = some sid)
      (row : db.quotes quoteID = some q)
      (fresh : q.consumedAt = Option.none ∨ q.consumedBy = some (.tx s.txID))
      (writes : s.writes.quote = some (quoteID, q.consume now (.tx s.txID)))

/-- The user balances, once locked. -/
structure Held (E : Env) (db : Db) (L : Locks LockKey SessionID) (sid : SessionID) (s : Session) :
    Prop where
  lock : ∀ a ∈ s.userIDs, L (.balance a) = some sid
  balances : ∀ a ∈ s.userIDs, accountBalance E db a = lookupBalance s.userBalances a
  scanned : ∃ db₀, s.userBalances = getAccountFlags E db₀ s.userIDs

/-- The checks passed. -/
structure Checked (E : Env) (db : Db) (s : Session) : Prop where
  accounts : ∀ a ∈ s.rc.accountIDs, ∃ ab, s.merged a = some ab ∧ ab.currency = s.rc.currency
  validated : ∃ p db₀, registry E s.rc.type = .ok p ∧ p.validate db₀ s.rc s.merged = .ok ()
  original : (lifecycleCloseReason s.rc.type).isSome ∨ (requiredOriginal s.rc.type).isSome →
    ∃ h, db.txs.lookup s.rc.referenceID = some h ∧ (h.closedByTxID.isSome ∨ h.status = .posted) ∧
      (s.rc.type = .reversal → h.type ≠ .reversal) ∧
      ∀ t, requiredOriginal s.rc.type = some t → h.type = t ∧ (h.amount : ℚ) = s.rc.amount

/-- The original, closed if the type closes one: still open in the committed state and
locked. -/
structure Closing (db : Db) (L : Locks LockKey SessionID) (sid : SessionID) (s : Session) : Prop where
  closed : s.writes.closed = (lifecycleCloseReason s.rc.type).map fun r => (s.rc.referenceID, r)
  lock : (lifecycleCloseReason s.rc.type).isSome → L (.tx s.rc.referenceID) = some sid
  isOpen : (lifecycleCloseReason s.rc.type).isSome → s.rc.referenceID ≠ s.txID ∧
    ∃ h, db.txs.lookup s.rc.referenceID = some h ∧ h.closedByTxID = none

/-- The entries, once built. A reversal has read the entries its original still has. -/
structure Built (E : Env) (db : Db) (s : Session) : Prop where
  touches : TouchesOnly s.rc s.built
  built : ∃ p db₀, registry E s.rc.type = .ok p ∧ p.buildEntries db₀ s.rc s.merged = .ok s.built ∧
    (s.rc.type = .reversal → getEntries db₀ s.rc.referenceID = getEntries db s.rc.referenceID)

/-- The system rows, once their deltas are applied. -/
structure Applied (E : Env) (db : Db) (L : Locks LockKey SessionID) (sid : SessionID) (s : Session)
    (rows : List (UUID × ℤ)) : Prop where
  lock : ∀ a x, s.systemDeltas.lookup a = some x → L (.balance a) = some sid
  delta : ∀ a x, s.systemDeltas.lookup a = some x → DeltaOK E db a x
  find : ∀ a, (rows.find? (·.1 = a)).map Prod.snd =
    (s.systemDeltas.lookup a).map fun x => (db.balances a).getD 0 + Decimal.intPart x

/-- The user rows, once written: absolute values of the computed map. -/
structure Updated (E : Env) (L : Locks LockKey SessionID) (sid : SessionID) (s : Session)
    (rows : List (UUID × ℤ)) : Prop where
  lock : ∀ a x, s.userNewBalances.lookup a = some x → L (.balance a) = some sid
  integral : ∀ a x, s.userNewBalances.lookup a = some x → Decimal.isInteger x = true
  allowed : ∀ a x, s.userNewBalances.lookup a = some x → balanceAllowed E a (Decimal.intPart x) = true
  find : ∀ a, (rows.find? (·.1 = a)).map Prod.snd = (s.userNewBalances.lookup a).map Decimal.intPart

/-- The ledger rows, once inserted: `sys` are the system rows the balances after them
were read from. -/
def Inserted (E : Env) (s : Session) (sys : List (UUID × ℤ)) : Prop :=
  ∃ db₀ nb, EntriesOK E db₀ s.rc.currency s.txID s.built nb s.writes.entries ∧
    ∀ a, nb a = ((sys.find? (·.1 = a)).map fun p => (p.2 : Decimal)).or (s.userNewBalances.lookup a)

/-- The balance rows of the session, system rows last. -/
structure BalanceWrites (E : Env) (db : Db) (L : Locks LockKey SessionID) (sid : SessionID)
    (s : Session) (user sys : List (UUID × ℤ)) : Prop where
  writes : s.writes.balances = user ++ sys
  applied : Applied E db L sid s sys
  inserted : 10 ≤ s.phase.rank → Inserted E s sys
  none : s.phase.rank < 11 → user = []
  updated : 11 ≤ s.phase.rank → Updated E L sid s user

/-- For a reversal, the accounts of the original: its entries are all there already. -/
def Resolved (db : Db) (s : Session) : Prop :=
  s.rc.type = .reversal → s.rc.referenceID ∈ db.txs ∧
    ∀ e ∈ db.entries, e.transactionID = s.rc.referenceID → e.accountID ∈ s.rc.accountIDs

/-- **Everything a session knows, by how far it has come.** -/
structure SessionOK (E : Env) (db : Db) (L : Locks LockKey SessionID) (sid : SessionID) (s : Session) :
    Prop where
  resolved : Resolved db s
  empty : s.phase.rank = 0 → s.writes = .empty
  own : 1 ≤ s.phase.rank → Own db L sid s
  unquoted : s.phase = .insert ∨ s.phase = .quote → s.writes.quote = none
  quoted : s.phase ≠ .insert → s.phase ≠ .quote → Quoted E db L sid s
  held : 5 ≤ s.phase.rank → Held E db L sid s
  checked : 6 ≤ s.phase.rank → Checked E db s
  notClosed : s.phase.rank < 7 → s.writes.closed = none
  closing : 7 ≤ s.phase.rank → Closing db L sid s
  built : 8 ≤ s.phase.rank → Built E db s
  notApplied : s.phase.rank < 9 → s.writes.balances = []
  applied : 9 ≤ s.phase.rank → ∃ user sys, BalanceWrites E db L sid s user sys
  notInserted : s.phase.rank < 10 → s.writes.entries = []
  silent : s.phase.rank < 12 → s.writes.events = []
  events : s.phase = .commit →
    ∃ p, registry E s.rc.type = .ok p ∧ s.writes.events = p.outboxEvents s.rc s.txID s.built
  status : s.writes.header.any (·.status = .posted) = true ↔ s.phase = .commit
  failed : s.phase = .commitFailed → s.writes.header.any (·.status = .failed) = true

/-! ## Other sessions -/

section Frame

variable {E : Env} {sid : SessionID} {db db' : Db} {L L' : Locks LockKey SessionID} {s : Session}

theorem Frame.mem (h : Frame sid db L db' L') {t : UUID} (ht : t ∈ db.txs) : t ∈ db'.txs := by
  obtain ⟨r, hr⟩ := Option.isSome_iff_exists.1 (AList.lookup_isSome.2 ht)
  obtain ⟨r', hr', -⟩ := h.later t r hr
  exact AList.lookup_isSome.1 (by simp [hr'])

theorem Frame.accountBalance (h : Frame sid db L db' L') {a : UUID} (ha : L (.balance a) = some sid) :
    accountBalance E db' a = accountBalance E db a := by
  simp only [Ledger.accountBalance, h.balances a ha]

variable (hf : Frame sid db L db' L')

include hf

theorem Resolved.frame (h : Resolved db s) : Resolved db' s := by
  intro ht
  obtain ⟨href, hacc⟩ := h ht
  obtain ⟨new, hnew, hfresh⟩ := hf.entries
  refine ⟨hf.mem href, fun e he htx => ?_⟩
  rw [hnew, List.mem_append] at he
  rcases he with he | he
  · exact hacc e he htx
  · exact absurd (htx ▸ href) (hfresh e he)

theorem Own.frame (h : Own db L sid s) : Own db' L' sid s := by
  refine ⟨?_, hf.locks _ h.lock, h.header⟩
  rw [← AList.lookup_eq_none, hf.tx _ h.lock, AList.lookup_eq_none]
  exact h.fresh

theorem Quoted.frame (h : Quoted E db L sid s) : Quoted E db' L' sid s := by
  cases h with
  | none hid hw => exact .none hid hw
  | consumed quoteID q now hid hparse hheld hrow hfresh hw =>
    exact .consumed quoteID q now hid hparse (hf.locks _ hheld) (by rw [hf.quotes _ hheld, hrow]) hfresh hw

theorem Held.frame (h : Held E db L sid s) : Held E db' L' sid s where
  lock a ha := hf.locks _ (h.lock a ha)
  balances a ha := by rw [hf.accountBalance (h.lock a ha), h.balances a ha]
  scanned := h.scanned

theorem Checked.frame (h : Checked E db s) : Checked E db' s := by
  refine ⟨h.accounts, h.validated, fun hc => ?_⟩
  obtain ⟨r, hr, hstatus, hrev, hrequired⟩ := h.original hc
  obtain ⟨r', hr', hlater⟩ := hf.later _ r hr
  refine ⟨r', hr', ?_, fun ht => hlater.type ▸ hrev ht, fun t ht => ?_⟩
  · rcases hlater.same with hclosed | rfl
    · exact .inl hclosed
    · exact hstatus
  · rw [hlater.type, hlater.amount]
    exact hrequired t ht

theorem Closing.frame (h : Closing db L sid s) : Closing db' L' sid s where
  closed := h.closed
  lock hc := hf.locks _ (h.lock hc)
  isOpen hc := by
    obtain ⟨hne, r, hr, hopen⟩ := h.isOpen hc
    exact ⟨hne, r, by rw [hf.tx _ (h.lock hc), hr], hopen⟩

/-- The entries of a transaction that exists do not change. -/
theorem Frame.getEntries {t : UUID} (ht : t ∈ db.txs) :
    getEntries db' t = getEntries db t := by
  obtain ⟨new, hnew, hfresh⟩ := hf.entries
  have hnone : new.filter (·.transactionID = t) = [] := by
    rw [List.filter_eq_nil_iff]
    intro e he heq
    exact hfresh e he (of_decide_eq_true heq ▸ ht)
  rw [Ledger.getEntries, Ledger.getEntries, hnew, List.filter_append, hnone, List.append_nil]

theorem Built.frame (h : Built E db s) (hres : Resolved db s) : Built E db' s := by
  obtain ⟨p, db₀, hreg, hbuilt, hsame⟩ := h.built
  refine ⟨h.touches, p, db₀, hreg, hbuilt, fun ht => ?_⟩
  rw [hsame ht, hf.getEntries (hres ht).1]

theorem Applied.frame {rows : List (UUID × ℤ)} (h : Applied E db L sid s rows) : Applied E db' L' sid s rows where
  lock a x hx := hf.locks _ (h.lock a x hx)
  delta a x hx := by
    have hb := hf.balances a (h.lock a x hx)
    obtain ⟨h1, h2, h3⟩ := h.delta a x hx
    exact ⟨h1, by rwa [hb], by rwa [hb]⟩
  find a := by
    rw [h.find a]
    cases hx : s.systemDeltas.lookup a with
    | none => rfl
    | some x => rw [hf.balances a (h.lock a x hx)]

theorem BalanceWrites.frame {user sys : List (UUID × ℤ)} (h : BalanceWrites E db L sid s user sys) :
    BalanceWrites E db' L' sid s user sys where
  writes := h.writes
  applied := h.applied.frame hf
  inserted := h.inserted
  none := h.none
  updated hr :=
    have hu := h.updated hr
    ⟨fun a x hx => hf.locks _ (hu.lock a x hx), hu.integral, hu.allowed, hu.find⟩

/-- **Nothing another session does breaks what this one knows.** -/
theorem SessionOK.frame (h : SessionOK E db L sid s) : SessionOK E db' L' sid s where
  resolved := h.resolved.frame hf
  empty := h.empty
  own hr := (h.own hr).frame hf
  unquoted := h.unquoted
  quoted h1 h2 := (h.quoted h1 h2).frame hf
  held hr := (h.held hr).frame hf
  checked hr := (h.checked hr).frame hf
  notClosed := h.notClosed
  closing hr := (h.closing hr).frame hf
  built hr := (h.built hr).frame hf h.resolved
  notApplied := h.notApplied
  applied hr := by
    obtain ⟨user, sys, hw⟩ := h.applied hr
    exact ⟨user, sys, hw.frame hf⟩
  notInserted := h.notInserted
  silent := h.silent
  events := h.events
  status := h.status
  failed := h.failed

end Frame

end Seev.Ledger
