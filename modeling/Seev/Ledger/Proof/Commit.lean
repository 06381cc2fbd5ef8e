import Seev.Ledger.Proof.Exec

/-!
# What a commit does to the committed state

The two update disciplines of one transaction agree: an absolute write computed from
a row locked before, and a delta added to a row that was only locked for the write,
both add the net effect of the entries to the committed balance.

* `commit_balances`: every balance moves by the net effect of the inserted entries.
* `Posts`: everything a posting does to the state, at the state it commits on.
* `Rejects`: everything a business rejection does.
* `commit_posts`, `commit_rejects`: a session at its commit does one or the other.
-/

namespace Seev.Ledger

open Lib

variable {E : Env} {sid : SessionID} {db : Db} {L : Locks LockKey SessionID} {s : Session} {a : UUID}
  {e : EntryInstruction}

/-! ## Which accounts the two disciplines write -/

theorem mem_systemIDs : a ∈ s.systemIDs ↔ a ∈ s.rc.accountIDs ∧
    ∃ ab, lookupBalance s.flags a = some ab ∧ ab.allowNegative = true := by
  unfold Session.systemIDs
  rw [List.mem_filter]
  cases lookupBalance s.flags a <;> simp

theorem mem_userIDs : a ∈ s.userIDs ↔ a ∈ s.rc.accountIDs ∧
    ∃ ab, lookupBalance s.flags a = some ab ∧ ab.allowNegative = false := by
  unfold Session.userIDs
  rw [List.mem_filter]
  cases lookupBalance s.flags a <;> simp

theorem not_mem_userIDs_of_system (h : a ∈ s.systemIDs) : a ∉ s.userIDs := by
  intro hu
  obtain ⟨-, ab, hab, hneg⟩ := mem_systemIDs.1 h
  obtain ⟨-, ab', hab', hneg'⟩ := mem_userIDs.1 hu
  rw [hab] at hab'
  cases hab'
  rw [hneg] at hneg'
  cases hneg'

theorem mem_accountIDs_of_user (h : a ∈ s.userIDs) : a ∈ s.rc.accountIDs :=
  (mem_userIDs.1 h).1

/-- A scan finds only what it was asked for. -/
theorem mem_of_lookupBalance {ids : List UUID} {ab : AccountBalance}
    (h : lookupBalance (getAccountFlags E db ids) a = some ab) : a ∈ ids := by
  have hmem := List.mem_of_find?_eq_some h
  obtain ⟨id, hid, hab⟩ := List.mem_filterMap.1 hmem
  have ha : ab.accountID = a := by simpa using List.find?_some h
  rw [accountBalance_id hab] at ha
  exact ha ▸ hid

/-- After the checks every account of the command is of one kind or the other. -/
theorem system_or_user (hc : Checked E db s) (hh : Held E db L sid s)
    (ha : a ∈ s.rc.accountIDs) : a ∈ s.systemIDs ∨ a ∈ s.userIDs := by
  by_cases hsys : a ∈ s.systemIDs
  · exact .inl hsys
  · obtain ⟨ab, hab, -⟩ := hc.accounts a ha
    obtain ⟨db₀, hscan⟩ := hh.scanned
    rw [Session.merged, if_neg hsys, hscan] at hab
    exact .inr (mem_of_lookupBalance hab)

/-! ## The two maps -/

theorem split_eq :
    s.split = (s.built.filter (·.accountID ∉ s.systemIDs), s.built.filter (·.accountID ∈ s.systemIDs)) := by
  unfold Session.split splitEntriesByAccount
  rw [List.partition_eq_filter_filter]
  simp [Function.comp_def]

theorem net_split_user (h : a ∉ s.systemIDs) :
    net (s.split.1.map EntryInstruction.posting) a = net (s.built.map EntryInstruction.posting) a := by
  rw [split_eq]
  refine net_filter _ _ fun e _ hea => ?_
  have hea : e.accountID = a := hea
  simpa [hea] using h

theorem net_split_system (h : a ∈ s.systemIDs) :
    net (s.split.2.map EntryInstruction.posting) a = net (s.built.map EntryInstruction.posting) a := by
  rw [split_eq]
  refine net_filter _ _ fun e _ hea => ?_
  have hea : e.accountID = a := hea
  simpa [hea] using h

theorem net_built_eq_zero (h : ∀ e ∈ s.built, e.accountID ≠ a) :
    net (s.built.map EntryInstruction.posting) a = 0 := by
  refine net_eq_zero fun p hp => ?_
  obtain ⟨e, he, rfl⟩ := List.mem_map.1 hp
  exact h e he

theorem mem_split_user :
    e ∈ s.split.1 ↔ e ∈ s.built ∧ e.accountID ∉ s.systemIDs := by
  simp [split_eq]

theorem mem_split_system :
    e ∈ s.split.2 ↔ e ∈ s.built ∧ e.accountID ∈ s.systemIDs := by
  simp [split_eq]

/-- A delta is the net effect of the entries, and there is one only for a system account. -/
theorem systemDeltas_lookup {x : Decimal} (h : s.systemDeltas.lookup a = some x) :
    a ∈ s.systemIDs ∧ x = net (s.built.map EntryInstruction.posting) a := by
  have hmem : a ∈ s.systemDeltas := AList.lookup_isSome.1 (by simp [h])
  rw [Session.systemDeltas, computeSystemDeltas, mem_foldl_applyEntry] at hmem
  rcases hmem with hmem | ⟨e, he, rfl⟩
  · exact absurd hmem (AList.notMem_empty a)
  have hsys := (mem_split_system.1 he).2
  refine ⟨hsys, ?_⟩
  have hnet := lookup_foldl_applyEntry s.split.2 ∅ e.accountID
  rw [Session.systemDeltas, computeSystemDeltas] at h
  rwa [h, net_split_system hsys, AList.lookup_empty, Option.getD_none, zero_add] at hnet

/-- Every system account with an entry has a delta. -/
theorem systemDeltas_isSome (he : e ∈ s.built) (hsys : e.accountID ∈ s.systemIDs) :
    (s.systemDeltas.lookup e.accountID).isSome := by
  rw [AList.lookup_isSome, Session.systemDeltas, computeSystemDeltas, mem_foldl_applyEntry]
  exact .inr ⟨e, mem_split_system.2 ⟨he, hsys⟩, rfl⟩

/-- An account of the user map is locked, and was scanned with its committed balance. -/
theorem userNewBalances_lookup (hh : Held E db L sid s) (hc : Checked E db s) (hb : Built E db s)
    {x : Decimal} (h : s.userNewBalances.lookup a = some x) :
    ∃ ab, a ∈ s.userIDs ∧ accountBalance E db a = some ab ∧
      x = ab.balance + net (s.built.map EntryInstruction.posting) a := by
  obtain ⟨db₀, hscan⟩ := hh.scanned
  have huser : a ∈ s.userIDs := by
    have hmem : a ∈ s.userNewBalances := AList.lookup_isSome.1 (by simp [h])
    rw [Session.userNewBalances, applyEntries, mem_foldl_applyEntry] at hmem
    rcases hmem with hmem | ⟨e, he, rfl⟩
    · -- an account of the scan
      rw [hscan, ← AList.lookup_isSome] at hmem
      have hlook := lookup_balanceMap E db₀ s.userIDs ∅ a
      by_contra hnot
      rw [if_neg hnot, AList.lookup_empty] at hlook
      rw [balanceMap] at hlook
      rw [hlook] at hmem
      cases hmem
    · -- an account of an entry
      obtain ⟨he, hsys⟩ := mem_split_user.1 he
      exact (system_or_user hc hh (hb.touches e he)).resolve_left hsys
  have hnsys : a ∉ s.systemIDs := fun hsys => not_mem_userIDs_of_system hsys huser
  obtain ⟨ab, hab, -⟩ := hc.accounts a (mem_accountIDs_of_user huser)
  rw [Session.merged, if_neg hnsys] at hab
  refine ⟨ab, huser, (hh.balances a huser).trans hab, ?_⟩
  have hval := lookup_applyEntries E db₀ s.userIDs s.split.1 a
  have hab₀ : accountBalance E db₀ a = some ab := by
    rwa [hscan, lookupBalance_getAccountFlags E db₀ huser] at hab
  rw [Session.userNewBalances, hscan] at h
  rw [h, if_pos huser, hab₀, net_split_user hnsys] at hval
  simpa using hval

/-- Every user account has a value. -/
theorem userNewBalances_isSome (hh : Held E db L sid s) (hc : Checked E db s)
    (huser : a ∈ s.userIDs) : (s.userNewBalances.lookup a).isSome := by
  obtain ⟨db₀, hscan⟩ := hh.scanned
  have hnsys : a ∉ s.systemIDs := fun hsys => not_mem_userIDs_of_system hsys huser
  obtain ⟨ab, hab, -⟩ := hc.accounts a (mem_accountIDs_of_user huser)
  rw [Session.merged, if_neg hnsys, hscan, lookupBalance_getAccountFlags E db₀ huser] at hab
  rw [AList.lookup_isSome, Session.userNewBalances, applyEntries, mem_foldl_applyEntry]
  refine .inl ?_
  have hlook := lookup_balanceMap E db₀ s.userIDs ∅ a
  rw [balanceMap, if_pos huser, hab] at hlook
  rw [hscan, ← AList.lookup_isSome, hlook]
  rfl

/-! ## Balances at the commit -/

theorem accountBalance_balance {ab : AccountBalance} (h : accountBalance E db a = some ab) :
    ∃ b, db.balances a = some b ∧ ab.balance = b := by
  simp only [accountBalance, Option.bind_eq_bind, Option.bind_eq_some_iff] at h
  obtain ⟨r, -, b, hb, hab⟩ := h
  cases hab
  exact ⟨b, hb, rfl⟩

/-- How a session at its commit writes one account. -/
inductive Written (E : Env) (db : Db) (L : Locks LockKey SessionID) (sid : SessionID) (s : Session)
    (a : UUID) : Prop
  /-- an absolute value, computed from the row it has held since the lock -/
  | user (x : Decimal) (b : ℤ) (held : L (.balance a) = some sid) (row : db.balances a = some b)
      (value : x = b + net (s.built.map EntryInstruction.posting) a)
      (lookup : s.userNewBalances.lookup a = some x) (noDelta : s.systemDeltas.lookup a = none)
      (after : (s.view db).balances a = some (Decimal.intPart x))
      (allowed : balanceAllowed E a (Decimal.intPart x) = true)
  /-- a delta, added to the row as it was at the write -/
  | system (x : Decimal) (b : ℤ) (held : L (.balance a) = some sid) (row : db.balances a = some b)
      (value : x = net (s.built.map EntryInstruction.posting) a)
      (after : (s.view db).balances a = some (b + Decimal.intPart x))
      (allowed : balanceAllowed E a (b + Decimal.intPart x) = true)
  | none (untouched : ∀ e ∈ s.built, e.accountID ≠ a) (after : (s.view db).balances a = db.balances a)

/-- The balance rows over the committed ones: a value of the user map, or a delta. -/
theorem BalanceWrites.view_balances {user sys : List (UUID × ℤ)} (hw : BalanceWrites E db L sid s user sys)
    (hrank : 11 ≤ s.phase.rank) (a : UUID) :
    (s.view db).balances a = (((s.userNewBalances.lookup a).map Decimal.intPart).or
        ((s.systemDeltas.lookup a).map fun x => (db.balances a).getD 0 + Decimal.intPart x)).or
          (db.balances a) := by
  rw [← (hw.updated hrank).find a, ← hw.applied.find a, ← Option.map_or, ← List.find?_append, ← hw.writes]
  rfl

/-- An account is not written both ways. -/
theorem systemDeltas_none (huser : a ∈ s.userIDs) : s.systemDeltas.lookup a = none := by
  cases hd : s.systemDeltas.lookup a with
  | none => rfl
  | some y => exact absurd huser (not_mem_userIDs_of_system (systemDeltas_lookup hd).1)

theorem written_of_commit (h : SessionOK E db L sid s) (hp : s.phase = .commit) (a : UUID) :
    Written E db L sid s a := by
  have hrank : s.phase.rank = 12 := by simp [hp, Phase.rank]
  have hheld := h.held (by omega)
  have hchecked := h.checked (by omega)
  have hbuilt := h.built (by omega)
  obtain ⟨user, sys, hw⟩ := h.applied (by omega)
  have hupd := hw.updated (by omega)
  have hview := hw.view_balances (by omega) a
  cases hux : s.userNewBalances.lookup a with
  | some x =>
    obtain ⟨ab, huser, hab, hx⟩ := userNewBalances_lookup hheld hchecked hbuilt hux
    obtain ⟨b, hb, hbal⟩ := accountBalance_balance hab
    exact .user x b (hupd.lock a x hux) hb (hbal ▸ hx) hux (systemDeltas_none huser)
      (by simp [hview, hux]) (hupd.allowed a x hux)
  | none =>
    cases hdx : s.systemDeltas.lookup a with
    | some x =>
      obtain ⟨-, hrow, hallowed⟩ := hw.applied.delta a x hdx
      obtain ⟨b, hb⟩ := Option.isSome_iff_exists.1 hrow
      rw [hb, Option.getD_some] at hallowed
      exact .system x b (hw.applied.lock a x hdx) hb (systemDeltas_lookup hdx).2
        (by simp [hview, hux, hdx, hb]) hallowed
    | none =>
      refine .none (fun e he hea => ?_) (by simp [hview, hux, hdx])
      subst hea
      rcases system_or_user hchecked hheld (hbuilt.touches e he) with hsys | huser
      · have := systemDeltas_isSome he hsys
        rw [hdx] at this
        cases this
      · have := userNewBalances_isSome hheld hchecked huser
        rw [hux] at this
        cases this

/-- **Every balance moves by the net effect of the inserted entries.** -/
theorem commit_balances (hdb : DbOK E db) (h : SessionOK E db L sid s) (hp : s.phase = .commit)
    (a : UUID) :
    (s.view db).balances a = (db.balances a).map (· + net (s.writes.entries.map LedgerEntry.posting) a) := by
  have hrank : s.phase.rank = 12 := by simp [hp, Phase.rank]
  obtain ⟨user, sys, hw⟩ := h.applied (by omega)
  obtain ⟨db₀, nb, hentries, hnb⟩ := hw.inserted (by omega)
  have hnet := hentries.net_entries a
  cases written_of_commit h hp a with
  | user x b _ hb hx hux hnone hafter _ =>
    rw [hafter, hb, Option.map_some]
    have hxint : x = ((b + net (s.writes.entries.map LedgerEntry.posting) a : ℤ) : ℚ) := by
      rw [hx, hnet, Int.cast_add]
    -- the insert has cast the new balance, so it did not overflow
    have hrange : Decimal.inInt64 (b + net (s.writes.entries.map LedgerEntry.posting) a) = true := by
      by_cases hex : ∃ e ∈ s.built, e.accountID = a
      · obtain ⟨e, he, hea⟩ := hex
        obtain ⟨r, -, hr⟩ := hentries.entry_mem he
        have hafter := hr.after
        have hfind : sys.find? (·.1 = a) = none := by
          have := hw.applied.find a
          rwa [hnone, Option.map_none, Option.map_eq_none_iff] at this
        rw [hea, hnb a, hfind, Option.map_none, Option.none_or, hux, Option.getD_some, hxint,
          Int.cast_inj] at hafter
        rw [hafter]
        exact hr.afterRange
      · have hzero := net_built_eq_zero fun e he hea => hex ⟨e, he, hea⟩
        rw [hnet, Int.cast_eq_zero] at hzero
        rw [hzero, add_zero]
        exact hdb.range a b hb
    rw [hxint, intPart_intCast hrange]
  | system x b _ hb hx hafter _ =>
    rw [hafter, hb, Option.map_some, hx, hnet, intPart_intCast (net_rows_bounds hentries a)]
  | none huntouched hafter =>
    have hzero := net_built_eq_zero huntouched
    rw [hnet, Int.cast_eq_zero] at hzero
    rw [hafter, hzero]
    simp

/-- **An inserted entry carries the balance its commit leaves.** -/
theorem commit_balanceAfter (h : SessionOK E db L sid s) (hp : s.phase = .commit) {r : LedgerEntry}
    (hr : r ∈ s.writes.entries) : (s.view db).balances r.accountID = some r.balanceAfter := by
  have hrank : s.phase.rank = 12 := by simp [hp, Phase.rank]
  have hheld := h.held (by omega)
  have hchecked := h.checked (by omega)
  have hbuilt := h.built (by omega)
  obtain ⟨user, sys, hw⟩ := h.applied (by omega)
  obtain ⟨db₀, nb, hentries, hnb⟩ := hw.inserted (by omega)
  obtain ⟨e, he, hrow⟩ := hentries.row_mem hr
  have hview := hw.view_balances (by omega) e.accountID
  have hfind := hw.applied.find e.accountID
  have hafter := hrow.after
  rw [hnb] at hafter
  rw [hrow.account]
  rcases system_or_user hchecked hheld (hbuilt.touches e he) with hsys | huser
  · -- the delta's statement returned the new balance
    obtain ⟨x, hx⟩ := Option.isSome_iff_exists.1 (systemDeltas_isSome he hsys)
    rw [hx, Option.map_some, Option.map_eq_some_iff] at hfind
    obtain ⟨row, hrowFind, hvalue⟩ := hfind
    rw [hrowFind, Option.map_some, Option.some_or, Option.getD_some, Int.cast_inj] at hafter
    have hux : s.userNewBalances.lookup e.accountID = none := by
      cases hux : s.userNewBalances.lookup e.accountID with
      | none => rfl
      | some y =>
        obtain ⟨-, huser, -⟩ := userNewBalances_lookup hheld hchecked hbuilt hux
        exact absurd huser (not_mem_userIDs_of_system hsys)
    rw [hview, hux, hx, Option.map_none, Option.none_or, Option.map_some, Option.some_or, ← hvalue, hafter]
  · -- the value of the user map was cast for the entry and for the row
    obtain ⟨x, hx⟩ := Option.isSome_iff_exists.1 (userNewBalances_isSome hheld hchecked huser)
    rw [systemDeltas_none huser, Option.map_none, Option.map_eq_none_iff] at hfind
    rw [hfind, Option.map_none, Option.none_or, hx, Option.getD_some] at hafter
    rw [hview, hx, Option.map_some, Option.some_or, Option.some_or, hafter, intPart_intCast hrow.afterRange]

/-- **A session holds the balance of every account it has inserted an entry for.** -/
theorem entries_locked (h : SessionOK E db L sid s) {r : LedgerEntry} (hr : r ∈ s.writes.entries) :
    L (.balance r.accountID) = some sid := by
  have hrank : 10 ≤ s.phase.rank := by
    by_contra hlt
    rw [h.notInserted (by omega)] at hr
    cases hr
  have hheld := h.held (by omega)
  obtain ⟨user, sys, hw⟩ := h.applied (by omega)
  obtain ⟨db₀, nb, hentries, -⟩ := hw.inserted hrank
  obtain ⟨e, he, hrow⟩ := hentries.row_mem hr
  rw [hrow.account]
  rcases system_or_user (h.checked (by omega)) hheld ((h.built (by omega)).touches e he) with hsys | huser
  · obtain ⟨x, hx⟩ := Option.isSome_iff_exists.1 (systemDeltas_isSome he hsys)
    exact hw.applied.lock _ x hx
  · exact hheld.lock _ huser

/-! ## The two kinds of commit -/

/-- What the transaction did to its fee quote. -/
inductive QuoteEffect (E : Env) (db : Db) (s : Session) (db' : Db) : Prop
  | none (unnamed : s.rc.quoteID = "") (same : db'.quotes = db.quotes)
  | consumed (quoteID : UUID) (q : FeeQuote) (now : ℕ) (named : s.rc.quoteID ≠ "")
      (parsed : E.text.parseUUID s.rc.quoteID = .ok quoteID) (row : db.quotes quoteID = some q)
      (fresh : q.consumedAt = Option.none ∨ q.consumedBy = some (.tx s.txID))
      (after : db'.quotes = Function.update db.quotes quoteID (some (q.consume now (.tx s.txID))))

theorem Quoted.effect (h : Quoted E db L sid s) : QuoteEffect E db s (s.view db) := by
  cases h with
  | none hid hw => exact .none hid (by funext id; simp [Session.view, Writes.apply, hw])
  | consumed quoteID q now hid hparse _ hrow hfresh hw =>
    refine .consumed quoteID q now hid hparse hrow hfresh ?_
    funext id
    simp [Session.view, Writes.apply, hw, Function.update_apply]

/-- **Everything a posting does**, at the state `db` it commits on. -/
structure Posts (E : Env) (db : Db) (s : Session) (db' : Db) : Prop where
  fresh : s.txID ∉ db.txs
  header : ∃ h, db'.txs.lookup s.txID = some h ∧ h.status = .posted ∧ HeaderOf s.rc h
  /-- the original was open and is now closed -/
  closes : ∀ reason, lifecycleCloseReason s.rc.type = some reason → s.rc.referenceID ≠ s.txID ∧
    ∃ r, db.txs.lookup s.rc.referenceID = some r ∧ r.closedByTxID = none ∧
      db'.txs.lookup s.rc.referenceID = some (r.close s.txID reason)
  /-- no other header changes -/
  others : ∀ t, t ≠ s.txID → ((lifecycleCloseReason s.rc.type).isSome → t ≠ s.rc.referenceID) →
    db'.txs.lookup t = db.txs.lookup t
  checked : Checked E db s
  built : Built E db s
  entries : db'.entries = db.entries ++ s.writes.entries
  rows : ∃ db₀ nb, EntriesOK E db₀ s.rc.currency s.txID s.built nb s.writes.entries
  balances : ∀ a, db'.balances a =
    (db.balances a).map (· + net (s.writes.entries.map LedgerEntry.posting) a)
  /-- every account with an entry has a balance -/
  rowed : ∀ e ∈ s.built, (db.balances e.accountID).isSome
  allowed : ∀ a, db'.balances a = db.balances a ∨
    ∃ b, db'.balances a = some b ∧ balanceAllowed E a b = true
  outbox : ∃ p, registry E s.rc.type = .ok p ∧
    db'.outbox = db.outbox ++ p.outboxEvents s.rc s.txID s.built
  quote : QuoteEffect E db s db'

/-- **Everything a business rejection does.** -/
structure Rejects (E : Env) (db : Db) (s : Session) (db' : Db) : Prop where
  fresh : s.txID ∉ db.txs
  header : ∃ h, db'.txs = db.txs.insert s.txID h ∧ h.status = .failed ∧ HeaderOf s.rc h
  balances : db'.balances = db.balances
  entries : db'.entries = db.entries
  outbox : db'.outbox = db.outbox
  quote : QuoteEffect E db s db'

theorem view_txs {h : TxRow} (hh : s.writes.header = some h) :
    (s.view db).txs = (s.writes.closeIn s.txID db.txs).insert s.txID h := by
  simp only [Session.view, Writes.apply, hh]

theorem lookup_closeIn (t : UUID) : (s.writes.closeIn s.txID db.txs).lookup t =
    (match s.writes.closed with
      | some (ref, reason) => if t = ref then (db.txs.lookup t).map (·.close s.txID reason)
          else db.txs.lookup t
      | none => db.txs.lookup t) := by
  unfold Writes.closeIn
  rcases s.writes.closed with _ | ⟨ref, reason⟩
  · rfl
  dsimp only
  by_cases ht : t = ref
  · subst ht
    cases hr : db.txs.lookup t with
    | none => simp [hr]
    | some r => simp [AList.lookup_insert]
  · cases hr : db.txs.lookup ref with
    | none => simp [ht]
    | some r => simp [ht, AList.lookup_insert_ne ht]

theorem commit_posts (hdb : DbOK E db) (h : SessionOK E db L sid s) (hp : s.phase = .commit) :
    Posts E db s (s.view db) := by
  have hrank : s.phase.rank = 12 := by simp [hp, Phase.rank]
  obtain ⟨hfresh, -, hd, hhd, hof⟩ := h.own (by omega)
  have hclosing := h.closing (by omega)
  obtain ⟨user, sys, hw⟩ := h.applied (by omega)
  obtain ⟨db₀, nb, hentries, -⟩ := hw.inserted (by omega)
  obtain ⟨p, hreg, hev⟩ := h.events hp
  have hstatus : hd.status = .posted := by
    have := h.status.2 hp
    simpa [hhd] using this
  exact {
    fresh := hfresh
    header := ⟨hd, by rw [view_txs hhd, AList.lookup_insert], hstatus, hof⟩
    closes := fun reason hreason => by
      obtain ⟨hne, r, hr, hopen⟩ := hclosing.isOpen (by simp [hreason])
      refine ⟨hne, r, hr, hopen, ?_⟩
      rw [view_txs hhd, AList.lookup_insert_ne hne, lookup_closeIn, hclosing.closed, hreason]
      simp [hr]
    others := fun t hne href => by
      rw [view_txs hhd, AList.lookup_insert_ne hne, lookup_closeIn, hclosing.closed]
      cases hreason : lifecycleCloseReason s.rc.type with
      | none => rfl
      | some reason => simp [href (by simp [hreason])]
    checked := h.checked (by omega)
    built := h.built (by omega)
    entries := rfl
    rows := ⟨db₀, nb, hentries⟩
    balances := commit_balances hdb h hp
    rowed := fun e he => by
      cases written_of_commit h hp e.accountID with
      | user _ _ _ hb => simp [hb]
      | system _ _ _ hb => simp [hb]
      | none huntouched => exact absurd rfl (huntouched e he)
    allowed := fun a => by
      cases written_of_commit h hp a with
      | user x b _ _ _ _ _ hafter hallowed => exact .inr ⟨_, hafter, hallowed⟩
      | system x b _ _ _ hafter hallowed => exact .inr ⟨_, hafter, hallowed⟩
      | none _ hafter => exact .inl hafter
    outbox := ⟨p, hreg, by simp [Session.view, Writes.apply, hev]⟩
    quote := (h.quoted (by simp [hp]) (by simp [hp])).effect }

theorem commit_rejects (h : SessionOK E db L sid s) (hp : s.phase = .commitFailed) :
    Rejects E db s (s.view db) := by
  have hrank : s.phase.rank = 1 := by simp [hp, Phase.rank]
  obtain ⟨hfresh, -, hd, hhd, hof⟩ := h.own (by omega)
  have hstatus : hd.status = .failed := by
    have := h.failed hp
    simpa [hhd] using this
  have hclosed : s.writes.closeIn s.txID db.txs = db.txs := by
    simp [Writes.closeIn, h.notClosed (by omega)]
  exact {
    fresh := hfresh
    header := ⟨hd, by rw [view_txs hhd, hclosed], hstatus, hof⟩
    balances := view_balances (h.notApplied (by omega))
    entries := by simp [Session.view, Writes.apply, h.notInserted (by omega)]
    outbox := by simp [Session.view, Writes.apply, h.silent (by omega)]
    quote := (h.quoted (by simp [hp]) (by simp [hp])).effect }

end Seev.Ledger
