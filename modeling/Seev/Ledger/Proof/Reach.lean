import Seev.Ledger.Proof.Commit
import Seev.Ledger.Proof.Step

/-!
# Every reachable world

Sessions run against each other through the committed state and the row locks only,
so what each of them knows survives every step of the others.

* `step_ok`, `run_ok`: in every reachable world every session knows what `SessionOK`
  says.
* `step_effect`: one event leaves the committed state alone, posts one transaction or
  records one rejection. Everything about the committed state is derived from this.
-/

namespace Seev.Ledger

open Lib

variable {E : Env} {rc : ResolvedCommand}

/-! ## The other sessions at a commit -/

section Commit

variable {sid sid' : SessionID} {db db' : Db} {L : Locks LockKey SessionID} {s : Session}

theorem RowLater.close {r : TxRow} (txID : UUID) (reason : CloseReason) : RowLater r (r.close txID reason) :=
  ⟨rfl, rfl, rfl, rfl, rfl, .inl rfl⟩

/-- A header keeps its columns; only this posting's original is closed. -/
theorem Posts.lookup_later (h : Posts E db s db') {t : UUID} {r : TxRow} (hr : db.txs.lookup t = some r) :
    ∃ r', db'.txs.lookup t = some r' ∧ RowLater r r' := by
  have htx : t ≠ s.txID := fun heq => h.fresh (heq ▸ AList.lookup_isSome.1 (by simp [hr]))
  by_cases href : (lifecycleCloseReason s.rc.type).isSome ∧ t = s.rc.referenceID
  · obtain ⟨hcl, rfl⟩ := href
    obtain ⟨reason, hreason⟩ := Option.isSome_iff_exists.1 hcl
    obtain ⟨-, r', hr', -, hafter⟩ := h.closes reason hreason
    rw [hr] at hr'
    cases hr'
    exact ⟨_, hafter, .close _ _⟩
  · exact ⟨r, by rw [h.others t htx fun hcl heq => href ⟨hcl, heq⟩, hr], .refl r⟩

/-- A session writes only a quote it holds. -/
theorem Quoted.view_quotes (h : Quoted E db L sid s) {q : UUID} (hq : L (.quote q) ≠ some sid) :
    (s.view db).quotes q = db.quotes q := by
  cases h with
  | none _ hw => simp [Session.view, Writes.apply, hw]
  | consumed quoteID _ _ _ _ hheld _ _ hw =>
    have hne : q ≠ quoteID := fun heq => hq (heq ▸ hheld)
    simp [Session.view, Writes.apply, hw, hne]

/-- A posting leaves alone what the others hold. -/
theorem posts_frame (hdb : DbOK E db) (h : SessionOK E db L sid s) (hp : s.phase = .commit)
    (hne : sid' ≠ sid) : Frame sid' db L (s.view db) (L.release sid) := by
  have hposts := commit_posts hdb h hp
  have hrank : s.phase.rank = 12 := by simp [hp, Phase.rank]
  have hown := h.own (by omega)
  have hclosing := h.closing (by omega)
  -- two holders of one row would be one session
  have hother : ∀ k, L k = some sid' → L k ≠ some sid := fun k hk hk' => hne (Locks.holder_unique hk hk')
  exact {
    locks := fun k hk => Locks.release_other hne hk
    balances := fun a ha => by
      cases written_of_commit h hp a with
      | user _ _ hheld => exact absurd hheld (hother _ ha)
      | system _ _ hheld => exact absurd hheld (hother _ ha)
      | none _ hafter => exact hafter
    tx := fun t ht => by
      refine hposts.others t (fun heq => ?_) fun hcl heq => ?_
      · exact hother _ ht (heq ▸ hown.lock)
      · exact hother _ ht (heq ▸ hclosing.lock hcl)
    later := fun t r hr => hposts.lookup_later hr
    quotes := fun q hq => (h.quoted (by simp [hp]) (by simp [hp])).view_quotes (hother _ hq)
    entries := by
      obtain ⟨db₀, nb, hrows⟩ := hposts.rows
      refine ⟨s.writes.entries, rfl, fun e he => ?_⟩
      rw [hrows.tx_eq he]
      exact hown.fresh }

/-- So does a rejection. -/
theorem rejects_frame (h : SessionOK E db L sid s) (hp : s.phase = .commitFailed) (hne : sid' ≠ sid) :
    Frame sid' db L (s.view db) (L.release sid) := by
  have hrejects := commit_rejects h hp
  have hrank : s.phase.rank = 1 := by simp [hp, Phase.rank]
  have hown := h.own (by omega)
  have hother : ∀ k, L k = some sid' → L k ≠ some sid := fun k hk hk' => hne (Locks.holder_unique hk hk')
  obtain ⟨hd, htxs, -, -⟩ := hrejects.header
  exact {
    locks := fun k hk => Locks.release_other hne hk
    balances := fun a _ => by rw [hrejects.balances]
    tx := fun t ht => by
      have htx : t ≠ s.txID := fun heq => hother _ ht (heq ▸ hown.lock)
      rw [htxs, AList.lookup_insert_ne htx]
    later := fun t r hr => by
      have htx : t ≠ s.txID := fun heq => hown.fresh (heq ▸ AList.lookup_isSome.1 (by simp [hr]))
      exact ⟨r, by rw [htxs, AList.lookup_insert_ne htx, hr], .refl r⟩
    quotes := fun q hq => (h.quoted (by simp [hp]) (by simp [hp])).view_quotes (hother _ hq)
    entries := ⟨[], by rw [hrejects.entries, List.append_nil], by simp⟩ }

/-- Taking free rows disturbs nobody, nor does giving rows back. -/
theorem locks_frame {L' : Locks LockKey SessionID} (hl : ∀ k, L k = some sid → L' k = some sid) :
    Frame sid db L db L' where
  locks := hl
  balances _ _ := rfl
  tx _ _ := rfl
  later _ h hh := ⟨h, hh, .refl h⟩
  quotes _ _ := rfl
  entries := ⟨[], by simp, by simp⟩

theorem Posts.mem_txs (h : Posts E db s db') {t : UUID} (ht : t ∈ db.txs) : t ∈ db'.txs := by
  obtain ⟨r, hr⟩ := Option.isSome_iff_exists.1 (AList.lookup_isSome.2 ht)
  obtain ⟨r', hr', -⟩ := h.lookup_later hr
  exact AList.lookup_isSome.1 (by simp [hr'])

/-- Every account's balance moves by the net effect, an account without a row by nothing. -/
theorem Posts.balance (h : Posts E db s db') (a : UUID) : (db'.balances a).getD 0 =
    (db.balances a).getD 0 + net (s.writes.entries.map LedgerEntry.posting) a := by
  rw [h.balances a]
  cases hx : db.balances a with
  | some x => rfl
  | none =>
    -- no entry is on an account without a balance
    obtain ⟨db₀, nb, hrows⟩ := h.rows
    have hzero : net (s.writes.entries.map LedgerEntry.posting) a = 0 := by
      refine net_eq_zero fun p hp hpa => ?_
      obtain ⟨r, hr, rfl⟩ := List.mem_map.1 hp
      obtain ⟨e, he, hrow⟩ := hrows.row_mem hr
      have hrowed := h.rowed e he
      have hea : e.accountID = a := hrow.account.symm.trans hpa
      rw [hea, hx] at hrowed
      cases hrowed
    rw [hzero]
    rfl

theorem Posts.dbOK (hdb : DbOK E db) (h : Posts E db s db') : DbOK E db' where
  owned e he := by
    rw [h.entries, List.mem_append] at he
    rcases he with he | he
    · exact h.mem_txs (hdb.owned e he)
    · obtain ⟨db₀, nb, hrows⟩ := h.rows
      obtain ⟨hd, hhd, -⟩ := h.header
      rw [hrows.tx_eq he]
      exact AList.lookup_isSome.1 (by simp [hhd])
  range a b hb := by
    rcases h.allowed a with hsame | ⟨b', hb', hallowed⟩
    · exact hdb.range a b (hsame ▸ hb)
    · rw [hb'] at hb
      cases hb
      exact (Bool.and_eq_true _ _ ▸ hallowed).1

theorem Rejects.dbOK (hdb : DbOK E db) (h : Rejects E db s db') : DbOK E db' where
  owned e he := by
    rw [h.entries] at he
    obtain ⟨hd, htxs, -, -⟩ := h.header
    rw [htxs, AList.mem_insert]
    exact .inr (hdb.owned e he)
  range a b hb := hdb.range a b (h.balances ▸ hb)

end Commit

/-! ## A new session -/

theorem mem_deduplicate {seen ids : List UUID} {a : UUID} :
    a ∈ deduplicate seen ids ↔ a ∈ ids ∧ a ∉ seen := by
  induction ids generalizing seen with
  | nil => simp [deduplicate]
  | cons id ids ih =>
    rw [deduplicate]
    by_cases hid : id ∈ seen
    · rw [if_pos hid, ih, List.mem_cons]
      constructor
      · rintro ⟨h1, h2⟩
        exact ⟨.inr h1, h2⟩
      · rintro ⟨rfl | h1, h2⟩
        · exact absurd hid h2
        · exact ⟨h1, h2⟩
    · rw [if_neg hid, List.mem_cons, ih, List.mem_cons, List.mem_cons]
      by_cases ha : a = id
      · simp [ha, hid]
      · simp [ha]

/-- What `Handle` knows of a command when it opens the transaction. `metadata` may
have the fee of a quote in it. -/
structure Prepared (E : Env) (db : Db) (cmd : Command) (rc : ResolvedCommand) : Prop where
  checked : checkCommand E cmd = .ok ()
  resolved : ∃ p m acc c, registry E cmd.type = .ok p ∧ (cmd.quoteID = "" → m = cmd.metadata) ∧
    p.validateCommand { cmd with metadata := m } = .ok () ∧
    p.resolveAccounts db { cmd with metadata := m } = .ok (acc, c) ∧
    rc = { cmd with
      metadata := m, currency := trimSpace c, accountIDs := deduplicate [] acc.ordered
      source := acc.source, destination := acc.destination }

theorem peekQuote_eq (E : Env) (db : Db) (now : ℕ) (cmd : Command) :
    ∃ m, peekQuote E db now cmd = { cmd with metadata := m } ∧ (cmd.quoteID = "" → m = cmd.metadata) := by
  unfold peekQuote
  split
  · rename_i hquote
    split
    · exact ⟨cmd.metadata, rfl, fun _ => rfl⟩
    · split
      · exact ⟨cmd.metadata, rfl, fun _ => rfl⟩
      · exact ⟨_, rfl, fun hnone => absurd hnone hquote.1⟩
  · exact ⟨cmd.metadata, rfl, fun _ => rfl⟩

theorem prepare_ok {db : Db} {now : ℕ} {cmd : Command} (h : prepare E db now cmd = .ok rc) :
    Prepared E db cmd rc := by
  unfold prepare at h
  obtain ⟨_, hcheck, h⟩ := bind_eq_ok.1 h
  obtain ⟨p, hreg, h⟩ := bind_eq_ok.1 h
  obtain ⟨m, hm, hmeta⟩ := peekQuote_eq E db now cmd
  simp only [hm] at h
  obtain ⟨_, hval, h⟩ := bind_eq_ok.1 h
  obtain ⟨⟨acc, c⟩, hacc, h⟩ := bind_eq_ok.1 h
  obtain ⟨-, h⟩ := guard_eq_ok.1 h
  obtain ⟨-, h⟩ := guard_eq_ok.1 h
  obtain ⟨-, h⟩ := guard_eq_ok.1 h
  cases h
  exact ⟨hcheck, p, m, acc, c, hreg, hmeta, inContext_eq_ok.1 hval, inContext_eq_ok.1 hacc, rfl⟩

/-- A reversal takes its accounts from the entries of its original. -/
theorem Prepared.resolved_session {db : Db} {cmd : Command} (hdb : DbOK E db)
    (h : Prepared E db cmd rc) (attempt : ℕ) (txID : UUID) : Resolved db (.start rc attempt txID) := by
  obtain ⟨p, m, acc, c, hreg, -, -, hacc, rfl⟩ := h.resolved
  intro ht
  simp only [Session.start] at ht ⊢
  rw [ht] at hreg
  cases hreg
  simp only [reversal] at hacc
  obtain ⟨-, hacc⟩ := guard_eq_ok.1 hacc
  split at hacc
  · cases hacc
  rename_i a rest hids
  obtain ⟨c', -, hacc⟩ := bind_eq_ok.1 hacc
  cases hacc
  have hmem : ∀ {b}, b ∈ a :: rest ↔ ∃ e ∈ db.entries, e.transactionID = cmd.referenceID ∧ e.accountID = b := by
    intro b
    rw [← hids, getAccountIDs, List.mem_dedup]
    simp [and_assoc]
  obtain ⟨e, he, htx, -⟩ := hmem.1 List.mem_cons_self
  refine ⟨htx ▸ hdb.owned e he, fun e he htx => ?_⟩
  rw [mem_deduplicate]
  exact ⟨hmem.2 ⟨e, he, htx, rfl⟩, by simp⟩

theorem start_ok {db : Db} {L : Locks LockKey SessionID} {sid : SessionID}
    {attempt : ℕ} {txID : UUID} (h : Resolved db (.start rc attempt txID)) :
    SessionOK E db L sid (.start rc attempt txID) where
  resolved := h
  empty _ := rfl
  own h := by simp [Session.start, Phase.rank] at h
  unquoted _ := rfl
  quoted h := by simp [Session.start] at h
  held h := by simp [Session.start, Phase.rank] at h
  checked h := by simp [Session.start, Phase.rank] at h
  notClosed _ := rfl
  closing h := by simp [Session.start, Phase.rank] at h
  built h := by simp [Session.start, Phase.rank] at h
  notApplied _ := rfl
  applied h := by simp [Session.start, Phase.rank] at h
  notInserted _ := rfl
  silent _ := rfl
  events h := by simp [Session.start] at h
  status := by simp [Session.start, Writes.empty]
  failed h := by simp [Session.start] at h

/-! ## Worlds -/

/-- **The invariant**: the committed state is sound and every session knows what it
should. -/
structure WorldOK (E : Env) (w : World) : Prop where
  db : DbOK E w.db
  sessions : ∀ sid s, w.sessions sid = some s → SessionOK E w.db w.locks sid s

theorem idle_ok {db : Db} {now : ℕ} (h : DbOK E db) : WorldOK E (.idle db now) :=
  ⟨h, fun _ _ hs => by cases hs⟩

/-- What one event does to the committed state. -/
inductive Effect (E : Env) (w : World) (ev : Event) (w' : World) : Prop
  /-- nothing: a start, a wait, a statement, a rollback, time -/
  | quiet (db : w'.db = w.db) (posted : w'.posted = w.posted)
  /-- one session commits with status `posted` -/
  | posts (sid : SessionID) (s : Session) (session : w.sessions sid = some s) (phase : s.phase = .commit)
      (effect : Posts E w.db s w'.db) (posted : w'.posted = w.posted ++ [(s.txID, s.rc)])
      (sessions : w'.sessions = Function.update w.sessions sid none) (event : ev = .advance sid)
  /-- one session commits with status `failed` -/
  | rejects (sid : SessionID) (s : Session) (session : w.sessions sid = some s)
      (phase : s.phase = .commitFailed) (effect : Rejects E w.db s w'.db) (posted : w'.posted = w.posted)
      (sessions : w'.sessions = Function.update w.sessions sid none)

variable {w w' : World} {sid : SessionID} {s : Session} {ev : Event}

theorem commit_effect (h : WorldOK E w) (hs : w.sessions sid = some s)
    (hp : s.phase = .commit ∨ s.phase = .commitFailed) :
    WorldOK E (w.commit sid s) ∧ Effect E w (.advance sid) (w.commit sid s) := by
  have hok := h.sessions sid s hs
  have hothers : ∀ sid' s', (w.commit sid s).sessions sid' = some s' →
      sid' ≠ sid ∧ w.sessions sid' = some s' := fun sid' s' hs' =>
    ⟨(endSession_sessions hs').1, (endSession_sessions hs').2.1⟩
  rcases hp with hp | hp
  · have hposts := commit_posts h.db hok hp
    refine ⟨⟨hposts.dbOK h.db, fun sid' s' hs' => ?_⟩, .posts sid s hs hp hposts ?_ rfl rfl⟩
    · obtain ⟨hne, hs'⟩ := hothers sid' s' hs'
      exact (h.sessions sid' s' hs').frame (posts_frame h.db hok hp hne)
    · simp only [World.commit, if_pos (hok.status.2 hp)]
  · have hrejects := commit_rejects hok hp
    refine ⟨⟨hrejects.dbOK h.db, fun sid' s' hs' => ?_⟩, .rejects sid s hs hp hrejects ?_ rfl⟩
    · obtain ⟨hne, hs'⟩ := hothers sid' s' hs'
      exact (h.sessions sid' s' hs').frame (rejects_frame hok hp hne)
    · have hnot := hok.notPosted (by simp [hp])
      simp only [World.commit, hnot]
      rfl

theorem step_ok_effect (h : WorldOK E w) (ev : Event) :
    WorldOK E (w.step E ev) ∧ Effect E w ev (w.step E ev) := by
  cases step_move E w ev with
  | resumes hdb hposted hsessions =>
    refine ⟨⟨hdb ▸ h.db, fun sid s' hs' => ?_⟩, .quiet hdb hposted⟩
    rw [hdb]
    cases hsessions sid s' hs' with
    | untouched hs hl => exact (h.sessions sid s' hs).frame (locks_frame hl)
    | accepted txID cmd rc _ _ hprep hstart =>
      rw [hstart]
      exact start_ok ((prepare_ok hprep).resolved_session h.db 0 txID)
    | retried s txID hs hstart =>
      -- the command was resolved before the first attempt
      rw [hstart]
      exact start_ok (h.sessions sid s hs).resolved
    | statement s hs _ hexec hl =>
      rw [hl]
      exact exec_ok (h.sessions sid s hs) hexec
  | commits sid s hs hp hev hw =>
    rw [hw, hev]
    exact commit_effect h hs hp

/-- **One event keeps the invariant.** -/
theorem step_ok (h : WorldOK E w) (ev : Event) : WorldOK E (w.step E ev) := (step_ok_effect h ev).1

/-- **One event does nothing, posts one transaction or records one rejection.** -/
theorem step_effect (h : WorldOK E w) (ev : Event) : Effect E w ev (w.step E ev) := (step_ok_effect h ev).2

theorem run_ok (h : WorldOK E w) (evs : List Event) : WorldOK E (run (World.step E) w evs) :=
  run_inv (I := WorldOK E) (fun _ ev hw => step_ok hw ev) h evs

end Seev.Ledger
