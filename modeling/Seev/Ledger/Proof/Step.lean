import Seev.Ledger.Proof.Exec

/-!
# What one event does

Inversion of `World.step`, in any world.

* `exec_executes`: what one statement does, phase by phase; `exec_continues`: what it leaves
  as it was.
* `step_move`: the committed state stays while sessions go on, start, start again or end,
  or one session commits.
* `step_sessions`: where the command of a session comes from.
-/

namespace Seev.Ledger

open Lib

variable {E : Env} {w w' : World} {sid : SessionID} {s s' : Session} {ev : Event} {db : Db} {now : ℕ}

/-! ## The command of a session -/

/-- The same command, perhaps with the fee of its quote in the metadata. -/
def SameRequest (rc rc' : ResolvedCommand) : Prop :=
  ∃ m, rc' = { rc with metadata := m } ∧ (rc.quoteID = "" → m = rc.metadata)

theorem SameRequest.refl (rc : ResolvedCommand) : SameRequest rc rc := ⟨rc.metadata, rfl, fun _ => rfl⟩

theorem SameRequest.trans {a b c : ResolvedCommand} (h : SameRequest a b) (h' : SameRequest b c) :
    SameRequest a c := by
  obtain ⟨m, rfl, hm⟩ := h
  obtain ⟨m', rfl, hm'⟩ := h'
  exact ⟨m', rfl, fun hq => (hm' hq).trans (hm hq)⟩

/-- The idempotency columns of a header. -/
structure SameIdem (h h' : TxRow) : Prop where
  key : h'.idempotencyKey = h.idempotencyKey
  scope : h'.idempotencyScope = h.idempotencyScope
  digest : h'.idempotencyKeyDigest = h.idempotencyKeyDigest
  version : h'.idempotencyKeyVersion = h.idempotencyKeyVersion
  fingerprint : h'.conflictFingerprint = h.conflictFingerprint

theorem SameIdem.refl (h : TxRow) : SameIdem h h := ⟨rfl, rfl, rfl, rfl, rfl⟩

/-- What one statement leaves as it was: the request, the id and, once the header is
inserted, its idempotency columns. Only the quote's statement touches the command. -/
structure Continues (s s' : Session) : Prop where
  request : SameRequest s.rc s'.rc
  txID : s'.txID = s.txID
  header : s.phase ≠ .insert → ∀ h', s'.writes.header = some h' → ∃ h, s.writes.header = some h ∧ SameIdem h h'
  command : s.phase ≠ .quote → s'.rc = s.rc

theorem Continues.of_eq
    (h : s'.rc = s.rc ∧ s'.txID = s.txID ∧ s'.writes.header = s.writes.header) : Continues s s' :=
  ⟨h.1 ▸ .refl _, h.2.1, fun _ h' hh' => ⟨h', h.2.2 ▸ hh', .refl h'⟩, fun _ => h.1⟩

/-- A change of status and message. -/
theorem Continues.of_status {st : TxStatus} {msg : Option String}
    (h : s'.rc = s.rc ∧ s'.txID = s.txID ∧
      s'.writes.header = s.writes.header.map fun h => { h with status := st, errorMessage := msg }) :
    Continues s s' := by
  refine ⟨h.1 ▸ .refl _, h.2.1, fun _ h' hh' => ?_, fun _ => h.1⟩
  rw [h.2.2, Option.map_eq_some_iff] at hh'
  obtain ⟨h₀, hh₀, rfl⟩ := hh'
  exact ⟨h₀, hh₀, ⟨rfl, rfl, rfl, rfl, rfl⟩⟩

/-! ## One statement -/

/-- **What one statement does**, phase by phase. A check that rejects leaves the header
only. -/
inductive Executes (E : Env) (now : ℕ) (db : Db) (s : Session) : Session → Prop
  | insert (row : TxRow) (phase : s.phase = .insert) (inserted : insertHeader E db s.rc s.txID = .ok row) :
      Executes E now db s { s with phase := .quote, writes := { s.writes with header := some row } }
  | unquoted (phase : s.phase = .quote) (unnamed : s.rc.quoteID = "") :
      Executes E now db s { s with phase := .preLock }
  | quoted (quoteID : UUID) (q : FeeQuote) (phase : s.phase = .quote) (named : s.rc.quoteID ≠ "") :
      Executes E now db s { s with
        phase := .preLock, rc := { s.rc with metadata := s.rc.metadata.withFee E q }
        writes := { s.writes with quote := some (quoteID, q) } }
  | preLock (p : TxProcessor) (phase : s.phase = .preLock) (registered : registry E s.rc.type = .ok p)
      (hook : ∀ f, p.validateBeforeBalanceLocks = some f → ∃ id, f (s.view db) s.rc = .ok id) :
      Executes E now db s { s with phase := .flags }
  | flags (phase : s.phase = .flags) :
      Executes E now db s { s with phase := .lock, flags := getAccountFlags E (s.view db) s.rc.accountIDs }
  | lock (phase : s.phase = .lock) :
      Executes E now db s { s with phase := .validate, userBalances := getAccountFlags E (s.view db) s.userIDs }
  | validate (phase : s.phase = .validate) : Executes E now db s { s with phase := .close }
  | keep (phase : s.phase = .close) : Executes E now db s { s with phase := .build }
  | close (reason : CloseReason) (phase : s.phase = .close) :
      Executes E now db s { s with
        phase := .build, writes := { s.writes with closed := some (s.rc.referenceID, reason) } }
  | build (es : List EntryInstruction) (phase : s.phase = .build) :
      Executes E now db s { s with phase := .deltas, built := es }
  | deltas (rows : List (UUID × ℤ)) (phase : s.phase = .deltas) :
      Executes E now db s { s with phase := .entries, writes := { s.writes with balances := rows } }
  | entries (rows : List LedgerEntry) (phase : s.phase = .entries)
      (inserted : insertEntries E (s.view db) s.rc.currency s.txID s.built s.allNewBalances = .ok rows) :
      Executes E now db s { s with phase := .update, writes := { s.writes with entries := rows } }
  | update (rows : List (UUID × ℤ)) (phase : s.phase = .update) :
      Executes E now db s { s with
        phase := .finish, writes := { s.writes with balances := rows ++ s.writes.balances } }
  | finish (p : TxProcessor) (phase : s.phase = .finish) :
      Executes E now db s { s with
        phase := .commit
        writes := { s.writes with
          header := s.writes.header.map fun h => { h with status := .posted, errorMessage := none }
          events := p.outboxEvents s.rc s.txID s.built } }
  | reject (msg : Option String) (phase : s.phase = .preLock ∨ s.phase = .validate ∨ s.phase = .close) :
      Executes E now db s { s with
        phase := .commitFailed
        writes := { s.writes with
          header := s.writes.header.map fun h => { h with status := .failed, errorMessage := msg } } }
  | done (phase : s.phase = .commit ∨ s.phase = .commitFailed) : Executes E now db s s

theorem markFailed_executes {ctx : String} {e : Err}
    (hp : s.phase = .preLock ∨ s.phase = .validate ∨ s.phase = .close) (h : s.markFailed ctx e = .ok s') :
    Executes E now db s s' := by
  unfold Session.markFailed at h
  split at h
  · cases h
  · cases h
    exact .reject _ hp

theorem quoteStep_executes (hp : s.phase = .quote) (h : s.quoteStep E now db = .ok s') :
    Executes E now db s s' := by
  unfold Session.quoteStep at h
  obtain ⟨q, hq, h⟩ := bind_eq_ok.1 h
  rcases consumeFeeQuote_ok hq with ⟨hid, rfl⟩ | ⟨quoteID, _, hid, -, -, -, rfl⟩
  · obtain ⟨-, -, h⟩ := bind_eq_ok.1 h
    cases h
    exact .unquoted hp hid
  · obtain ⟨-, -, h⟩ := bind_eq_ok.1 h
    cases h
    exact .quoted quoteID _ hp hid

theorem preLockStep_executes {p : TxProcessor} (hp : s.phase = .preLock)
    (hreg : registry E s.rc.type = .ok p) (h : s.preLockStep db p = .ok s') : Executes E now db s s' := by
  unfold Session.preLockStep at h
  split at h
  · rename_i hnone
    cases h
    exact .preLock p hp hreg fun f hf => by rw [hnone] at hf; cases hf
  rename_i hook hsome
  split at h
  · rename_i id hok
    cases h
    exact .preLock p hp hreg fun f hf => ⟨id, by rw [hsome] at hf; cases hf; exact hok⟩
  split at h
  · exact markFailed_executes (.inl hp) h
  · cases h

/-- **What one statement does.** -/
theorem exec_executes (h : s.exec E now db = .ok s') : Executes E now db s s' := by
  unfold Session.exec at h
  obtain ⟨p, hreg, h⟩ := bind_eq_ok.1 h
  split at h
  case h_1 hp =>
    obtain ⟨row, hrow, h⟩ := bind_eq_ok.1 h
    cases h
    exact .insert row hp hrow
  case h_2 hp => exact quoteStep_executes hp h
  case h_3 hp => exact preLockStep_executes hp hreg h
  case h_4 hp =>
    cases h
    exact .flags hp
  case h_5 hp =>
    cases h
    exact .lock hp
  case h_6 hp =>
    unfold Session.validateStep at h
    obtain ⟨_, -, h⟩ := bind_eq_ok.1 h
    split at h
    · cases h
      exact .validate hp
    split at h
    · cases h
    · exact markFailed_executes (.inr (.inl hp)) h
  case h_7 hp =>
    unfold Session.closeStep at h
    split at h
    · cases h
      exact .keep hp
    split at h
    · cases h
      exact .close _ hp
    · exact markFailed_executes (.inr (.inr hp)) h
  case h_8 hp =>
    obtain ⟨es, -, h⟩ := bind_eq_ok.1 h
    obtain ⟨_, -, h⟩ := bind_eq_ok.1 h
    cases h
    exact .build es hp
  case h_9 hp =>
    obtain ⟨rows, -, h⟩ := bind_eq_ok.1 h
    cases h
    exact .deltas rows hp
  case h_10 hp =>
    obtain ⟨rows, hrows, h⟩ := bind_eq_ok.1 h
    cases h
    exact .entries rows hp hrows
  case h_11 hp =>
    obtain ⟨rows, -, h⟩ := bind_eq_ok.1 h
    cases h
    exact .update rows hp
  case h_12 hp =>
    cases h
    exact .finish p hp
  case h_13 hp =>
    cases h
    exact .done (.inl hp)
  case h_14 hp =>
    cases h
    exact .done (.inr hp)

theorem exec_insert (hp : s.phase = .insert) (h : s.exec E now db = .ok s') :
    ∃ row, insertHeader E db s.rc s.txID = .ok row ∧
      s' = { s with phase := .quote, writes := { s.writes with header := some row } } := by
  unfold Session.exec at h
  obtain ⟨p, -, h⟩ := bind_eq_ok.1 h
  simp only [hp] at h
  obtain ⟨row, hrow, h⟩ := bind_eq_ok.1 h
  cases h
  exact ⟨row, hrow, rfl⟩

/-- **What a statement leaves as it was.** -/
theorem exec_continues (h : s.exec E now db = .ok s') : Continues s s' := by
  cases exec_executes h with
  | insert row hp _ => exact ⟨.refl _, rfl, fun hne => absurd hp hne, fun _ => rfl⟩
  | quoted _ q hp hid =>
    exact ⟨⟨_, rfl, fun hnone => absurd hnone hid⟩, rfl, fun _ h' hh' => ⟨h', hh', .refl h'⟩,
      fun hne => absurd hp hne⟩
  | finish | reject => exact .of_status ⟨rfl, rfl, rfl⟩
  | unquoted | preLock | flags | lock | validate | keep | close | build | deltas | entries | update | done =>
    exact .of_eq ⟨rfl, rfl, rfl⟩

/-! ## Events -/

/-- `sid` holds in `w'` what it held in `w`. -/
def KeepsLocks (w w' : World) (sid : SessionID) : Prop := ∀ k, w.locks k = some sid → w'.locks k = some sid

/-- A session after an event that does not commit. -/
inductive Resumes (E : Env) (w w' : World) (ev : Event) (sid : SessionID) (s' : Session) : Prop
  | untouched (session : w.sessions sid = some s') (locks : KeepsLocks w w' sid)
  | accepted (txID : UUID) (cmd : Command) (rc : ResolvedCommand) (event : ev = .handle sid txID cmd)
      (free : w.sessions sid = none) (prepared : prepare E w.db w.now cmd = .ok rc)
      (started : s' = .start rc 0 txID)
  | retried (s : Session) (txID : UUID) (session : w.sessions sid = some s)
      (started : s' = .start s.rc (s.attempt + 1) txID)
  | statement (s : Session) (session : w.sessions sid = some s) (event : ev = .advance sid)
      (exec : s.exec E w.now w.db = .ok s') (locks : w'.locks = w.locks.acquire sid (s.needs E w.db))

/-- What an event does. -/
inductive Move (E : Env) (w : World) (ev : Event) (w' : World) : Prop
  | resumes (db : w'.db = w.db) (posted : w'.posted = w.posted)
      (sessions : ∀ sid s', w'.sessions sid = some s' → Resumes E w w' ev sid s')
  | commits (sid : SessionID) (s : Session) (session : w.sessions sid = some s)
      (phase : s.phase = .commit ∨ s.phase = .commitFailed) (event : ev = .advance sid)
      (world : w' = w.commit sid s)

theorem endSession_sessions {sid' : SessionID} (hs : (w.endSession sid).sessions sid' = some s') :
    sid' ≠ sid ∧ w.sessions sid' = some s' ∧ KeepsLocks w (w.endSession sid) sid' := by
  have hne : sid' ≠ sid := fun heq => by simp [World.endSession, World.setSession, heq] at hs
  simp only [World.endSession, World.setSession, Function.update_of_ne hne] at hs
  exact ⟨hne, hs, fun k hk => Locks.release_other hne hk⟩

theorem endSession_move : Move E w ev (w.endSession sid) :=
  .resumes rfl rfl fun _ _ hs => .untouched (endSession_sessions hs).2.1 (endSession_sessions hs).2.2

theorem quiet_move : Move E w ev w := .resumes rfl rfl fun _ _ hs => .untouched hs fun _ hk => hk

theorem setSession_sessions {t : Option Session} {sid' : SessionID}
    (hs : (w.setSession sid t).sessions sid' = some s') :
    (sid' = sid ∧ t = some s') ∨ (sid' ≠ sid ∧ w.sessions sid' = some s') := by
  by_cases hne : sid' = sid
  · subst hne
    exact .inl ⟨rfl, by simpa [World.setSession] using hs⟩
  · exact .inr ⟨hne, by simpa [World.setSession, Function.update_of_ne hne] using hs⟩

theorem advance_move (hs : w.sessions sid = some s) : Move E w (.advance sid) (w.advance E sid s) := by
  unfold World.advance
  split
  · exact quiet_move
  rename_i hfree
  have hfree : ∀ k ∈ s.needs E w.db, w.locks.available sid k = true := by simpa using hfree
  split
  · rename_i hp
    exact .commits sid s hs hp rfl rfl
  split
  · exact endSession_move
  rename_i s₁ hexec
  refine .resumes rfl rfl fun sid' s' hs' => ?_
  rcases setSession_sessions hs' with ⟨rfl, ht⟩ | ⟨hne, hs'⟩
  · cases ht
    exact .statement s hs rfl hexec rfl
  · exact .untouched hs' fun k hk => Locks.acquire_other hfree hne hk

/-- **What one event does.** -/
theorem step_move (E : Env) (w : World) (ev : Event) : Move E w ev (w.step E ev) := by
  cases ev with
  | handle sid txID cmd =>
    simp only [World.step]
    split
    · rename_i rc hfree hprep
      refine .resumes rfl rfl fun sid' s' hs' => ?_
      rcases setSession_sessions hs' with ⟨rfl, ht⟩ | ⟨-, hs'⟩
      · cases ht
        exact .accepted txID cmd rc rfl hfree hprep rfl
      · exact .untouched hs' fun _ hk => hk
    · exact quiet_move
  | advance sid =>
    simp only [World.step]
    split
    · exact quiet_move
    · rename_i s hs
      exact advance_move hs
  | fail sid retry =>
    simp only [World.step]
    split
    · exact quiet_move
    rename_i s hs
    cases retry with
    | none => exact endSession_move
    | some txID =>
      simp only [World.failSession]
      split
      · refine .resumes rfl rfl fun sid' s' hs' => ?_
        rcases setSession_sessions hs' with ⟨rfl, ht⟩ | ⟨-, hs'⟩
        · cases ht
          exact .retried s txID hs rfl
        · exact .untouched (endSession_sessions hs').2.1 (endSession_sessions hs').2.2
      · exact endSession_move
  | tick d => exact .resumes rfl rfl fun _ _ hs => .untouched hs fun _ hk => hk

/-- **Where the command of a session comes from**: the session it was before, or a
`Handle` call. -/
theorem step_sessions (h : (w.step E ev).sessions sid = some s') :
    (∃ s, w.sessions sid = some s ∧ SameRequest s.rc s'.rc) ∨
    ∃ txID cmd, ev = .handle sid txID cmd ∧ w.sessions sid = none ∧ prepare E w.db w.now cmd = .ok s'.rc := by
  cases step_move E w ev with
  | resumes _ _ hsessions =>
    cases hsessions sid s' h with
    | untouched hs _ => exact .inl ⟨s', hs, .refl _⟩
    | accepted txID cmd rc hev hfree hprep hstart =>
      subst hstart
      exact .inr ⟨txID, cmd, hev, hfree, hprep⟩
    | retried s txID hs hstart =>
      subst hstart
      exact .inl ⟨s, hs, .refl _⟩
    | statement s hs _ hexec _ => exact .inl ⟨s, hs, (exec_continues hexec).request⟩
  | commits sid₀ s _ _ _ hw =>
    rw [hw] at h
    exact .inl ⟨s', (endSession_sessions h).2.1, .refl _⟩

end Seev.Ledger
