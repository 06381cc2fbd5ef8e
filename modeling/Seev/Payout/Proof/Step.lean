import Seev.Payout.Proof.Flow

/-!
# What one event does

`step_sessions` says how a session came to its statement, `step_effect` what happened to
the tables and what went on record; every fact about runs is a case
analysis of the two. `Arrives.sat` is the invariant rule for sessions.
-/

namespace Seev.Payout

open Lib
open Ledger (UUID Decimal Currency FeeQuote)

variable {E : Env} {w : World} {e : Event} {sid sid' : SessionID} {s s' : Session} {n : Next}
  {first : Except Result Session} {d : Draw} {x : String × UUID}

/-! ## Sessions -/

/-- The session `n` leads to from `s`. -/
def Next.leads (s : Session) : Next → Option Session
  | .goto p => some { s with phase := p }
  | .return _ => none
  | .task ok => (s.job.count ok).advance.getLeft?
  | .listed rows => (s.job.withRows rows).advance.getLeft?

/-- The first statement of a call. -/
inductive First (w : World) (e : Event) (sid : SessionID) : Session → Prop
  | create {id : UUID} {req : CreateRequest} {ans : Answers} {currency : Currency}
    (event : e = .create sid id req ans) (fresh : w.origins id = none) (free : w.sessions sid = none) :
    First w e sid ⟨.single, .route id req currency⟩
  | createMerchant {id : UUID} {req : MerchantRequest} {ans : Answers}
    (event : e = .createMerchant sid id req ans) (fresh : w.origins id = none) (free : w.sessions sid = none) :
    First w e sid ⟨.single, .routeMerchant id req⟩
  | resume {cutoff : ℕ} : First w e sid ⟨.resume .created cutoff [] 0 0, .list⟩
  | retry {id : UUID} : First w e sid ⟨.single, .retryLoad id⟩
  | cancel {id : UUID} {reason : String} : First w e sid ⟨.single, .cancelLoad id reason⟩
  | callback {cb : Callback} {amount : Decimal} : First w e sid ⟨.single, .callbackLookup cb amount⟩

/-- The session whose statement the event is. -/
def Event.actor : Event → Option SessionID
  | .advance sid _ | .fail sid _ _ => some sid
  | _ => none

/-- The session the event begins. -/
def Event.opens : Event → Option SessionID
  | .create sid .. | .createMerchant sid .. | .relay sid .. | .resumeStuck sid _ | .adminRetry sid _
  | .adminCancel sid .. | .callback sid _ => some sid
  | _ => none

/-- The session of a create call and the id it draws. -/
def Event.draws : Event → Option (SessionID × UUID)
  | .create sid id .. | .createMerchant sid id .. => some (sid, id)
  | _ => none

/-- How session `sid` comes to stand at `s'` when `e` happens in `w`. -/
inductive Arrives (E : Env) (w : World) (e : Event) (sid : SessionID) (s' : Session) : Prop
  | stays (h : w.sessions sid = some s') (quiet : e.actor = some sid → (w.step E e).tables = w.tables)
  | starts (h : First w e sid s') (opens : e.opens = some sid)
  | claims {kind : ClaimKind} {picked : List UUID} {db : Db} {c : VendorCommand} {cs : List VendorCommand}
    (event : e = .relay sid kind picked) (claim : w.tables.db.claim w.now kind picked = .ok (db, c :: cs))
    (h : s' = ⟨.relay cs, .dispatch c⟩)
  | moves {s : Session} {n : Next} (h : w.sessions sid = some s) (leads : n.leads s = some s')
    (flow : ∀ p, n = .goto p → Flow E w e s.phase p)
    (listed : ∀ rows stage cutoff rest i j, n = .listed rows → s.job = .resume stage cutoff rest i j →
      w.listing e = some (stage, rows))

theorem enter_sessions (h : (w.enter sid s).sessions sid' = some s') :
    (sid' ≠ sid ∧ w.sessions sid' = some s') ∨ (sid' = sid ∧ s = s') := by
  by_cases hs : sid' = sid
  · subst hs
    simp only [World.enter, Function.update_self, Option.some.injEq] at h
    exact .inr ⟨rfl, h⟩
  · exact .inl ⟨hs, by simpa [World.enter, hs] using h⟩

theorem finish_sessions {r : Result} (h : (w.finish sid r).sessions sid' = some s') :
    sid' ≠ sid ∧ w.sessions sid' = some s' := by
  by_cases hs : sid' = sid
  · subst hs
    simp [World.finish] at h
  · exact ⟨hs, by simpa [World.finish, hs] using h⟩

theorem enterJob_sessions {job : Job} (h : (w.enterJob sid job).sessions sid' = some s') :
    (sid' ≠ sid ∧ w.sessions sid' = some s') ∨ (sid' = sid ∧ job.advance.getLeft? = some s') := by
  unfold World.enterJob at h
  split at h
  · rename_i s hs
    rw [hs]
    exact (enter_sessions h).imp_right fun ⟨h1, h2⟩ => ⟨h1, by rw [h2]; rfl⟩
  · exact .inl (finish_sessions h)

theorem proceed_sessions (h : (w.proceed sid s n).sessions sid' = some s') :
    (sid' ≠ sid ∧ w.sessions sid' = some s') ∨ (sid' = sid ∧ n.leads s = some s') := by
  cases n with
  | goto p => exact (enter_sessions h).imp_right fun ⟨h1, h2⟩ => ⟨h1, by rw [← h2]; rfl⟩
  | «return» r => exact .inl (finish_sessions h)
  | task | listed => exact enterJob_sessions h

theorem start_sessions (h : (w.start sid first).sessions sid' = some s') :
    w.sessions sid' = some s' ∨ (sid' = sid ∧ first = .ok s') := by
  unfold World.start at h
  split at h
  · exact .inl h
  · split at h
    · exact (enter_sessions h).imp And.right fun ⟨h1, h2⟩ => ⟨h1, by rw [h2]⟩
    · exact .inl (finish_sessions h).2

theorem startNew_sessions {id : UUID} {origin : Origin}
    (h : (w.startNew sid id origin first).sessions sid' = some s') :
    w.sessions sid' = some s' ∨
      (sid' = sid ∧ first = .ok s' ∧ w.origins id = none ∧ w.sessions sid = none) := by
  unfold World.startNew at h
  split at h
  · rename_i hfree hfresh
    have h : (w.start sid first).sessions sid' = some s' := h
    exact (start_sessions h).imp_right fun ⟨h1, h2⟩ => ⟨h1, h2, hfresh, hfree⟩
  · exact .inl h

/-- The event is no statement of a session. -/
theorem Arrives.kept (h : w.sessions sid = some s') (he : e.actor = none) : Arrives E w e sid s' :=
  .stays h fun ha => by cases he.symm.trans ha

/-- Session `sid` goes on and the others stay. -/
theorem Arrives.of_proceed (hs : w.sessions sid = some s) (hactor : e.actor = none ∨ e.actor = some sid)
    (hflow : ∀ p, n = .goto p → Flow E w e s.phase p)
    (hlisted : ∀ rows stage cutoff rest i j, n = .listed rows → s.job = .resume stage cutoff rest i j →
      w.listing e = some (stage, rows))
    (h : (w.proceed sid s n).sessions sid' = some s') : Arrives E w e sid' s' := by
  rcases proceed_sessions h with ⟨hne, h⟩ | ⟨rfl, hl⟩
  · refine .stays h fun ha => ?_
    rcases hactor with hnone | hsome
    · cases hnone.symm.trans ha
    · exact absurd (Option.some.inj (ha.symm.trans hsome)) hne
  · exact .moves hs hl hflow hlisted

theorem Arrives.of_goto {p : Phase} (hs : w.sessions sid = some s) (hactor : e.actor = none ∨ e.actor = some sid)
    (hflow : Flow E w e s.phase p) (h : (w.proceed sid s (.goto p)).sessions sid' = some s') :
      Arrives E w e sid' s' :=
  .of_proceed hs hactor (fun _ hn => Next.goto.inj hn ▸ hflow) (fun _ _ _ _ _ _ hn => nomatch hn) h

theorem Arrives.of_error {text : String} (hs : w.sessions sid = some s) (hactor : e.actor = some sid)
    (h : (w.proceed sid s (s.onError text)).sessions sid' = some s') : Arrives E w e sid' s' :=
  .of_proceed hs (.inr hactor) (fun _ hn => onError_flow hn)
    (fun _ _ _ _ _ _ hn => absurd hn (onError_ne_listed (t := w.tables))) h

theorem advance_sessions (hs : w.sessions sid = some s)
    (h : (w.advance E sid d s).sessions sid' = some s') : Arrives E w (.advance sid d) sid' s' := by
  have hstep := step_advance (E := E) (d := d) hs
  have hwaits : w.sessions sid' = some s' → w.step E (.advance sid d) = w →
      Arrives E w (.advance sid d) sid' s' :=
    fun h hw => .stays h fun _ => by rw [hw]
  generalize hw : w.advance E sid d s = w' at h hstep
  unfold World.advance at hw
  split at hw
  case h_1 req hp =>
    subst hw
    exact .of_goto hs (.inr rfl) (hp ▸ .sentHold) h
  case h_2 req i hp =>
    split at hw <;> subst hw
    · exact hwaits h hstep
    · exact .of_goto hs (.inr rfl) (hp ▸ .heldAnswer) h
    · exact .of_error hs rfl h
  case h_3 req hp =>
    split at hw <;> subst hw
    · exact .of_error hs rfl h
    · exact .of_goto hs (.inr rfl) (hp ▸ .heldTx) h
  case h_4 k c req gateway fee hp =>
    subst hw
    exact .of_goto hs (.inr rfl) (hp ▸ .sentClose) h
  case h_5 k c id i hp =>
    split at hw <;> subst hw
    · exact hwaits h hstep
    · exact .of_goto hs (.inr rfl) (hp ▸ .closedAnswer) h
    · exact .of_goto hs (.inr rfl) (.inert rfl) h
    · exact .of_error hs rfl h
  case h_6 k c id hp =>
    split at hw <;> subst hw
    · exact .of_error hs rfl h
    · exact .of_goto hs (.inr rfl) (hp ▸ .closedTx) h
  case h_7 req hp =>
    split at hw <;> subst hw
    · exact hwaits h hstep
    · exact .of_proceed (n := .task false) hs (.inr rfl) (fun _ hn => nomatch hn)
        (fun _ _ _ _ _ _ hn => nomatch hn) h
  case h_8 cmd req hp =>
    subst hw
    exact .of_goto hs (.inr rfl) (hp ▸ .submits (by rw [hstep]; simp)) h
  case h_9 | h_10 =>
    subst hw
    exact hwaits h hstep
  case h_11 =>
    subst hw
    exact .of_proceed hs (.inr rfl) (fun p hn => exec_flow hs (by rw [hstep]) hn)
      (fun _ _ _ _ _ _ hn hjob => exec_listed hs hn hjob) h

/-- **How a session came to its statement.** -/
theorem step_sessions (h : (w.step E e).sessions sid = some s') : Arrives E w e sid s' := by
  cases e with
  | create sid' id req ans =>
    rcases startNew_sessions h with h | ⟨rfl, hn, hfresh, hfree⟩
    · exact .kept h rfl
    · split at hn <;> cases hn
      exact .starts (.create rfl hfresh hfree) rfl
  | createMerchant sid' id req ans =>
    rcases startNew_sessions h with h | ⟨rfl, hn, hfresh, hfree⟩
    · exact .kept h rfl
    · split at hn <;> cases hn
      exact .starts (.createMerchant rfl hfresh hfree) rfl
  | relay sid' kind picked =>
    simp only [World.step] at h
    split at h
    · rename_i db cmds hfree hclaim
      rcases enterJob_sessions h with ⟨-, h⟩ | ⟨rfl, hn⟩
      · exact .kept h rfl
      · cases cmds with
        | nil => cases hn
        | cons c cs =>
          cases hn
          exact .claims rfl hclaim rfl
    · exact .kept h rfl
  | resumeStuck sid' olderThan =>
    rcases start_sessions h with h | ⟨rfl, hn⟩
    · exact .kept h rfl
    · cases hn
      exact .starts .resume rfl
  | adminRetry sid' id =>
    rcases start_sessions h with h | ⟨rfl, hn⟩
    · exact .kept h rfl
    · cases hn
      exact .starts .retry rfl
  | adminCancel sid' id reason =>
    rcases start_sessions h with h | ⟨rfl, hn⟩
    · exact .kept h rfl
    · cases hn
      exact .starts .cancel rfl
  | callback sid' cb =>
    rcases start_sessions h with h | ⟨rfl, hn⟩
    · exact .kept h rfl
    · split at hn <;> cases hn
      exact .starts .callback rfl
  | advance sid' d =>
    cases hs : w.sessions sid' with
    | none =>
      simp only [World.step, hs] at h
      exact .stays h fun _ => by simp only [World.step, hs]
    | some s =>
      rw [step_advance hs] at h
      exact advance_sessions hs h
  | fail sid' applied text =>
    simp only [World.step] at h
    split at h
    · rename_i hs
      exact .stays h fun _ => by simp only [World.step, hs]
    · rename_i s hs
      exact .of_error hs rfl h
  | crash sid' =>
    simp only [World.step] at h
    by_cases hne : sid = sid'
    · subst hne
      simp at h
    · exact .kept (by simpa [hne] using h) rfl
  | submitted sid' answer =>
    simp only [World.step] at h
    split at h
    · rename_i job cmd req hs
      split at h
      · rename_i hcons
        exact .of_goto hs (.inl rfl) (.submitted hcons) h
      · exact .kept h rfl
    · exact .kept h rfl
  | queried sid' answer =>
    simp only [World.step] at h
    split at h
    · rename_i job req hs
      exact .of_goto hs (.inl rfl) (.queried rfl ⟨job, hs⟩) h
    · exact .kept h rfl
  | feeResolved sid' fee =>
    simp only [World.step] at h
    split at h
    · rename_i job c req gateway hs
      exact .of_goto hs (.inl rfl) .priced h
    · exact .kept h rfl
  | reaches | ledger =>
    simp only [World.step] at h
    split at h <;> exact .kept h rfl
  | reapStuckCommands | replayDeadCommand | replayAllDeadCommands =>
    simp only [World.step, World.apply] at h
    split at h <;> exact .kept h rfl
  | newQuote | quoteConsumed =>
    simp only [World.step] at h
    split at h
    · split at h <;> exact .kept h rfl
    · exact .kept h rfl
  | createRule | updateRule | upsertVendorGateway | tick => exact .kept h rfl

/-! ## Tables and records -/

/-- The dead commands that the event replays. -/
def Event.revives : Event → VendorCommand → Bool
  | .replayDeadCommand id, c => c.id = id ∧ c.status = .dead
  | .replayAllDeadCommands olderThan picked, c => c.status = .dead ∧ c.createdAt < olderThan ∧ c.id ∈ picked
  | _, _ => false

/-- The event keeps the core of a command, which is live after it only if it was before or is replayed. -/
def Event.Keeps (e : Event) (c c' : VendorCommand) : Prop :=
  c'.core = c.core ∧ (c'.live = true → c.live = true ∨ e.revives c = true)

/-- What happens to the tables when `e` happens in `w`. -/
inductive Touches (E : Env) (w : World) (e : Event) (t' : Tables) : Prop
  | same (h : t' = w.tables)
  /-- a session executes its statement, and may still get an error for it -/
  | exec {sid : SessionID} {s : Session} {d : Draw} (session : w.sessions sid = some s)
    (event : e = .advance sid d ∨ ∃ text, e = .fail sid (some d) text) (h : t' = (s.exec E w.now d w.tables).1)
  /-- a claim, a reap or a replay of dead commands -/
  | commands {g : VendorCommand → VendorCommand} (keeps : ∀ c, e.Keeps c (g c))
    (h : t'.db.commands.1 = w.tables.db.commands.1.map g) (requests : t'.db.requests = w.tables.db.requests)
    (quotes : t'.quotes = w.tables.quotes)
  /-- a change of the routing tables -/
  | routing (requests : t'.db.requests = w.tables.db.requests) (commands : t'.db.commands = w.tables.db.commands)
    (quotes : t'.quotes = w.tables.quotes)
  | newQuote {id : UUID} {q : FeeQuote} (fresh : w.tables.quotes id = none) (checks : QuoteChecks q)
    (h : t' = { w.tables with quotes := Function.update w.tables.quotes id (some q) })
  | quoteConsumed {id : UUID} {q : FeeQuote} {ref : Ledger.QuoteRef} (was : w.tables.quotes id = some q)
    (open' : q.open w.now = true)
    (h : t' = { w.tables with quotes := Function.update w.tables.quotes id (some (q.consume w.now ref)) })

/-- What goes on record beside the tables: the calls of `Submit`, the reported failures,
the drawn ids and the commands at the ledger. -/
structure Records where
  sent : List (String × UUID)
  reached : List (String × UUID)
  reports : List (String × UUID)
  origins : UUID → Option Origin
  ledger : Server Request PostError

def World.records (w : World) : Records := ⟨w.sent, w.reached, w.reports, w.origins, w.ledger⟩

/-- What goes on record when `e` happens in `w`. -/
inductive Logs (E : Env) (w : World) (e : Event) : Records → Prop
  | same : Logs E w e w.records
  | sent {sid : SessionID} {job : Job} {cmd : VendorCommand} {req : PayoutRequest}
    (session : w.sessions sid = some ⟨job, .submit cmd req⟩) :
    Logs E w e { w.records with sent := w.sent ++ [(cmd.vendor, req.id)] }
  | reached {vendor : String} {id : UUID} (sent : (vendor, id) ∈ w.sent) :
    Logs E w e { w.records with reached := w.reached ++ [(vendor, id)] }
  | reports {l : List (String × UUID)} : Logs E w e { w.records with reports := w.reports ++ l }
  | drawn {sid : SessionID} {id : UUID} {o : Origin} (fresh : w.origins id = none)
    (draws : e.draws = some (sid, id)) :
    Logs E w e { w.records with origins := Function.update w.origins id (some o) }
  | hold {sid : SessionID} {job : Job} {d : Draw} {req : PayoutRequest} (event : e = .advance sid d)
    (session : w.sessions sid = some ⟨job, .postHold req⟩) :
    Logs E w e { w.records with ledger := w.ledger.send ⟨.hold, req.id, holdCommand E.text req⟩ }
  | close {sid : SessionID} {job : Job} {d : Draw} {k : Closing} {c : Caller} {req : PayoutRequest}
    {gateway : String}
    {fee : Option (Decimal × String)} (event : e = .advance sid d)
    (session : w.sessions sid = some ⟨job, .closePost k c req gateway fee⟩) :
    Logs E w e
      { w.records with
        ledger := w.ledger.send
          ⟨k.kind, req.id, closeCommand E.text k.kind req (req.holdTxID.getD UUID.nil) gateway fee⟩ }
  | served {i : ℕ} {v : Verdict PostError} (event : e = .ledger i v)
    (closable : v = .accept → ∀ c ∈ w.ledger.calls[i]?, w.closable c.1 = true) :
    Logs E w e { w.records with ledger := w.ledger.serve Request.key i v }

/-- Live commands or replayed ones change. -/
def Reworks (e : Event) (db db' : Db) : Prop :=
  ∃ g : VendorCommand → VendorCommand,
    (∀ c, e.Keeps c (g c)) ∧ db'.commands.1 = db.commands.1.map g ∧ db'.requests = db.requests

theorem updateCommands_reworks {db db' : Db} {q : VendorCommand → Bool} {f : VendorCommand → VendorCommand}
    (h : db.updateCommands q f = .ok db') (hf : ∀ c, (f c).core = c.core)
    (hq : ∀ c, q c = true → c.live = true ∨ e.revives c = true) : Reworks e db db' := by
  obtain ⟨_, rfl⟩ := setCommands_eq_ok.1 h
  refine ⟨_, fun c => ?_, rfl, rfl⟩
  split
  · rename_i hc
    exact ⟨hf c, fun _ => hq c hc⟩
  · exact ⟨rfl, .inl⟩

theorem ClaimKind.live_of_eligible {kind : ClaimKind} {now : ℕ} {c : VendorCommand}
    (h : kind.eligible now c = true) : c.live = true := by
  cases kind <;> simp only [ClaimKind.eligible, decide_eq_true_eq] at h <;>
    simp [VendorCommand.live, h, CommandStatus.live]

theorem claim_eq {db db' : Db} {now : ℕ} {kind : ClaimKind} {picked : List UUID} {cmds : List VendorCommand}
    (h : db.claim now kind picked = .ok (db', cmds)) :
    Reworks e db db' ∧ ∃ lock : VendorCommand → VendorCommand, (∀ c, (lock c).core = c.core) ∧
      cmds = (db.commands.1.filter fun c => decide (kind.eligible now c = true ∧ c.id ∈ picked)).map lock := by
  unfold Db.claim at h
  dsimp only at h
  cases hup : db.updateCommands (fun c => decide (kind.eligible now c = true ∧ c.id ∈ picked)) fun c =>
      { c with status := .processing, lockedAt := some now } with
  | error e =>
    rw [hup] at h
    cases h
  | ok db1 =>
    rw [hup] at h
    cases h
    refine ⟨updateCommands_reworks hup (fun _ => rfl) fun c hc => .inl ?_, _, fun c => ?_, rfl⟩
    · exact kind.live_of_eligible (of_decide_eq_true hc).1
    · rfl

/-- A claimed command was there, and could be claimed. -/
theorem claim_mem {db db' : Db} {now : ℕ} {kind : ClaimKind} {picked : List UUID} {cmds : List VendorCommand}
    (h : db.claim now kind picked = .ok (db', cmds)) {c : VendorCommand} (hc : c ∈ cmds) :
    ∃ c0 ∈ db.commands.1, c0.core = c.core ∧ kind.eligible now c0 = true ∧ c0.id ∈ picked := by
  obtain ⟨-, lock, hlock, rfl⟩ := claim_eq (e := .tick 0) h
  obtain ⟨c0, hc0, rfl⟩ := List.mem_map.1 hc
  obtain ⟨hmem, hchosen⟩ := List.mem_filter.1 hc0
  exact ⟨c0, hmem, (hlock c0).symm, of_decide_eq_true hchosen⟩

/-- What an event does to the tables and what it puts on record. -/
def Effect (E : Env) (w : World) (e : Event) (w' : World) : Prop :=
  Touches E w e w'.tables ∧ Logs E w e w'.records

theorem Effect.refl : Effect E w e w := ⟨.same rfl, .same⟩

/-- Only sessions and results change. -/
theorem proceed_eq (w : World) (sid : SessionID) (s : Session) (n : Next) :
    ∃ sessions results, w.proceed sid s n = { w with sessions := sessions, results := results } := by
  cases n with
  | goto | «return» => exact ⟨_, _, rfl⟩
  | task | listed =>
    simp only [World.proceed, World.enterJob]
    split <;> exact ⟨_, _, rfl⟩

theorem start_eq (w : World) (sid : SessionID) (first : Except Result Session) :
    ∃ sessions results, w.start sid first = { w with sessions := sessions, results := results } := by
  unfold World.start
  split
  · exact ⟨_, _, rfl⟩
  · split <;> exact ⟨_, _, rfl⟩

theorem proceed_effect : Effect E w e (w.proceed sid s n) := by
  obtain ⟨sessions, results, heq⟩ := proceed_eq w sid s n
  exact heq ▸ ⟨.same rfl, .same⟩

theorem start_effect : Effect E w e (w.start sid first) := by
  obtain ⟨sessions, results, heq⟩ := start_eq w sid first
  exact heq ▸ ⟨.same rfl, .same⟩

theorem startNew_effect {id : UUID} {o : Origin} (he : e.draws = some (sid, id)) :
    Effect E w e (w.startNew sid id o first) := by
  unfold World.startNew
  split
  · rename_i hfree hfresh
    obtain ⟨sessions, results, heq⟩ := start_eq w sid first
    rw [heq]
    exact ⟨.same rfl, .drawn hfresh he⟩
  · exact .refl

theorem apply_effect {x : Except String Db} (hx : ∀ db, x = .ok db → Reworks e w.tables.db db) :
    Effect E w e (w.apply x) := by
  cases x with
  | error text => exact .refl
  | ok db =>
    obtain ⟨g, hg, hc, hr⟩ := hx db rfl
    exact ⟨.commands hg hc hr rfl, .same⟩

theorem advance_effect (hs : w.sessions sid = some s) : Effect E w (.advance sid d) (w.advance E sid d s) := by
  obtain ⟨job, p⟩ := s
  unfold World.advance
  split
  case h_1 req hp =>
    cases hp
    exact ⟨.same rfl, .hold rfl hs⟩
  case h_4 k c req gateway fee hp =>
    cases hp
    exact ⟨.same rfl, .close rfl hs⟩
  case h_8 cmd req hp =>
    cases hp
    exact ⟨.same rfl, .sent hs⟩
  case h_11 =>
    obtain ⟨sessions, results, heq⟩ := proceed_eq w sid ⟨job, p⟩ (Session.exec E w.now d w.tables ⟨job, p⟩).2
    rw [heq]
    exact ⟨.exec hs (.inl rfl) rfl, .reports⟩
  case h_2 | h_3 | h_5 | h_6 | h_7 => split <;> first | exact .refl | exact proceed_effect
  case h_9 | h_10 => exact .refl

/-- **What one event does** to the tables, and what goes on record. -/
theorem step_effect : Effect E w e (w.step E e) := by
  cases e with
  | create | createMerchant => exact startNew_effect rfl
  | relay sid kind picked =>
    simp only [World.step]
    split
    · rename_i db cmds hfree hclaim
      obtain ⟨⟨g, hg, hc, hr⟩, -⟩ := claim_eq hclaim
      unfold World.enterJob
      split <;> exact ⟨.commands hg hc hr rfl, .same⟩
    · exact .refl
  | resumeStuck | adminRetry | adminCancel | callback => exact start_effect
  | advance sid d =>
    cases hs : w.sessions sid with
    | none =>
      simp only [World.step, hs]
      exact .refl
    | some s =>
      rw [step_advance hs]
      exact advance_effect hs
  | fail sid applied text =>
    simp only [World.step]
    split
    · exact .refl
    · rename_i s hs
      obtain ⟨sessions, results, heq⟩ := proceed_eq w sid s (s.onError text)
      rw [heq]
      cases applied with
      | none => exact ⟨.same rfl, .same⟩
      | some d => exact ⟨.exec hs (.inr ⟨text, rfl⟩) rfl, .same⟩
  | reaches vendor id =>
    simp only [World.step]
    split
    · rename_i hsent
      exact ⟨.same rfl, .reached hsent⟩
    · exact .refl
  | submitted sid answer =>
    simp only [World.step]
    split
    · split <;> exact .refl
    · exact .refl
  | queried sid answer =>
    simp only [World.step]
    split
    · exact ⟨.same rfl, .reports⟩
    · exact .refl
  | feeResolved sid fee =>
    simp only [World.step]
    split
    · exact ⟨.same rfl, .same⟩
    · exact .refl
  | ledger i v =>
    simp only [World.step]
    split
    · exact .refl
    · rename_i hv
      refine ⟨.same rfl, .served rfl fun hacc c hc => ?_⟩
      simp only [hacc, true_and, Bool.not_eq_true', Bool.not_eq_false, Option.all_eq_true] at hv
      exact hv c hc
  | crash | tick => exact ⟨.same rfl, .same⟩
  | reapStuckCommands olderThan =>
    refine apply_effect fun db h => updateCommands_reworks h (fun _ => rfl) fun c hc => .inl ?_
    rw [VendorCommand.live, (of_decide_eq_true hc).1]
    rfl
  | replayDeadCommand id =>
    refine apply_effect fun db h => ?_
    unfold Db.replayDeadCommand Db.updateFound at h
    split at h
    · exact updateCommands_reworks h (fun _ => rfl) fun c hc => .inr hc
    · cases h
  | replayAllDeadCommands olderThan picked =>
    exact apply_effect fun db h => updateCommands_reworks h (fun _ => rfl) fun c hc => .inr hc
  | createRule rule =>
    refine ⟨.routing ?_ ?_ rfl, .same⟩ <;> simp only [World.step, World.withDb, Db.createRule] <;> split <;> rfl
  | updateRule | upsertVendorGateway => exact ⟨.routing rfl rfl rfl, .same⟩
  | newQuote id q =>
    simp only [World.step]
    split
    · rename_i hq
      split
      · rename_i hchecks
        refine ⟨.newQuote hq ?_ rfl, .same⟩
        exact hchecks
      · exact .refl
    · exact .refl
  | quoteConsumed id ref =>
    simp only [World.step]
    split
    · rename_i q hq
      split
      · rename_i hopen
        exact ⟨.quoteConsumed hq hopen rfl, .same⟩
      · exact .refl
    · exact .refl

theorem step_tables : Touches E w e (w.step E e).tables := step_effect.1

theorem actor_of_exec (h : e = .advance sid d ∨ ∃ text, e = .fail sid (some d) text) : e.actor = some sid := by
  rcases h with rfl | ⟨_, rfl⟩ <;> rfl

/-- Where a request comes from: it was there, or the session that acts rewrote or inserted
it. -/
theorem step_rows {r' : PayoutRequest} (h : r' ∈ (w.step E e).tables.db.requests.1) :
    r' ∈ w.tables.db.requests.1 ∨
      ∃ sid s, e.actor = some sid ∧ w.sessions sid = some s ∧
        ((∃ r ∈ w.tables.db.requests.1, Rewrites w.now s.phase r r') ∨ Inserts w.now s.phase r') := by
  cases step_tables (E := E) (w := w) (e := e) with
  | same ht => exact .inl (ht ▸ h)
  | @exec sid s d hs he hx =>
    rw [hx] at h
    cases (exec_moves s).1 with
    | rewrite hmap hg =>
      rw [hmap] at h
      obtain ⟨r, hr, rfl⟩ := List.mem_map.1 h
      rcases hg r hr with heq | hrw
      · exact .inl (heq.symm ▸ hr)
      · exact .inr ⟨sid, s, actor_of_exec he, hs, .inl ⟨r, hr, hrw⟩⟩
    | insert happ hins =>
      rw [happ] at h
      rcases List.mem_append.1 h with h | h
      · exact .inl h
      · cases List.mem_singleton.1 h
        exact .inr ⟨sid, s, actor_of_exec he, hs, .inr hins⟩
  | commands _ _ hreq => exact .inl (hreq ▸ h)
  | routing hreq => exact .inl (hreq ▸ h)
  | newQuote _ _ ht => exact .inl (by rw [ht] at h; exact h)
  | quoteConsumed _ _ ht => exact .inl (by rw [ht] at h; exact h)

/-- What becomes of a request: it stays, or the session that acts rewrites it. -/
theorem step_rows_image {r : PayoutRequest} (h : r ∈ w.tables.db.requests.1) :
    r ∈ (w.step E e).tables.db.requests.1 ∨
      ∃ sid s r', e.actor = some sid ∧ w.sessions sid = some s ∧ r' ∈ (w.step E e).tables.db.requests.1 ∧
        Rewrites w.now s.phase r r' := by
  cases step_tables (E := E) (w := w) (e := e) with
  | same ht => exact .inl (ht.symm ▸ h)
  | @exec sid s d hs he hx =>
    rw [hx]
    cases (exec_moves s).1 with
    | rewrite hmap hg =>
      rw [hmap]
      rcases hg r h with heq | hrw
      · exact .inl (List.mem_map.2 ⟨r, h, heq⟩)
      · exact .inr ⟨sid, s, _, actor_of_exec he, hs, List.mem_map_of_mem h, hrw⟩
    | insert happ hins =>
      rw [happ]
      exact .inl (List.mem_append_left _ h)
  | commands _ _ hreq => exact .inl (hreq.symm ▸ h)
  | routing hreq => exact .inl (hreq.symm ▸ h)
  | newQuote _ _ ht => exact .inl (by rw [ht]; exact h)
  | quoteConsumed _ _ ht => exact .inl (by rw [ht]; exact h)

/-- Where a command comes from: it was there, up to its status, or the session that acts
enqueued it for a request that exists. -/
theorem step_commands {c' : VendorCommand} (h : c' ∈ (w.step E e).tables.db.commands.1) :
    (∃ c ∈ w.tables.db.commands.1, e.Keeps c c') ∨
      ∃ sid s, e.actor = some sid ∧ w.sessions sid = some s ∧ Enqueues s.phase c'.payoutRequestID c'.vendor ∧
        ∃ r ∈ (w.step E e).tables.db.requests.1, r.id = c'.payoutRequestID ∧
          ((∃ cmd req nextVendor, s.phase = .failover cmd req nextVendor) → r.vendor = c'.vendor) := by
  have mapped : ∀ {g : VendorCommand → VendorCommand}, (∀ c, e.Keeps c (g c)) →
      c' ∈ w.tables.db.commands.1.map g → ∃ c ∈ w.tables.db.commands.1, e.Keeps c c' := by
    intro g hg hc
    obtain ⟨c, hmem, rfl⟩ := List.mem_map.1 hc
    exact ⟨c, hmem, hg c⟩
  cases step_tables (E := E) (w := w) (e := e) with
  | same ht => exact .inl ⟨c', ht ▸ h, rfl, .inl⟩
  | @exec sid s d hs he hx =>
    rw [hx] at h ⊢
    cases (exec_moves s).2 with
    | update hmap hg => exact .inl (mapped (fun c => (hg c).imp_right fun hl h => .inl (hl h)) (hmap ▸ h))
    | insert happ hg henq hreq =>
      rw [happ] at h
      rcases List.mem_append.1 h with h | h
      · exact .inl (mapped (fun c => (hg c).imp_right fun hl h => .inl (hl h)) h)
      · cases List.mem_singleton.1 h
        exact .inr ⟨sid, s, actor_of_exec he, hs, henq, hreq⟩
  | commands hg hmap => exact .inl (mapped hg (hmap ▸ h))
  | routing _ hcmds => exact .inl ⟨c', hcmds ▸ h, rfl, .inl⟩
  | newQuote _ _ ht => exact .inl ⟨c', by rw [ht] at h; exact h, rfl, .inl⟩
  | quoteConsumed _ _ ht => exact .inl ⟨c', by rw [ht] at h; exact h, rfl, .inl⟩

/-! ## Invariants of sessions -/

/-- `P` holds of every statement a pass is still to begin with. -/
def Job.All (P : Phase → Prop) : Job → Prop
  | .single => True
  | .relay rest => ∀ c ∈ rest, P (.dispatch c)
  | .resume stage _ rest _ _ => ∀ r ∈ rest, P (stage.first r)

/-- `P` holds of the statement the session is at and of those its pass is to begin with. -/
def Session.Sat (P : Phase → Prop) (s : Session) : Prop := P s.phase ∧ s.job.All P

theorem Session.Sat.mono {P P' : Phase → Prop} (h : ∀ p, P p → P' p) (hs : s.Sat P) : s.Sat P' := by
  refine ⟨h _ hs.1, ?_⟩
  obtain ⟨job, p⟩ := s
  cases job with
  | single => trivial
  | relay rest => exact fun c hc => h _ (hs.2 c hc)
  | resume stage cutoff rest n m => exact fun r hr => h _ (hs.2 r hr)

theorem Job.All.count {P : Phase → Prop} {job : Job} {ok : Bool} (h : job.All P) : (job.count ok).All P := by
  cases job with
  | single | relay => exact h
  | resume stage cutoff rest n m => cases ok <;> exact h

theorem Job.All.advance {P : Phase → Prop} {job : Job} (h : job.All P) (hlist : P .list)
    (hs : job.advance.getLeft? = some s') : s'.Sat P := by
  cases job with
  | single => cases hs
  | relay rest =>
    cases rest with
    | nil => cases hs
    | cons c cs =>
      cases hs
      exact ⟨h c List.mem_cons_self, fun c' hc' => h c' (List.mem_cons_of_mem _ hc')⟩
  | resume stage cutoff rest n m =>
    cases rest with
    | nil => cases stage <;> cases hs <;> exact ⟨hlist, fun r hr => absurd hr List.not_mem_nil⟩
    | cons r rs =>
      cases hs
      exact ⟨h r List.mem_cons_self, fun r' hr' => h r' (List.mem_cons_of_mem _ hr')⟩

section Rule

variable {P : Phase → Prop} (h : Arrives E w e sid s')
  (before : ∀ s, w.sessions sid = some s → s.Sat P)
  (starts : ∀ s, First w e sid s → s.Sat P)
  (claimed : ∀ c : VendorCommand, (∃ c0 ∈ w.tables.db.commands.1, c0.core = c.core) → P (.dispatch c))
  (listed : ∀ stage rows, w.listing e = some (stage, rows) →
    ∀ r ∈ rows, r ∈ w.tables.db.requests.1 → r.status = stage.status → P (stage.first r))
  (list : P .list)
include h before starts claimed listed list

/-- **Invariant rule for sessions.** `P` holds of a session after the event if it holds
of the session before it, of the first statement of a call, of a claimed command and of
a listed request, and is handed on from statement to statement. -/
theorem Arrives.sat
    (flow : ∀ p p' job, w.sessions sid = some ⟨job, p⟩ → Flow E w e p p' → P p → P p') : s'.Sat P := by
  cases h with
  | stays h _ => exact before s' h
  | starts h => exact starts s' h
  | @claims _ _ _ c cs _ hclaim heq =>
    subst heq
    have hcore : ∀ c' ∈ c :: cs, ∃ c0 ∈ w.tables.db.commands.1, c0.core = c'.core := fun c' hc' => by
      obtain ⟨c0, hc0, hcore, -⟩ := claim_mem hclaim hc'
      exact ⟨c0, hc0, hcore⟩
    exact ⟨claimed _ (hcore _ List.mem_cons_self),
      fun c hc => claimed _ (hcore c (List.mem_cons_of_mem _ hc))⟩
  | @moves s n hs hleads hflow hlisted =>
    have hsat := before s hs
    cases n with
    | goto p =>
      cases hleads
      exact ⟨flow _ _ s.job hs (hflow p rfl) hsat.1, hsat.2⟩
    | «return» r => cases hleads
    | task ok => exact Job.All.advance hsat.2.count list hleads
    | listed rows =>
      refine Job.All.advance ?_ list hleads
      obtain ⟨job, p⟩ := s
      cases job with
      | single => trivial
      | relay rest => exact hsat.2
      | resume stage cutoff rest i j =>
        intro r hr
        have hl := hlisted _ _ _ _ _ _ rfl rfl
        obtain ⟨hmem, hst⟩ := listing_mem hl hr
        exact listed stage rows hl r hr hmem hst

end Rule

/-! ## Records -/

/-- What holds of all that can go on record holds of the records after the event. -/
theorem step_logs (P : Records → Prop) (h : ∀ r, Logs E w e r → P r) : P (w.step E e).records :=
  h _ step_effect.2

/-- A `Submit` goes on record when a session at `submit` calls it. -/
theorem step_sent (h : x ∈ (w.step E e).sent) :
    x ∈ w.sent ∨ ∃ sid job cmd req, w.sessions sid = some ⟨job, .submit cmd req⟩ ∧ x = (cmd.vendor, req.id) := by
  revert h
  refine step_logs (fun r => x ∈ r.sent → _) fun r hlogs h => ?_
  cases hlogs with
  | sent hs =>
    rcases List.mem_append.1 h with h | h
    · exact .inl h
    · exact .inr ⟨_, _, _, _, hs, List.mem_singleton.1 h⟩
  | _ => exact .inl h

theorem sent_step (h : x ∈ w.sent) : x ∈ (w.step E e).sent := by
  refine step_logs (fun r => x ∈ r.sent) fun r hlogs => ?_
  cases hlogs with
  | sent _ => exact List.mem_append_left _ h
  | _ => exact h

/-- What reached a vendor was sent. -/
theorem step_reached (h : x ∈ (w.step E e).reached) : x ∈ w.reached ∨ x ∈ w.sent := by
  revert h
  refine step_logs (fun r => x ∈ r.reached → _) fun r hlogs h => ?_
  cases hlogs with
  | reached hs =>
    rcases List.mem_append.1 h with h | h
    · exact .inl h
    · exact .inr (List.mem_singleton.1 h ▸ hs)
  | _ => exact .inl h

theorem reached_step (h : x ∈ w.reached) : x ∈ (w.step E e).reached := by
  refine step_logs (fun r => x ∈ r.reached) fun r hlogs => ?_
  cases hlogs with
  | reached _ => exact List.mem_append_left _ h
  | _ => exact h

theorem reports_step (h : x ∈ w.reports) : x ∈ (w.step E e).reports := by
  refine step_logs (fun r => x ∈ r.reports) fun r hlogs => ?_
  cases hlogs with
  | reports => exact List.mem_append_left _ h
  | _ => exact h

/-- The origin of a request id, once drawn, stays. -/
theorem origins_step {id : UUID} {o : Origin} (h : w.origins id = some o) : (w.step E e).origins id = some o := by
  refine step_logs (fun r => r.origins id = some o) fun r hlogs => ?_
  cases hlogs with
  | @drawn _ id' o' hfresh =>
    have hne : id ≠ id' := by
      rintro rfl
      rw [h] at hfresh
      cases hfresh
    exact (Function.update_of_ne hne _ _).trans h
  | _ => exact h

/-! ## The life of a request -/

/-- How far a request is: one that waits for its vendor may be submitted again, nothing else goes back. -/
def Status.rank : Status → ℕ
  | created => 0
  | held => 1
  | submitted | vendorPending => 2
  | settled | failed | cancelled | rejected => 3

def PayoutRequest.core (r : PayoutRequest) : UUID × UUID × UUID × Decimal × Currency × String :=
  (r.id, r.userID, r.merchantTenantID, r.amount, r.currency, r.downstreamKey)

/-- What a later row `r'` keeps of `r`. -/
structure PayoutRequest.Later (r r' : PayoutRequest) : Prop where
  core : r'.core = r.core
  rank : r.status.rank ≤ r'.status.rank
  hold : r.status ≠ .created → r'.holdTxID = r.holdTxID
  ended : r.status.rank = 3 → r'.status = r.status ∧ r'.settleTxID = r.settleTxID

variable {r r₁ r₂ : PayoutRequest}

theorem PayoutRequest.Later.refl (r : PayoutRequest) : r.Later r :=
  ⟨rfl, le_rfl, fun _ => rfl, fun _ => ⟨rfl, rfl⟩⟩

theorem Rewrites.later {now : ℕ} {p : Phase} (h : Rewrites now p r r₁) : r.Later r₁ := by
  cases h with
  | error | quoted | moved => exact ⟨rfl, le_rfl, fun _ => rfl, fun _ => ⟨rfl, rfl⟩⟩
  | rejected _ _ was | held _ _ was | pending _ _ was =>
    constructor <;> simp [was, Status.rank, PayoutRequest.core]
  | submitted _ _ was | settled _ _ was | cancelled _ _ was =>
    rcases was with was | was <;> constructor <;> simp [was, Status.rank, PayoutRequest.core]

theorem PayoutRequest.Later.trans (h : r.Later r₁) (h' : r₁.Later r₂) : r.Later r₂ where
  core := h'.core.trans h.core
  rank := h.rank.trans h'.rank
  hold hne := by
    refine (h'.hold fun heq => hne ?_).trans (h.hold hne)
    have hrank := h.rank
    rw [heq] at hrank
    cases hs : r.status <;> rw [hs] at hrank <;> simp [Status.rank] at hrank ⊢
  ended h3 := by
    obtain ⟨hstatus, hsettle⟩ := h.ended h3
    obtain ⟨hstatus', hsettle'⟩ := h'.ended (hstatus ▸ h3)
    exact ⟨hstatus'.trans hstatus, hsettle'.trans hsettle⟩

/-- **A payout request only moves forward**: in any run from any state its row stays, for the same owner and
amount, and its hold and the way it ended are for good. -/
theorem request_kept (E : Env) (w : World) (es : List Event) (h : r ∈ w.tables.db.requests.1) :
    ∃ r' ∈ (run (World.step E) w es).tables.db.requests.1, r.Later r' := by
  refine run_inv (I := fun w : World => ∃ r' ∈ w.tables.db.requests.1, r.Later r') ?_ ⟨r, h, .refl r⟩ es
  rintro w e ⟨r', hr', hlater⟩
  rcases step_rows_image (E := E) (e := e) hr' with hkept | ⟨_, _, r₂, -, -, hr₂, hrw⟩
  · exact ⟨r', hkept, hlater⟩
  · exact ⟨r₂, hr₂, hlater.trans hrw.later⟩

set_option maxRecDepth 20000 in
theorem request_kept_submitted :
    let w := run (World.step Sample.env) (Sample.world ["acme"] fun _ => none) (Sample.created 11)
    ∃ r ∈ w.tables.db.requests.1, ∃ r' ∈ (run (World.step Sample.env) w
      (.relay 2 .pending [11] :: Sample.submit 2 "acme" 1 .failed)).tables.db.requests.1, r.Later r' := by
  intro w
  obtain ⟨r, hr⟩ := List.exists_mem_of_ne_nil w.tables.db.requests.1 (by decide +kernel)
  exact ⟨r, hr, request_kept Sample.env w _ hr⟩

end Seev.Payout
