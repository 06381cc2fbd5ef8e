import Seev.Lib.Result
import Seev.Payin.World

/-!
# What one event does

`step_turn` and `step_ledger` say how a session came to its statement and what happened at
the ledger; every fact about runs is a case analysis of the two.

An event is *in hand* while a session of `postAndFinalize` works on it or a command for
it was sent. It gets there in two ways only (`Enters`): a settled callback that matched
reads or inserts its row, or a replay loads it (`inHand_step`).
-/

namespace Seev.Payin

open Lib
open Ledger (UUID Decimal Currency Text Command)

variable {E : Env} {w : World} {e : Event} {db : Db} {now : ℕ} {sid sid' : SessionID} {s s' : Session}
  {ev : WebhookEvent}

/-! ## Sessions -/

/-- The session an event is about. -/
def Event.sid? : Event → Option SessionID
  | .callback sid _ | .replay sid _ | .createTopup sid .. | .createMerchantTopup sid .. | .getTopup sid _
  | .advance sid _ | .fail sid .. | .crash sid | .screened sid _ | .consumed sid .. => some sid
  | .ledger .. | .upsertVendorGateway .. | .tick _ => none

theorem proceed_frame (h : sid' ≠ sid) (n : Next) : (w.proceed sid' n).sessions sid = w.sessions sid := by
  cases n <;> exact Function.update_of_ne h.symm _ _

theorem proceed_goto {n : Next} (h : (w.proceed sid n).sessions sid = some s') : n = .goto s' := by
  cases n with
  | goto s =>
    simp only [World.proceed, Function.update_self, Option.some.injEq] at h
    rw [h]
  | «return» r => simp [World.proceed] at h

/-- A call that does not start leaves the world. -/
theorem start_cases (w : World) (sid : SessionID) (first : Except Failure Session) :
    w.start sid first = w ∨ ∃ n, w.start sid first = w.proceed sid n ∧ ∀ s, n = .goto s → first = .ok s := by
  unfold World.start
  split
  · exact .inl rfl
  · split
    · exact .inr ⟨_, rfl, fun _ h => by rw [Next.goto.inj h]⟩
    · exact .inr ⟨_, rfl, fun _ h => nomatch h⟩

theorem start_frame (h : sid' ≠ sid) (first : Except Failure Session) :
    (w.start sid' first).sessions sid = w.sessions sid := by
  rcases start_cases w sid' first with heq | ⟨n, heq, -⟩ <;> rw [heq]
  exact proceed_frame h n

/-- The other sessions stay as they are. -/
theorem step_frame (h : e.sid? ≠ some sid) : (w.step E e).sessions sid = w.sessions sid := by
  cases e with
  | advance sid' id =>
    have hne : sid' ≠ sid := fun heq => h (congrArg some heq)
    simp only [World.step]
    split
    · rfl
    · unfold World.advance
      split
      · split
        · exact proceed_frame hne _
        · exact proceed_frame (w := w) hne (.goto _)
      · split
        · rfl
        · exact proceed_frame hne _
      · exact proceed_frame hne _
  | fail sid' | screened sid' | consumed sid' =>
    have hne : sid' ≠ sid := fun heq => h (congrArg some heq)
    simp only [World.step]
    split <;> first | rfl | exact proceed_frame hne _
  | crash sid' => exact Function.update_of_ne (fun heq => h (congrArg some heq.symm)) _ _
  | ledger i v =>
    simp only [World.step]
    split <;> rfl
  | upsertVendorGateway | tick => rfl
  | callback sid' | replay sid' | createTopup sid' | createMerchantTopup sid' | getTopup sid' =>
    exact start_frame (fun heq => h (congrArg some heq)) _

/-- A session of one of the calls on top-up intents. -/
def Session.isTopup : Session → Bool
  | .insertTopup _ | .insertMerchantTopup _ | .recoverTopup .. | .completeTopup .. | .consumeQuote ..
  | .saveSnapshot .. | .getTopup _ | .expireTopup _ => true
  | _ => false

/-- The first statement of a call. -/
inductive First (E : Env) (e : Event) (sid : SessionID) : Session → Prop
  | callback {cb : Callback} {amount : Decimal} (event : e = .callback sid cb)
    (h : checkCallback E.text cb = .ok amount) : First E e sid (.lookupGateway cb amount)
  | replay {id : UUID} : First E e sid (.load id)
  | createTopup {i : TopupIntent} : First E e sid (.insertTopup i)
  | createMerchantTopup {i : TopupIntent} : First E e sid (.insertMerchantTopup i)
  | getTopup {id : UUID} : First E e sid (.getTopup id)

/-- From the statement of session `sid` to the next one when `e` happens in `w`, with what it
found. -/
inductive Turn (E : Env) (w : World) (e : Event) (sid : SessionID) : Session → Session → Prop
  | waits {s : Session} : Turn E w e sid s s
  | unmapped {cb : Callback} {amount : Decimal} {n : UUID} : Turn E w e sid (.lookupGateway cb amount)
      (.persist cb (callbackEvent n cb amount) "" "no payin vendor gateway mapping")
  | mapped {cb : Callback} {amount : Decimal} {gateway : String} :
    Turn E w e sid (.lookupGateway cb amount) (.lookupIntent cb amount gateway)
  | found {cb : Callback} {amount : Decimal} {gateway : String} {n : UUID} (acts : e = .advance sid n) :
    Turn E w e sid (.lookupIntent cb amount gateway)
      (.matchIntent cb amount gateway (w.db.getTopupIntentByReference cb.externalReference))
  | matched {cb : Callback} {amount : Decimal} {gateway : String} {intent : Option TopupIntent} {n : UUID}
    (acts : e = .advance sid n) : Turn E w e sid (.matchIntent cb amount gateway intent)
      (.persist cb (correlate w.now n cb amount intent).1 gateway (correlate w.now n cb amount intent).2)
  | stored {cb : Callback} {event stored : WebhookEvent} {gateway : String} {db' : Db} {n : UUID}
    (acts : e = .advance sid n) (h : w.db.getOrInsert event = .ok (db', stored))
    (received : stored.status = .received)
    (settled : cb.status = "settled") :
    Turn E w e sid (.persist cb event gateway "") (.begin .callback stored gateway)
  | recorded {cb : Callback} {event stored : WebhookEvent} {gateway reason text : String} {db' : Db} {n : UUID}
    {outcome : VendorCallbackOutcome} (acts : e = .advance sid n) (h : w.db.getOrInsert event = .ok (db', stored))
    (received : stored.status = .received) :
    Turn E w e sid (.persist cb event gateway reason) (.record stored.id text outcome)
  | loaded {id : UUID} {ev : WebhookEvent} {n : UUID} (acts : e = .advance sid n) (h : w.db.get id = some ev)
    (open' : ev.status ≠ .posted) : Turn E w e sid (.load id) (.route ev)
  | routed {ev : WebhookEvent} {gateway : String} : Turn E w e sid (.route ev) (.begin .replay ev gateway)
  | screens {c : Caller} {ev : WebhookEvent} {gateway : String} {f : Financials}
    (h : financials w.db ev gateway = .ok f) : Turn E w e sid (.begin c ev gateway) (.screen c ev f)
  | unscreened {c : Caller} {ev : WebhookEvent} {gateway : String} {f : Financials}
    (h : financials w.db ev gateway = .ok f) : Turn E w e sid (.begin c ev gateway) (.post c ev f)
  | passed {c : Caller} {ev : WebhookEvent} {f : Financials} : Turn E w e sid (.screen c ev f) (.post c ev f)
  | blocks {c : Caller} {ev : WebhookEvent} {f : Financials} {reason : String} :
    Turn E w e sid (.screen c ev f) (.block c ev reason)
  | sends {c : Caller} {ev : WebhookEvent} {f : Financials} :
    Turn E w e sid (.post c ev f) (.await c ev w.ledger.calls.length)
  | answered {c : Caller} {ev : WebhookEvent} {i : ℕ} : Turn E w e sid (.await c ev i) (.finalize c ev)
  | refused {c : Caller} {ev : WebhookEvent} {i : ℕ} {err : PostError}
    (answer : w.ledger.answer i = some (.refused err)) : Turn E w e sid (.await c ev i) (.reject c ev err)
  | marked {c : Caller} {ev : WebhookEvent} : Turn E w e sid (.finalize c ev) (.settle c ev)
  | topup {s s' : Session} (h : s'.isTopup = true) : Turn E w e sid s s'

theorem onError_turn {t : String} (h : s.onError t = .goto s') : Turn E w e sid s s' := by
  cases s <;> simp only [Session.onError, Caller.marked] at h <;> try cases h
  case screen => exact .passed
  case finalize =>
    split at h <;> cases h
    exact .marked
  case insertTopup =>
    split at h <;> cases h
    exact .topup rfl
  case matchIntent => exact .waits

theorem update_turn {n : Next} {r : Except String Db} (h : (s.update db n r).2 = .goto s') :
    n = .goto s' ∨ Turn E w e sid s s' := by
  cases r with
  | ok db' => exact .inl h
  | error text => exact .inr (onError_turn h)

theorem onAnswer_turn {c : Caller} {i : ℕ} {a : Answer PostError} (ha : w.ledger.answer i = some a)
    (h : Session.onAnswer c ev a = .goto s') : Turn E w e sid (.await c ev i) s' := by
  cases a with
  | done =>
    cases h
    exact .answered
  | refused err =>
    simp only [Session.onAnswer] at h
    split at h
    · cases h
      exact .answered
    · split at h <;> cases h
      exact .refused ha

/-- A callback goes on with a row that was received: to the post when it is settled and
matched, to the record of the reason otherwise. -/
theorem afterPersist_turn {cb : Callback} {event stored : WebhookEvent} {gateway reason : String} {db' : Db}
    {n : UUID}
    (hp : w.db.getOrInsert event = .ok (db', stored))
    (h : Session.afterPersist cb gateway reason stored = .goto s') :
    Turn E w (.advance sid n) sid (.persist cb event gateway reason) s' := by
  unfold Session.afterPersist at h
  split at h
  case h_1 | h_2 | h_3 => cases h
  case h_4 hrec =>
    split at h
    · cases h
      exact .recorded rfl hp hrec
    · rename_i hst
      split at h
      · cases h
        exact .recorded rfl hp hrec
      · rename_i hreason
        cases h
        obtain rfl := not_not.1 hreason
        exact .stored rfl hp hrec (not_not.1 hst)

theorem finishIntent_isTopup {reading : Bool} {i : TopupIntent}
    (h : finishIntent reading now i = .goto s') : s'.isTopup = true := by
  unfold finishIntent at h
  split at h
  · cases h
    rfl
  · cases h

/-- **What a statement does to its session.** -/
theorem exec_turn {n : UUID} (h : (s.exec E w.db w.now n).2 = .goto s') : Turn E w (.advance sid n) sid s s' := by
  cases s with
  | lookupGateway cb amount =>
    simp only [Session.exec] at h
    split at h <;> cases h
    · exact .unmapped
    · exact .mapped
  | lookupIntent cb amount gateway => cases h; exact .found rfl
  | matchIntent cb amount gateway intent => cases h; exact .matched rfl
  | persist cb event gateway reason =>
    simp only [Session.exec] at h
    split at h
    · exact onError_turn h
    · rename_i db' stored hp
      exact afterPersist_turn hp h
  | record | block | reject => exact (update_turn h).resolve_left nofun
  | load id' =>
    simp only [Session.exec] at h
    split at h
    · exact onError_turn h
    · rename_i ev hget
      split at h
      · exact onError_turn h
      · rename_i hopen
        cases h
        exact .loaded rfl hget hopen
  | route ev =>
    simp only [Session.exec] at h
    split at h
    · exact onError_turn h
    · cases h
      exact .routed
  | begin c ev gateway =>
    simp only [Session.exec] at h
    split at h
    · cases h
    · rename_i f hf
      split at h <;> cases h
      · exact .screens hf
      · exact .unscreened hf
  | finalize c ev =>
    simp only [Session.exec, Caller.marked] at h
    split at h <;> cases h
    exact .marked
  | settle | expireTopup => cases h
  | insertTopup intent =>
    rcases update_turn h with h | h
    · split at h <;> cases h
      exact .topup rfl
    · exact h
  | insertMerchantTopup intent =>
    simp only [Session.exec] at h
    split at h
    · exact onError_turn h
    · cases h
  | recoverTopup intent err =>
    simp only [Session.exec] at h
    split at h
    · cases h
    · split at h <;> cases h
      exact .topup rfl
  | completeTopup reading intent =>
    simp only [Session.exec] at h
    split at h
    · exact .topup (finishIntent_isTopup h)
    · split at h <;> cases h
      exact .topup rfl
  | saveSnapshot reading intent fee feeGateway consumedAt =>
    rcases update_turn h with h | h
    · exact .topup (finishIntent_isTopup h)
    · exact h
  | getTopup id' =>
    simp only [Session.exec] at h
    split at h
    · exact onError_turn h
    · split at h
      · cases h
        exact .topup rfl
      · exact .topup (finishIntent_isTopup h)
  | screen | post | await | consumeQuote => cases h; exact .waits

theorem advance_turn {n : UUID} (hs : w.sessions sid = some s)
    (h : (w.advance E sid n s).sessions sid = some s') : Turn E w (.advance sid n) sid s s' := by
  unfold World.advance at h
  split at h
  case h_1 c ev f =>
    split at h
    · cases proceed_goto h
    · cases proceed_goto (w := w) (n := .goto (.await c ev w.ledger.calls.length)) h
      exact .sends
  case h_2 c ev i =>
    split at h
    · cases hs.symm.trans h
      exact .waits
    · rename_i ha
      exact onAnswer_turn ha (proceed_goto h)
  case h_3 => exact exec_turn (proceed_goto (w := w) h)

/-- **How a session came to its statement**: it stayed there, it began, or it took a turn. -/
theorem step_turn (hs' : (w.step E e).sessions sid = some s') :
    w.sessions sid = some s' ∨ First E e sid s' ∨ ∃ s, w.sessions sid = some s ∧ Turn E w e sid s s' := by
  by_cases he : e.sid? = some sid
  swap
  · exact .inl (step_frame he ▸ hs')
  have hstart : ∀ first : Except Failure Session, (w.start sid first).sessions sid = some s' →
      (first = .ok s' → First E e sid s') →
      w.sessions sid = some s' ∨ First E e sid s' ∨ ∃ s, w.sessions sid = some s ∧ Turn E w e sid s s' := by
    intro first h hfirst
    rcases start_cases w sid first with heq | ⟨n, heq, hn⟩ <;> rw [heq] at h
    · exact .inl h
    · exact .inr (.inl (hfirst (hn s' (proceed_goto h))))
  cases e with
  | callback | createTopup | createMerchantTopup =>
    cases he
    refine hstart _ hs' fun hf => ?_
    obtain ⟨x, hx, rfl⟩ := map_eq_ok.1 hf
    first | exact .callback rfl hx | exact .createTopup | exact .createMerchantTopup
  | replay | getTopup =>
    cases he
    refine hstart (.ok _) hs' fun hf => ?_
    cases hf
    first | exact .replay | exact .getTopup
  | advance _ n =>
    cases he
    simp only [World.step] at hs'
    split at hs'
    · exact .inl hs'
    · rename_i s hs
      exact .inr (.inr ⟨s, hs, advance_turn hs hs'⟩)
  | fail _ applied text =>
    cases he
    simp only [World.step] at hs'
    split at hs'
    · exact .inl hs'
    · rename_i s hs
      exact .inr (.inr ⟨s, hs, onError_turn (proceed_goto (w := w) hs')⟩)
  | crash =>
    cases he
    simp [World.step] at hs'
  | screened _ v =>
    cases he
    simp only [World.step] at hs'
    split at hs'
    · rename_i c ev f hs
      refine .inr (.inr ⟨_, hs, ?_⟩)
      cases v <;> cases proceed_goto hs'
      · exact .passed
      · exact .blocks
    · exact .inl hs'
  | consumed _ fee feeGateway =>
    cases he
    simp only [World.step] at hs'
    split at hs'
    · rename_i reading i gateway hs
      have hn := proceed_goto hs'
      unfold Session.onConsumed at hn
      split at hn <;> cases hn
      exact .inr (.inr ⟨_, hs, .topup rfl⟩)
    · exact .inl hs'
  | ledger | upsertVendorGateway | tick => cases he

/-! ## The ledger -/

@[simp] theorem proceed_ledger (w : World) (sid : SessionID) (n : Next) :
    (w.proceed sid n).ledger = w.ledger := by
  cases n <;> rfl

@[simp] theorem start_ledger (w : World) (sid : SessionID) (first : Except Failure Session) :
    (w.start sid first).ledger = w.ledger := by
  rcases start_cases w sid first with heq | ⟨n, heq, -⟩ <;> rw [heq]
  exact proceed_ledger w sid n

/-- What happens at the ledger when `e` happens in `w`. -/
inductive LedgerMove (E : Env) (w : World) (e : Event) (L : Server Request PostError) : Prop
  | same (h : L = w.ledger)
  | sends {sid : SessionID} {id : UUID} {c : Caller} {ev : WebhookEvent} {f : Financials} {cmd : Command}
    (event : e = .advance sid id) (session : w.sessions sid = some (.post c ev f))
    (built : buildCommand E.text ev f = .ok cmd) (h : L = w.ledger.send ⟨ev, cmd⟩)
  | serves {i : ℕ} {v : Verdict PostError}
    (owned : v = .accept → ∃ c, w.ledger.calls[i]? = some c ∧ c.1.owned = true)
    (h : L = w.ledger.serve Request.key i v) (event : e = .ledger i v)

/-- **What one event does at the ledger.** -/
theorem step_ledger : LedgerMove E w e (w.step E e).ledger := by
  cases e with
  | callback | replay | createTopup | createMerchantTopup | getTopup => exact .same (start_ledger ..)
  | advance sid id =>
    simp only [World.step]
    split
    · exact .same rfl
    · rename_i s hs
      unfold World.advance
      split
      case h_1 c ev f =>
        split
        · exact .same (proceed_ledger ..)
        · rename_i cmd hcmd
          exact .sends rfl hs hcmd rfl
      case h_2 c ev i =>
        split
        · exact .same rfl
        · exact .same (proceed_ledger ..)
      case h_3 => exact .same (proceed_ledger ..)
  | fail sid applied text =>
    simp only [World.step]
    split
    · exact .same rfl
    · exact .same (proceed_ledger ..)
  | crash | upsertVendorGateway | tick => exact .same rfl
  | screened | consumed =>
    simp only [World.step]
    split
    · exact .same (proceed_ledger ..)
    · exact .same rfl
  | ledger i v =>
    simp only [World.step]
    split
    · exact .same rfl
    · rename_i hv
      refine .serves (fun hacc => ?_) rfl rfl
      have hown : w.ledger.calls[i]?.any (·.1.owned) = true := by simpa [hacc] using hv
      simpa [Option.any_eq_true] using hown

/-! ## Events in hand -/

/-- The event a session of `postAndFinalize` works on, or of a replay on its way there. -/
def Session.event? : Session → Option WebhookEvent
  | .route ev | .begin _ ev _ | .screen _ ev _ | .block _ ev _ | .post _ ev _ | .await _ ev _
  | .finalize _ ev | .settle _ ev | .reject _ ev _ => some ev
  | _ => none

theorem Session.event?_of_isTopup (h : s.isTopup = true) : s.event? = none := by
  cases s <;> first | rfl | cases h

/-- The two ways an event gets in hand: the statement of session `s` on the tables `db`
reads or inserts it. -/
inductive Enters (db : Db) : Session → WebhookEvent → Prop
  | replay {id : UUID} {ev : WebhookEvent} (loaded : db.get id = some ev) (open' : ev.status ≠ .posted) :
    Enters db (.load id) ev
  | callback {cb : Callback} {event stored : WebhookEvent} {gateway : String} {db' : Db}
    (settled : cb.status = "settled") (persisted : db.getOrInsert event = .ok (db', stored))
    (received : stored.status = .received) :
    Enters db (.persist cb event gateway "") stored

/-- **How a session comes to work on an event**: it did before, or it gets the event in hand. -/
theorem event_step (h : (w.step E e).sessions sid = some s') (hev : s'.event? = some ev) :
    (∃ s, w.sessions sid = some s ∧ s.event? = some ev) ∨
      ∃ s id, e = .advance sid id ∧ w.sessions sid = some s ∧ Enters w.db s ev := by
  rcases step_turn h with hs | hf | ⟨s, hs, ht⟩
  · exact .inl ⟨s', hs, hev⟩
  · cases hf <;> cases hev
  · cases ht with
    | stored he hp hrec hst =>
      cases hev
      exact .inr ⟨_, _, he, hs, .callback hst hp hrec⟩
    | loaded he hget hopen =>
      cases hev
      exact .inr ⟨_, _, he, hs, .replay hget hopen⟩
    | unmapped | mapped | found | matched | recorded => cases hev
    | topup ht => rw [Session.event?_of_isTopup ht] at hev; cases hev
    | _ => exact .inl ⟨_, hs, hev⟩

/-- A session works on the event, or a command for it was sent. -/
inductive InHand (w : World) (ev : WebhookEvent) : Prop
  | session {sid : SessionID} {s : Session} (h : w.sessions sid = some s) (hev : s.event? = some ev)
  | sent {c : Request × Option (Answer PostError)} (h : c ∈ w.ledger.calls) (hev : c.1.event = ev)

/-- **An event in hand was in hand before**, or the session that acts gets it in hand. -/
theorem inHand_step (h : InHand (w.step E e) ev) :
    InHand w ev ∨ ∃ sid s id, e = .advance sid id ∧ w.sessions sid = some s ∧ Enters w.db s ev := by
  cases h with
  | session h hev =>
    rcases event_step h hev with ⟨s, hs, hev⟩ | henters
    · exact .inl (.session hs hev)
    · exact .inr ⟨_, henters⟩
  | @sent c h hev =>
    cases step_ledger (E := E) (w := w) (e := e) with
    | same hL =>
      rw [hL] at h
      exact .inl (.sent h hev)
    | sends _ hs _ hL =>
      rw [hL] at h
      rcases List.mem_append.1 h with h | h
      · exact .inl (.sent h hev)
      · cases List.mem_singleton.1 h
        subst hev
        exact .inl (.session hs rfl)
    | serves _ hL =>
      rw [hL] at h
      obtain ⟨c', hc', heq, -⟩ := Server.mem_calls_serve h
      exact .inl (.sent hc' (heq ▸ hev))

end Seev.Payin
