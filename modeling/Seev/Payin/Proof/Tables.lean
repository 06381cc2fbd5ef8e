import Seev.Payin.Proof.Reported

/-!
# The tables in one step

What one event does to the rows of the events and of the intents, and the row that every
event in hand has.

* `step_db`: the six things that can happen to the tables in one step.
* `Rowed`: an event in hand has its row, with the reference and the owner it was read with.
* `Db.Keys`: the primary key of the events and their unique index.
-/

namespace Seev.Payin

open Lib
open Ledger (UUID)

variable {E : Env} {w : World} {e : Event} {db db' : Db} {now : ℕ} {s : Session} {ev ev' : WebhookEvent}

/-! ## The tables in one step -/

/-- Two rows are of one delivery of the vendor. -/
def SameEvent (a b : WebhookEvent) : Prop := a.vendor = b.vendor ∧ a.vendorEventID = b.vendorEventID

/-- The event a statement marks failed or blocked. -/
def Session.rejects? : Session → Option UUID
  | .record id _ _ => some id
  | .block _ ev _ | .reject _ ev _ => some ev.id
  | _ => none

/-- The reference of the intent a statement inserts. -/
def Session.inserts? : Session → Option String
  | .insertTopup i | .insertMerchantTopup i => some i.reference
  | _ => none

/-- The session whose statement takes effect when `e` happens in `w`. -/
def World.executing (w : World) : Event → Option Session
  | .advance sid _ | .fail sid true _ => w.sessions sid
  | _ => none

/-- What becomes of the tables `db` when the statement of `s` takes effect. -/
inductive DbMove (s : Option Session) (db : Db) : Db → Prop
  | same : DbMove s db db
  | inserts {r : EventRow} (received : r.1.status = .received)
    (new : ∀ x ∈ db.events, x.1.id ≠ r.1.id ∧ ¬SameEvent x.1 r.1) :
      DbMove s db { db with events := db.events ++ [r] }
  | posts {id : UUID} : DbMove s db (db.markPosted id)
  | rejects {id : UUID} {status : EventStatus} {msg : String} (event : s.bind Session.rejects? = some id) :
    DbMove s db (db.updateEvent id fun r => r.mark status msg)
  | insertsIntent {r : IntentRow} (reference : s.bind Session.inserts? = some r.1.reference) :
    DbMove s db { db with intents := db.intents ++ [r] }
  | updates {db' : Db} (events : db'.events = db.events)
    (intents : ∀ i ∈ db'.intents, ∃ j ∈ db.intents, j.1.reference = i.1.reference ∧
      (i.1.status = .pending → j.1.status = .pending)) : DbMove s db db'

theorem DbMove.refl_of_eq {o : Option Session} (h : db' = db) : DbMove o db db' := h ▸ .same

/-- An update of intents that settles or expires them, or leaves their status. -/
theorem updateIntents_move {o : Option Session} {cond : TopupIntent → Bool} {f : IntentRow → IntentRow}
    (hf : ∀ i ∈ db.intents, cond i.1 = true → ∃ j ∈ db.intents, j.1.reference = (f i).1.reference ∧
      ((f i).1.status = .pending → j.1.status = .pending)) : DbMove o db (db.updateIntents cond f) := by
  refine .updates rfl fun i hi => ?_
  obtain ⟨x, hx, rfl⟩ := List.mem_map.1 hi
  by_cases hcond : cond x.1 = true
  · rw [if_pos hcond]
    exact hf x hx hcond
  · rw [if_neg hcond]
    exact ⟨x, hx, rfl, id⟩

theorem getByVendorEventID_none {vendor vendorEventID : String}
    (h : db.getByVendorEventID vendor vendorEventID = none)
    {r : EventRow} (hr : r ∈ db.events) : ¬(r.1.vendor = vendor ∧ r.1.vendorEventID = vendorEventID) := by
  have := List.find?_eq_none.1 (Option.map_eq_none_iff.1 h) r hr
  simpa using this

/-- `GetOrInsert` leaves the tables or adds the row it returns. -/
theorem getOrInsert_move {o : Option Session} {event stored : WebhookEvent}
    (h : db.getOrInsert event = .ok (db', stored)) :
    DbMove o db db' ∧ ∃ r ∈ db'.events, r.1 = stored := by
  unfold Db.getOrInsert at h
  obtain ⟨-, h⟩ := guard_eq_ok.1 h
  obtain ⟨-, h⟩ := guard_eq_ok.1 h
  split at h
  case isFalse => cases h
  case isTrue hchecks =>
    split at h
    case h_1 existing hex =>
      cases h
      obtain ⟨r, hr, rfl⟩ := Option.map_eq_some_iff.1 hex
      exact ⟨.same, r, List.mem_of_find?_eq_some hr, (withDefaults_eq r.2).symm⟩
    case h_2 hnone =>
      obtain ⟨hid, h⟩ := guard_eq_ok.1 h
      cases h
      refine ⟨.inserts rfl fun x hx => ⟨fun heq => hid (List.any_eq_true.2 ⟨x, hx, decide_eq_true heq⟩), ?_⟩,
        ⟨_, hchecks⟩, List.mem_append_right _ (List.mem_singleton.2 rfl), rfl⟩
      exact getByVendorEventID_none hnone hx

theorem markRejected_move {n : Next} {id : UUID} {status : EventStatus} {reason : String}
    (hs : s.rejects? = some id) : DbMove (some s) db (s.update db n (db.markRejected id status reason)).1 := by
  unfold Db.markRejected
  split
  · exact .same
  · exact .rejects hs

theorem insertIntent_move {i : TopupIntent} (h : db.insertIntent i = .ok db')
    (hs : s.inserts? = some i.reference) :
    DbMove (some s) db db' := by
  unfold Db.insertIntent at h
  dsimp only at h
  split at h
  · cases h
  · split at h
    · split at h <;> cases h
      refine .insertsIntent (hs.trans (congrArg some ?_))
      exact (normalizeFinancials_reference i).symm
    · cases h

/-- **What a statement does to the tables.** -/
theorem exec_db (s : Session) (id : UUID) : DbMove (some s) db (s.exec E db now id).1 := by
  cases s with
  | lookupGateway | route =>
    simp only [Session.exec]
    split <;> exact .same
  | lookupIntent | matchIntent | screen | post | await | consumeQuote => exact .same
  | persist cb event gateway reason =>
    simp only [Session.exec]
    split
    · exact .same
    · rename_i db' stored hp
      exact (getOrInsert_move hp).1
  | record | block | reject => exact markRejected_move rfl
  | load | begin | recoverTopup | completeTopup | getTopup =>
    simp only [Session.exec]
    split
    · exact .same
    · split <;> exact .same
  | finalize c ev => exact .posts
  | settle | expireTopup =>
    simp only [Session.exec, Db.markTopupIntentSettled, Db.markTopupIntentExpired]
    refine updateIntents_move ?_
    exact fun i hi _ => ⟨i, hi, rfl, fun h => by cases h⟩
  | insertTopup intent =>
    simp only [Session.exec]
    cases h : db.insertTopupIntent intent with
    | error t => exact .same
    | ok db' =>
      unfold Db.insertTopupIntent at h
      exact insertIntent_move h rfl
  | insertMerchantTopup intent =>
    simp only [Session.exec]
    split
    · exact .same
    · rename_i db' stored h
      unfold Db.insertMerchantTopupIntent at h
      split at h
      · cases h
      · split at h
        · cases h
          exact .same
        · obtain ⟨db'', hi, heq⟩ := map_eq_ok.1 h
          cases heq
          exact insertIntent_move hi rfl
  | saveSnapshot reading intent fee feeGateway consumedAt =>
    simp only [Session.exec]
    cases h : db.updateTopupFeeSnapshot intent.id (intent.feeQuoteID.getD UUID.nil) fee (intent.amount + fee)
        feeGateway consumedAt with
    | error t => exact .same
    | ok db' =>
      unfold Db.updateTopupFeeSnapshot at h
      split at h
      · cases h
      · dsimp only at h
        split at h
        · cases h
        · rename_i r hr
          split at h <;> cases h
          simp only [Session.update]
          refine updateIntents_move ?_
          exact fun _ _ _ => ⟨r, List.mem_of_find?_eq_some hr, rfl, fun h => h⟩

@[simp] theorem proceed_db (w : World) (sid : SessionID) (n : Next) : (w.proceed sid n).db = w.db := by
  cases n <;> rfl

@[simp] theorem start_db (w : World) (sid : SessionID) (first : Except Failure Session) :
    (w.start sid first).db = w.db := by
  unfold World.start
  split
  · rfl
  · split <;> exact proceed_db ..

/-- **What one event does to the tables.** -/
theorem step_db : DbMove (w.executing e) w.db (w.step E e).db := by
  cases e with
  | advance sid id =>
    simp only [World.step, World.executing]
    cases hs : w.sessions sid with
    | none => exact .same
    | some s =>
      simp only
      unfold World.advance
      split
      case h_1 c ev f => split <;> exact .refl_of_eq (proceed_db ..)
      case h_2 c ev i =>
        split
        · exact .same
        · exact .refl_of_eq (proceed_db ..)
      case h_3 => exact exec_db s id
  | fail sid applied t =>
    simp only [World.step]
    cases hs : w.sessions sid with
    | none => exact .same
    | some s =>
      cases applied with
      | false => exact .same
      | true =>
        simp only [World.executing, hs]
        exact exec_db s UUID.nil
  | screened | consumed =>
    simp only [World.step]
    split
    · exact .refl_of_eq (proceed_db ..)
    · exact .same
  | ledger i v =>
    simp only [World.step]
    split <;> exact .same
  | crash | tick => exact .same
  | upsertVendorGateway => exact .updates rfl fun i hi => ⟨i, hi, rfl, id⟩
  | _ => exact .refl_of_eq (start_db ..)

theorem executing_session (h : w.executing e = some s) : ∃ sid, e.sid? = some sid ∧ w.sessions sid = some s := by
  cases e <;> try cases h
  case advance sid _ => exact ⟨sid, rfl, h⟩
  case fail sid applied _ =>
    cases applied
    · cases h
    · exact ⟨sid, rfl, h⟩

/-! ## The row of an event in hand -/

/-- The row of the event, with the vendor's id, the reference and the owner the event has. -/
def HasRow (db : Db) (ev : WebhookEvent) : Prop :=
  ∃ r ∈ db.events, r.1.id = ev.id ∧ SameEvent r.1 ev ∧ r.1.externalRef = ev.externalRef ∧ r.1.owned = ev.owned

/-- Every row is kept, up to its status and its message. -/
theorem DbMove.row {o : Option Session} (h : DbMove o db db') {r : EventRow} (hr : r ∈ db.events) :
    ∃ r' ∈ db'.events, r' = r ∨ ∃ status msg, r' = r.mark status msg := by
  have hupdate : ∀ id status (msg : EventRow → String),
      ∃ r' ∈ (db.updateEvent id fun r => r.mark status (msg r)).events, r' = r ∨
        ∃ status msg, r' = r.mark status msg := by
    intro id status msg
    refine ⟨_, List.mem_map_of_mem hr, ?_⟩
    split
    · exact .inr ⟨_, _, rfl⟩
    · exact .inl rfl
  cases h with
  | same | insertsIntent => exact ⟨r, hr, .inl rfl⟩
  | inserts => exact ⟨r, List.mem_append_left _ hr, .inl rfl⟩
  | posts => exact hupdate _ _ _
  | rejects => exact hupdate _ _ fun _ => _
  | updates hev => exact ⟨r, hev ▸ hr, .inl rfl⟩

theorem HasRow.step (h : HasRow w.db ev) : HasRow (w.step E e).db ev := by
  obtain ⟨r, hr, hrow⟩ := h
  obtain ⟨r', hr', rfl | ⟨status, msg, rfl⟩⟩ := (step_db (E := E) (e := e)).row hr
  · exact ⟨r', hr', hrow⟩
  · exact ⟨_, hr', hrow⟩

/-- Every event in hand has its row. -/
def Rowed (w : World) : Prop := ∀ ev, InHand w ev → HasRow w.db ev

theorem Rowed.step (h : Rowed w) (e : Event) : Rowed (w.step E e) := by
  intro ev hev
  rcases inHand_step hev with hev | ⟨sid, s, id, rfl, hs, hent⟩
  · exact (h ev hev).step
  · cases hent with
    | replay hget _ =>
      obtain ⟨r, hr, rfl⟩ := Option.map_eq_some_iff.1 hget
      rw [withDefaults_eq r.2]
      exact HasRow.step ⟨r, List.mem_of_find?_eq_some hr, rfl, ⟨rfl, rfl⟩, rfl, rfl⟩
    | @callback cb event stored gateway db' _ hp _ =>
      obtain ⟨r, hr, rfl⟩ := (getOrInsert_move (o := none) hp).2
      have hdb : (w.step E (.advance sid id)).db = db' := by
        simp [World.step, hs, World.advance, Session.exec, hp]
      exact ⟨r, hdb ▸ hr, rfl, ⟨rfl, rfl⟩, rfl, rfl⟩

/-- The primary key of the events and the unique index on the vendor and its id. -/
structure Db.Keys (db : Db) : Prop where
  ids : ∀ r ∈ db.events, ∀ r' ∈ db.events, r.1.id = r'.1.id → r = r'
  events : ∀ r ∈ db.events, ∀ r' ∈ db.events, SameEvent r.1 r'.1 → r = r'

theorem Db.Keys.of_nil (h : db.events = []) : db.Keys := by
  constructor <;> simp [h]

theorem Db.Keys.updateEvent (h : db.Keys) {id : UUID} {status : EventStatus} {msg : EventRow → String} :
    (db.updateEvent id fun r => r.mark status (msg r)).Keys := by
  have hkey : ∀ r : EventRow, (if r.1.id = id then r.mark status (msg r) else r).1.id = r.1.id ∧
      SameEvent (if r.1.id = id then r.mark status (msg r) else r).1 r.1 := by
    intro r
    split <;> exact ⟨rfl, rfl, rfl⟩
  constructor
  · rintro _ hr _ hr' heq
    obtain ⟨r, hmem, rfl⟩ := List.mem_map.1 hr
    obtain ⟨r', hmem', rfl⟩ := List.mem_map.1 hr'
    rw [(hkey r).1, (hkey r').1] at heq
    rw [h.ids r hmem r' hmem' heq]
  · rintro _ hr _ hr' ⟨hv, hi⟩
    obtain ⟨r, hmem, rfl⟩ := List.mem_map.1 hr
    obtain ⟨r', hmem', rfl⟩ := List.mem_map.1 hr'
    rw [(hkey r).2.1, (hkey r').2.1] at hv
    rw [(hkey r).2.2, (hkey r').2.2] at hi
    rw [h.events r hmem r' hmem' ⟨hv, hi⟩]

theorem Db.Keys.step (h : w.db.Keys) (e : Event) : (w.step E e).db.Keys := by
  generalize (w.step E e).db = db', step_db (E := E) (w := w) (e := e) = hmove
  cases hmove with
  | same => exact h
  | insertsIntent => exact ⟨h.ids, h.events⟩
  | @inserts r _ hnew =>
    constructor
    · intro x hx y hy heq
      rcases List.mem_append.1 hx with hx | hx <;> rcases List.mem_append.1 hy with hy | hy
      · exact h.ids x hx y hy heq
      · cases List.mem_singleton.1 hy
        exact absurd heq (hnew x hx).1
      · cases List.mem_singleton.1 hx
        exact absurd heq.symm (hnew y hy).1
      · rw [List.mem_singleton.1 hx, List.mem_singleton.1 hy]
    · intro x hx y hy heq
      rcases List.mem_append.1 hx with hx | hx <;> rcases List.mem_append.1 hy with hy | hy
      · exact h.events x hx y hy heq
      · cases List.mem_singleton.1 hy
        exact absurd heq (hnew x hx).2
      · cases List.mem_singleton.1 hx
        exact absurd ⟨heq.1.symm, heq.2.symm⟩ (hnew y hy).2
      · rw [List.mem_singleton.1 hx, List.mem_singleton.1 hy]
  | posts => exact h.updateEvent
  | rejects => exact h.updateEvent
  | updates hev => exact ⟨hev ▸ h.ids, hev ▸ h.events⟩

end Seev.Payin
