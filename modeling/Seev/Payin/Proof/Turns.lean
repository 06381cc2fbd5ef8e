import Seev.Payin.Proof.Tables

/-!
# One call at a time

A call that has sent its command still owes two updates: `MarkPosted` on the event and
`MarkTopupIntentSettled` on the intent. Both are made on a best effort, and every check of
payin (the status of the stored event, the status of the intent) is of what these updates
write. The checks tell what the ledger did when the calls under a reference take turns and
none of them ends between its send and its updates.

* `InTurn`: the condition on the runs.
* `Based`: what holds of rows and sessions without it.
-/

namespace Seev.Payin

open Lib
open Ledger (UUID)

variable {E : Env} {w : World} {e : Event} {db : Db} {sid sid' : SessionID} {s s' : Session} {ev : WebhookEvent}
  {cb : Callback} {ref : String} {i j : ℕ} {q : Request} {r r' : EventRow}

/-! ## The condition -/

/-- The callback a session handles until its row is stored. -/
def Session.callback? : Session → Option Callback
  | .lookupGateway cb _ | .lookupIntent cb .. | .matchIntent cb .. | .persist cb .. => some cb
  | _ => none

/-- The row of a callback that does not go on to the post. -/
def Session.records? : Session → Option UUID
  | .record id .. => some id
  | _ => none

/-- The session handles a callback, or works on an event, of the reference. -/
def Session.Under (db : Db) (ref : String) (s : Session) : Prop :=
  (∃ cb ∈ s.callback?, cb.externalReference = ref) ∨ (∃ ev ∈ s.event?, ev.externalRef = ref) ∨
    ∃ id ∈ s.records?, ∃ r ∈ db.events, r.1.id = id ∧ r.1.externalRef = ref

instance : Decidable (s.Under db ref) := inferInstanceAs (Decidable (_ ∨ _ ∨ _))

/-- The session that begins to work under a reference: a callback does from its start, a
replay from the load of its event. -/
def World.begins (w : World) : Event → Option (SessionID × String)
  | .callback sid cb => some (sid, cb.externalReference)
  | .advance sid _ =>
    match w.sessions sid with
    | some (.load id) => (w.db.get id).map fun ev => (sid, ev.externalRef)
    | _ => none
  | _ => none

/-- No other session begins under a reference that session `sid` works under. -/
def World.Clear (w : World) (sid : SessionID) (e : Event) : Prop :=
  ∀ x ∈ w.begins e, sid ≠ x.1 → ∀ s ∈ w.sessions sid, ¬s.Under w.db x.2

instance : Decidable (w.Clear sid e) := inferInstanceAs (Decidable (∀ x ∈ w.begins e, _))

/-- The session that is cut off, or whose statement fails. -/
def Event.cuts? : Event → Option SessionID
  | .crash sid | .fail sid .. => some sid
  | _ => none

/-- The session has sent its command and has not made its updates. -/
def Session.sent : Session → Bool
  | .await .. | .finalize .. | .settle .. => true
  | _ => false

/-- The event is marked failed or blocked. -/
def WebhookEvent.rejected (ev : WebhookEvent) : Prop := ev.status = .failed ∨ ev.status = .blocked

instance : Decidable ev.rejected := inferInstanceAs (Decidable (_ ∨ _))

/-- The row under the event id of a callback has the callback's reference. -/
def KeepsReference (db : Db) (cb : Callback) : Prop :=
  ∀ ev ∈ db.getByVendorEventID cb.vendor cb.vendorEventID, ev.externalRef = cb.externalReference

instance : Decidable (KeepsReference db cb) := inferInstanceAs (Decidable (∀ ev ∈ _, _))

/-- What a statement may count on: intents have references, and a new one gets a reference
of its own; an event id keeps its reference; and only an event that is neither failed nor
blocked is replayed, without another event of its reference. -/
def Session.Regular (db : Db) : Session → Prop
  | .lookupIntent cb _ _ => cb.externalReference = "" → db.getTopupIntentByReference "" = none
  | .persist cb _ _ _ => KeepsReference db cb
  | .load id =>
    ∀ ev ∈ db.get id, ev.owned = true → ev.externalRef ≠ "" ∧ ¬ev.rejected ∧
      ∀ r ∈ db.events, r.1.externalRef = ev.externalRef → r.1.id = ev.id
  | .insertTopup i | .insertMerchantTopup i => ∀ r ∈ db.events, r.1.externalRef ≠ i.reference
  | _ => True

instance : Decidable (s.Regular db) := by cases s <;> simp only [Session.Regular] <;> infer_instance

/-- No call is cut off between its send and its updates, and statements are regular. -/
def World.Steady (w : World) (e : Event) : Prop :=
  (∀ sid ∈ e.cuts?, ∀ s ∈ w.sessions sid, s.sent = false) ∧ ∀ s ∈ w.executing e, s.Regular w.db

instance : Decidable (w.Steady e) := inferInstanceAs (Decidable ((∀ sid ∈ _, ∀ s ∈ _, _) ∧ ∀ s ∈ _, _))

/-- The calls under a reference run one after the other, and none loses its updates. -/
def InTurn (w : World) (e : Event) : Prop := (∀ sid, w.Clear sid e) ∧ w.Steady e

/-- The condition, checked on the sessions that are used. -/
theorem InTurn.along {now : ℕ} {es : List Event} (sids : List SessionID)
    (h : Along (World.step E)
      (fun w e => ((∀ sid ∈ e.sid?, sid ∈ sids) ∧ ∀ sid ∈ sids, w.Clear sid e) ∧ w.Steady e)
      (.idle db now) es) : Along (World.step E) InTurn (.idle db now) es := by
  refine Along.of_inv (I := fun w => ∀ sid ∉ sids, w.sessions sid = none) (fun w e hI hC sid hsid => ?_)
    (fun w e hI hC => ⟨fun sid => ?_, hC.2⟩) (fun _ _ => rfl) h
  · exact (step_frame fun heq => hsid (hC.1.1 sid heq)).trans (hI sid hsid)
  · by_cases hsid : sid ∈ sids
    · exact hC.1.2 sid hsid
    · intro _ _ _ s hs
      cases (hI sid hsid).symm.trans hs

/-! ## Sessions -/

/-- The reference under which a session is to send a command. -/
def Session.aims : Session → Option String
  | .matchIntent cb _ _ (some i) => if i.status = .pending then some cb.externalReference else none
  | .persist cb _ _ reason => if reason = "" then some cb.externalReference else none
  | .route ev | .begin _ ev _ | .screen _ ev _ | .post _ ev _ => if ev.owned then some ev.externalRef else none
  | _ => none

theorem Session.isTopup_none (h : s.isTopup = true) :
    s.callback? = none ∧ s.records? = none ∧ s.rejects? = none ∧ s.aims = none := by
  cases s <;> first | exact ⟨rfl, rfl, rfl, rfl⟩ | cases h

/-! ## Rows -/

/-- What holds of rows and sessions in every run. -/
structure Based (E : Env) (w : World) : Prop where
  sound : Sound E w
  correlated : Correlated E w
  rowed : Rowed w
  keys : w.db.Keys
  recorded : ∀ sid s, w.sessions sid = some s → ∀ id ∈ s.records?, ∃ r ∈ w.db.events, r.1.id = id

theorem Based.idle (E : Env) {db : Db} (h : db.Keys) (now : ℕ) : Based E (.idle db now) where
  sound := .idle E db now
  correlated sid s hs := by simp [World.idle] at hs
  rowed ev hev := by
    cases hev with
    | session hs _ => simp [World.idle] at hs
    | sent hs _ => simp [World.idle, Server.empty] at hs
  keys := h
  recorded sid s hs := by simp [World.idle] at hs

/-- The row a callback stored or found, after its statement. -/
theorem persist_row {event stored : WebhookEvent} {gateway reason : String} {db' : Db} {n : UUID}
    (hs : w.sessions sid = some (.persist cb event gateway reason))
    (hp : w.db.getOrInsert event = .ok (db', stored)) :
    ∃ r ∈ (w.step E (.advance sid n)).db.events, r.1 = stored := by
  have hdb : (w.step E (.advance sid n)).db = db' := by simp [World.step, hs, World.advance, Session.exec, hp]
  exact hdb ▸ (getOrInsert_move (o := none) hp).2

/-- Where the record of a callback comes from. -/
theorem records_step {id : UUID} (hs' : (w.step E e).sessions sid = some s') (hid : s'.records? = some id) :
    w.sessions sid = some s' ∨
      ∃ n cb event gateway reason db' stored, e = .advance sid n ∧
        w.sessions sid = some (.persist cb event gateway reason) ∧ w.db.getOrInsert event = .ok (db', stored) ∧
        stored.id = id ∧ stored.status = .received := by
  rcases step_turn hs' with h | hf | ⟨s, hs, ht⟩
  · exact .inl h
  · cases hf <;> cases hid
  · cases ht with
    | waits => exact .inl hs
    | recorded he hp hrec =>
      cases hid
      exact .inr ⟨_, _, _, _, _, _, _, he, hs, hp, rfl, hrec⟩
    | topup h => rw [(Session.isTopup_none h).2.1] at hid; cases hid
    | _ => cases hid

theorem Based.step (h : Based E w) (e : Event) : Based E (w.step E e) where
  sound := h.sound.step e
  correlated := h.correlated.step e
  rowed := h.rowed.step e
  keys := h.keys.step e
  recorded sid s' hs' id hid := by
    rcases records_step hs' hid with hs | ⟨n, cb, event, gateway, reason, db', stored, rfl, hs, hp, rfl, -⟩
    · obtain ⟨r, hr, hrid⟩ := h.recorded sid s' hs id hid
      obtain ⟨r', hr', rfl | ⟨status, msg, rfl⟩⟩ := (step_db (E := E) (e := e)).row hr
      · exact ⟨r', hr', hrid⟩
      · exact ⟨_, hr', hrid⟩
    · obtain ⟨r, hr, rfl⟩ := persist_row hs hp
      exact ⟨r, hr, rfl⟩

end Seev.Payin
