import Seev.Payin.Proof.Turns

/-!
# What the checks tell when calls take turns

A command that was not refused *stands*. While the calls under a reference take turns, a
standing command has a session that still owes its updates, or its event is marked posted
and its intent is no longer pending (`Orderly.tracked`). So a callback that reads a pending
intent, and a replay of an event that is not posted, finds none under its reference, and
what is marked failed or blocked has none.
-/

namespace Seev.Payin

open Lib
open Ledger (UUID)

variable {E : Env} {w : World} {e : Event} {db : Db} {sid sid' : SessionID} {s s' : Session} {ev : WebhookEvent}
  {cb : Callback} {ref : String} {i j : ℕ} {q : Request} {r r' : EventRow}

theorem Session.Under.of_event (h : s.event? = some ev) : s.Under db ev.externalRef := .inr (.inl ⟨ev, h, rfl⟩)

theorem Session.Regular.inserts (h : s.Regular db) (hins : s.inserts? = some ref) :
    ∀ r ∈ db.events, r.1.externalRef ≠ ref := by
  cases s <;> cases hins <;> exact h

theorem rejects_cases {id : UUID} (h : s.rejects? = some id) :
    s.records? = some id ∨ ∃ ev, s.event? = some ev ∧ ev.id = id := by
  cases s <;> cases h
  · exact .inl rfl
  · exact .inr ⟨_, rfl, rfl⟩
  · exact .inr ⟨_, rfl, rfl⟩

/-! ## Rows of events -/

section Rows

variable (hb : Based E w)
include hb

/-- A row and its later version are of one event. -/
theorem Based.later_row (hr : r ∈ w.db.events) (hr' : r' ∈ (w.step E e).db.events)
    (h : r'.1.id = r.1.id ∨ SameEvent r'.1 r.1) : r' = r ∨ ∃ status msg, r' = r.mark status msg := by
  obtain ⟨r₁, hr₁, hlater⟩ := (step_db (E := E) (e := e)).row hr
  have hkeys := hb.keys.step (E := E) e
  have hsame : r₁.1.id = r.1.id ∧ SameEvent r₁.1 r.1 := by
    rcases hlater with rfl | ⟨status, msg, rfl⟩ <;> exact ⟨rfl, rfl, rfl⟩
  obtain rfl : r' = r₁ := by
    rcases h with h | h
    · exact hkeys.ids _ hr' _ hr₁ (h.trans hsame.1.symm)
    · exact hkeys.events _ hr' _ hr₁ ⟨h.1.trans hsame.2.1.symm, h.2.trans hsame.2.2.symm⟩
  exact hlater

/-- The row of an event in hand. -/
theorem Based.row_eq (hev : InHand w ev) (hr : r ∈ w.db.events) (h : r.1.id = ev.id ∨ SameEvent r.1 ev) :
    r.1.id = ev.id ∧ SameEvent r.1 ev ∧ r.1.externalRef = ev.externalRef ∧ r.1.owned = ev.owned := by
  obtain ⟨r₁, hr₁, hid, hsame, hrest⟩ := hb.rowed ev hev
  obtain rfl : r = r₁ := by
    rcases h with h | h
    · exact hb.keys.ids _ hr _ hr₁ (h.trans hid.symm)
    · exact hb.keys.events _ hr _ hr₁ ⟨h.1.trans hsame.1.symm, h.2.trans hsame.2.symm⟩
  exact ⟨hid, hsame, hrest⟩

/-- The row of a callback is under the callback's reference. -/
theorem Based.stored_ref {event stored : WebhookEvent} {gateway reason : String} {db' : Db}
    (hs : w.sessions sid = some (.persist cb event gateway reason)) (hkeeps : KeepsReference w.db cb)
    (hp : w.db.getOrInsert event = .ok (db', stored)) : cb.externalReference = stored.externalRef := by
  obtain ⟨hcv, hci, hcr, -⟩ := hb.correlated sid _ hs
  obtain ⟨-, -, -, hrow | hrow⟩ := getOrInsert_ok hp
  · rw [hcv, hci] at hrow
    exact (hkeeps stored hrow).symm
  · exact hcr.symm.trans hrow.1.symm

/-- **A session works under the reference it began with.** -/
theorem under_step (hc : w.Steady e) (hs' : (w.step E e).sessions sid = some s')
    (h : s'.Under (w.step E e).db ref) :
    (∃ s, w.sessions sid = some s ∧ s.Under w.db ref) ∨ w.begins e = some (sid, ref) := by
  rcases h with ⟨cb, hcb, rfl⟩ | ⟨ev, hev, rfl⟩ | ⟨id, hid, r, hr, rfl, rfl⟩
  · rcases step_turn hs' with h | hf | ⟨s, hs, ht⟩
    · exact .inl ⟨s', h, .inl ⟨cb, hcb, rfl⟩⟩
    · cases hf with
      | callback he =>
        cases hcb
        exact .inr (by rw [he]; rfl)
      | _ => cases hcb
    · cases ht with
      | waits | unmapped | mapped | found | matched => exact .inl ⟨_, hs, .inl ⟨cb, hcb, rfl⟩⟩
      | topup h => rw [(Session.isTopup_none h).1] at hcb; cases hcb
      | _ => cases hcb
  · rcases event_step hs' hev with ⟨s, hs, hev⟩ | ⟨s, n, rfl, hs, hent⟩
    · exact .inl ⟨s, hs, .inr (.inl ⟨ev, hev, rfl⟩)⟩
    · cases hent with
      | replay hget => exact .inr (by simp [World.begins, hs, hget])
      | callback _ hp => exact .inl ⟨_, hs, .inl ⟨_, rfl, hb.stored_ref hs (hc.2 _ hs) hp⟩⟩
  · rcases records_step hs' hid with hs | ⟨n, cb, event, gateway, reason, db', stored, rfl, hs, hp, hsid, -⟩
    · obtain ⟨r₀, hr₀, hid₀⟩ := hb.recorded sid s' hs _ hid
      refine .inl ⟨s', hs, .inr (.inr ⟨_, hid, r₀, hr₀, hid₀, ?_⟩)⟩
      rcases hb.later_row hr₀ hr (.inl hid₀.symm) with rfl | ⟨status, msg, rfl⟩ <;> rfl
    · obtain ⟨r₁, hr₁, rfl⟩ := persist_row (E := E) (n := n) hs hp
      obtain rfl := (hb.keys.step _).ids _ hr₁ _ hr hsid
      exact .inl ⟨_, hs, .inl ⟨cb, rfl, hb.stored_ref hs (hc.2 _ hs) hp⟩⟩

/-- The row a session is to mark. -/
theorem Based.rejects_row {id : UUID} (hs : w.sessions sid = some s) (hid : s.rejects? = some id) :
    ∃ r ∈ w.db.events, r.1.id = id := by
  rcases rejects_cases hid with hrec | ⟨ev, hev, rfl⟩
  · exact hb.recorded sid s hs id hrec
  · obtain ⟨r, hr, hrid, -⟩ := hb.rowed ev (.session hs hev)
    exact ⟨r, hr, hrid⟩

theorem Based.rejects_under (hs : w.sessions sid = some s) (hid : s.rejects? = some r.1.id)
    (hr : r ∈ w.db.events) :
    s.Under w.db r.1.externalRef := by
  rcases rejects_cases hid with hrec | ⟨ev, hev, heq⟩
  · exact .inr (.inr ⟨_, hrec, r, hr, rfl, rfl⟩)
  · rw [(hb.row_eq (.session hs hev) hr (.inl heq.symm)).2.2.1]
    exact .of_event hev

end Rows

/-- A row that is failed or blocked after the event was before, or is marked by it. -/
theorem rejected_step (hr' : r' ∈ (w.step E e).db.events) (hrej : r'.1.rejected) :
    ∃ r ∈ w.db.events, (r' = r ∨ ∃ status msg, r' = r.mark status msg) ∧
      (r.1.rejected ∨ (w.executing e).bind Session.rejects? = some r.1.id) := by
  generalize (w.step E e).db = db', step_db (E := E) (w := w) (e := e) = hmove at hr'
  cases hmove with
  | same | insertsIntent => exact ⟨r', hr', .inl rfl, .inl hrej⟩
  | updates hev => exact ⟨r', hev ▸ hr', .inl rfl, .inl hrej⟩
  | inserts hrec =>
    rcases List.mem_append.1 hr' with hr' | hr'
    · exact ⟨r', hr', .inl rfl, .inl hrej⟩
    · rw [List.mem_singleton.1 hr', WebhookEvent.rejected, hrec] at hrej
      simp at hrej
  | @posts id =>
    obtain ⟨r, hr, rfl⟩ := List.mem_map.1 hr'
    by_cases hid : r.1.id = id
    · rw [if_pos hid] at hrej
      simp [WebhookEvent.rejected, EventRow.mark] at hrej
    · rw [if_neg hid] at hrej ⊢
      exact ⟨r, hr, .inl rfl, .inl hrej⟩
  | @rejects id status msg hev =>
    obtain ⟨r, hr, rfl⟩ := List.mem_map.1 hr'
    by_cases hid : r.1.id = id
    · rw [if_pos hid]
      exact ⟨r, hr, .inr ⟨_, _, rfl⟩, .inr (hid ▸ hev)⟩
    · rw [if_neg hid] at hrej ⊢
      exact ⟨r, hr, .inl rfl, .inl hrej⟩

/-- A posted row stays so, unless it is marked failed or blocked. -/
theorem posted_step (hr : r ∈ w.db.events) (hposted : r.1.status = .posted) :
    (∃ r' ∈ (w.step E e).db.events, r'.1.id = r.1.id ∧ r'.1.status = .posted) ∨
      (w.executing e).bind Session.rejects? = some r.1.id := by
  generalize (w.step E e).db = db', step_db (E := E) (w := w) (e := e) = hmove
  cases hmove with
  | same | insertsIntent => exact .inl ⟨r, hr, rfl, hposted⟩
  | updates hev => exact .inl ⟨r, hev ▸ hr, rfl, hposted⟩
  | inserts => exact .inl ⟨r, List.mem_append_left _ hr, rfl, hposted⟩
  | posts =>
    refine .inl ⟨_, List.mem_map_of_mem hr, ?_⟩
    split
    · exact ⟨rfl, rfl⟩
    · exact ⟨rfl, hposted⟩
  | @rejects id status msg hev =>
    by_cases hid : r.1.id = id
    · exact .inr (hid ▸ hev)
    · exact .inl ⟨r, List.mem_map.2 ⟨r, hr, if_neg hid⟩, rfl, hposted⟩

/-! ## Commands that stand -/

/-- Command `i` is for an event with an owner, and was not refused. -/
def World.Stands (w : World) (i : ℕ) (q : Request) : Prop :=
  (∃ a, w.ledger.calls[i]? = some (q, a) ∧ Server.refused (q, a) = false) ∧ q.event.owned = true

theorem World.Stands.inHand (h : w.Stands i q) : InHand w q.event := by
  obtain ⟨⟨a, hi, -⟩, -⟩ := h
  exact .sent (List.mem_of_getElem? hi) rfl

/-- A command that stands after the event stood before it, or a session sends it. -/
theorem stands_step (h : (w.step E e).Stands i q) :
    w.Stands i q ∨ ∃ sid n c f, e = .advance sid n ∧ w.sessions sid = some (.post c q.event f) ∧
      i = w.ledger.calls.length ∧ (w.step E e).sessions sid = some (.await c q.event i) := by
  obtain ⟨⟨a, hi, hr⟩, hown⟩ := h
  cases step_ledger (E := E) (w := w) (e := e) with
  | same hL => exact .inl ⟨⟨a, hL ▸ hi, hr⟩, hown⟩
  | serves _ hL =>
    obtain ⟨⟨q', a'⟩, hi', rfl, hstands⟩ := Server.call_serve (hL ▸ hi)
    exact .inl ⟨⟨a', hi', hstands hr⟩, hown⟩
  | @sends sid n c ev f cmd he hs hcmd hL =>
    have hi : (w.ledger.send ⟨ev, cmd⟩).calls[i]? = some (q, a) := hL ▸ hi
    rcases slot_of_concat hi with hi | ⟨rfl, heq⟩
    · exact .inl ⟨⟨a, hi, hr⟩, hown⟩
    · cases heq
      refine .inr ⟨sid, n, c, f, he, hs, rfl, ?_⟩
      simp [World.step, he, hs, World.advance, hcmd, World.proceed]

/-- No command for the event stands. -/
def World.Unposted (w : World) (ev : WebhookEvent) : Prop := ∀ i q, w.Stands i q → ¬SameEvent ev q.event

/-- The updates for the command were made. -/
structure Done (w : World) (q : Request) : Prop where
  posted : ∃ r ∈ w.db.events, r.1.id = q.event.id ∧ r.1.status = .posted
  settled : ∀ i ∈ w.db.intents, i.1.reference = q.event.externalRef → i.1.status ≠ .pending

/-- The session still owes updates for command `i`. -/
inductive Owes (w : World) (i : ℕ) (q : Request) : Session → Prop
  | await {c : Caller} : Owes w i q (.await c q.event i)
  | finalize {c : Caller} : Owes w i q (.finalize c q.event)
  | settle {c : Caller} (posted : ∃ r ∈ w.db.events, r.1.id = q.event.id ∧ r.1.status = .posted) :
    Owes w i q (.settle c q.event)

/-- What holds of every state while calls take turns. -/
structure Orderly (w : World) : Prop where
  apart : ∀ sid sid' s s', sid ≠ sid' → w.sessions sid = some s → w.sessions sid' = some s' →
    ∀ ref, s.Under w.db ref → ¬s'.Under w.db ref
  clear : ∀ sid s, w.sessions sid = some s → ∀ ref ∈ s.aims,
    ref ≠ "" ∧ ∀ i q, w.Stands i q → q.event.externalRef ≠ ref
  awaits : ∀ sid c ev i, w.sessions sid = some (.await c ev i) → ev.owned = true →
    ∀ j q, w.Stands j q → q.event.externalRef = ev.externalRef → j = i
  open' : ∀ sid s, w.sessions sid = some s → s.aims.isSome = true → ∀ ev ∈ s.event?,
    ∀ r ∈ w.db.events, r.1.id = ev.id → ¬r.1.rejected
  marks : ∀ sid s, w.sessions sid = some s → ∀ id ∈ s.rejects?, ∀ r ∈ w.db.events, r.1.id = id → w.Unposted r.1
  named : ∀ i q, w.Stands i q → q.event.externalRef ≠ ""
  one : ∀ i q j q', w.Stands i q → w.Stands j q' → q.event.externalRef = q'.event.externalRef → i = j
  tracked : ∀ i q, w.Stands i q → (∃ sid s, w.sessions sid = some s ∧ Owes w i q s) ∨ Done w q
  truth : ∀ r ∈ w.db.events, r.1.rejected → w.Unposted r.1

theorem stands_idle {db : Db} {now : ℕ} : ¬(World.idle db now).Stands i q := by
  simp [World.Stands, World.idle, Server.empty]

theorem Orderly.idle (db : Db) (now : ℕ) : Orderly (.idle db now) where
  apart sid sid' s s' _ hs := by simp [World.idle] at hs
  clear sid s hs := by simp [World.idle] at hs
  awaits sid c ev i hs := by simp [World.idle] at hs
  open' sid s hs := by simp [World.idle] at hs
  marks sid s hs := by simp [World.idle] at hs
  named i q hq := absurd hq stands_idle
  one i q j q' hq := absurd hq stands_idle
  tracked i q hq := absurd hq stands_idle
  truth r _ _ i q hq := absurd hq stands_idle

theorem Session.Under.of_aims (h : s.aims = some ref) : s.Under db ref := by
  unfold Session.aims at h
  split at h <;> simp only [Option.ite_none_right_eq_some, Option.some.injEq, reduceCtorEq] at h
  case h_1 | h_2 => exact .inl ⟨_, rfl, h.2⟩
  all_goals exact .inr (.inl ⟨_, rfl, h.2⟩)

theorem Owes.event (h : Owes w i q s) : s.event? = some q.event ∧ s.sent = true := by
  cases h <;> exact ⟨rfl, rfl⟩

section Step

variable (hb : Based E w) (hc : InTurn w e) (h : Orderly w)

include h in
/-- A command under the reference of a session that has sent none is done with. -/
theorem Orderly.done (hs : w.sessions sid = some s) (hsent : s.sent = false) (hq : w.Stands i q)
    (hu : s.Under w.db q.event.externalRef) : Done w q := by
  rcases h.tracked i q hq with ⟨sid', s', hs', ho⟩ | hdone
  · refine absurd (Session.Under.of_event ho.event.1) (h.apart sid sid' s s' ?_ hs hs' _ hu)
    rintro rfl
    cases hs.symm.trans hs'
    rw [ho.event.2] at hsent
    cases hsent
  · exact hdone

include hb hc h

/-- No other session works under the reference of a session. -/
theorem Orderly.others {s₁ : Session} (hne : sid ≠ sid') (hs' : (w.step E e).sessions sid = some s')
    (hu : s'.Under (w.step E e).db ref) (h₁ : w.sessions sid' = some s₁) : ¬s₁.Under w.db ref := by
  rcases under_step hb hc.2 hs' hu with ⟨s, hs, hu⟩ | hbegins
  · exact h.apart sid sid' s s₁ hne hs h₁ ref hu
  · exact hc.1 sid' _ hbegins hne.symm s₁ h₁

theorem Orderly.apart_step {s₁ s₂ : Session} (hne : sid ≠ sid') (h₁ : (w.step E e).sessions sid = some s₁)
    (h₂ : (w.step E e).sessions sid' = some s₂) (hu₁ : s₁.Under (w.step E e).db ref) :
    ¬s₂.Under (w.step E e).db ref := by
  intro hu₂
  rcases under_step hb hc.2 h₁ hu₁ with ⟨s, hs, hu⟩ | hbegins
  · exact h.others hb hc hne.symm h₂ hu₂ hs hu
  · rcases under_step hb hc.2 h₂ hu₂ with ⟨s', hs', hu'⟩ | hbegins'
    · exact h.others hb hc hne h₁ hu₁ hs' hu'
    · cases hbegins.symm.trans hbegins'
      exact hne rfl

/-- A command under the reference of a session that has not just sent it stood before. -/
theorem Orderly.stood (hs' : (w.step E e).sessions sid = some s')
    (hu : s'.Under (w.step E e).db q.event.externalRef)
    (hq : (w.step E e).Stands i q) (hawait : ∀ c, s' ≠ .await c q.event i) : w.Stands i q := by
  rcases stands_step hq with hq | ⟨sid₁, n, c, f, -, -, -, hs₁⟩
  · exact hq
  · by_cases hsid : sid₁ = sid
    · subst hsid
      cases hs'.symm.trans hs₁
      exact absurd rfl (hawait c)
    · exact absurd hu (h.apart_step hb hc hsid hs₁ hs' (.of_event rfl))

/-- A session that is to send finds no command under its reference. -/
theorem Orderly.clear_before (hs' : (w.step E e).sessions sid = some s') (ha : s'.aims = some ref) :
    ref ≠ "" ∧ ∀ i q, w.Stands i q → q.event.externalRef ≠ ref := by
  rcases step_turn hs' with hs | hf | ⟨s, hs, ht⟩
  · exact h.clear sid s' hs ref ha
  · cases hf <;> cases ha
  · cases ht with
    | waits => exact h.clear sid _ hs ref ha
    | unmapped => simp [Session.aims] at ha
    | @found cb amount gateway n he =>
      subst he
      cases hget : w.db.getTopupIntentByReference cb.externalReference with
      | none => simp [Session.aims, hget] at ha
      | some intent =>
        simp only [Session.aims, hget, Option.ite_none_right_eq_some, Option.some.injEq] at ha
        obtain ⟨hpending, rfl⟩ := ha
        refine ⟨fun hnil => ?_, fun i q hq href => ?_⟩
        · rw [hnil, hc.2.2 _ hs hnil] at hget
          cases hget
        · -- the intent that was read is pending, so no update was made
          obtain ⟨row, hrow, rfl⟩ := Option.map_eq_some_iff.1 hget
          rw [normalizeFinancials_status] at hpending
          have hrowref : row.1.reference = cb.externalReference := by simpa using List.find?_some hrow
          exact (h.done hs rfl hq (.inl ⟨cb, rfl, href.symm⟩)).settled row (List.mem_of_find?_eq_some hrow)
            (hrowref.trans href.symm) hpending
    | @matched cb amount gateway intent n =>
      simp only [Session.aims, Option.ite_none_right_eq_some, Option.some.injEq] at ha
      obtain ⟨i, rfl, hmatch⟩ := (correlate_ok w.now n cb amount intent).2.2.2 ha.1
      have hpending := (unmatchedReason_eq_empty hmatch).2.1
      rw [normalizeFinancials_status] at hpending
      exact h.clear sid _ hs ref (by simp [Session.aims, hpending, ha.2])
    | stored he hp =>
      subst he
      simp only [Session.aims, Option.ite_none_right_eq_some, Option.some.injEq] at ha
      rw [← hb.stored_ref hs (hc.2.2 _ hs) hp] at ha
      exact h.clear sid _ hs ref (by simp [Session.aims, ha.2])
    | @loaded id ev n he hget hopen =>
      subst he
      simp only [Session.aims, Option.ite_none_right_eq_some, Option.some.injEq] at ha
      obtain ⟨hown, rfl⟩ := ha
      obtain ⟨hnil, -, hrivals⟩ := hc.2.2 _ hs ev hget hown
      refine ⟨hnil, fun i q hq href => ?_⟩
      -- the only event of the reference is the one that is replayed, and it is not posted
      obtain ⟨r, hr, hid, -, hrref, -⟩ := hb.rowed _ hq.inHand
      obtain ⟨r₁, hr₁, rfl⟩ := Option.map_eq_some_iff.1 hget
      rw [withDefaults_eq r₁.2] at hopen href hrivals
      have hbegins : w.begins (.advance sid n) = some (sid, q.event.externalRef) := by
        simp [World.begins, hs, hget, withDefaults_eq r₁.2, href]
      have hdone : Done w q := by
        rcases h.tracked i q hq with ⟨sid₁, s₁, hs₁, ho⟩ | hdone
        · refine absurd (Session.Under.of_event ho.event.1) (hc.1 sid₁ _ hbegins ?_ s₁ hs₁)
          rintro rfl
          cases hs.symm.trans hs₁
          cases ho
        · exact hdone
      obtain ⟨r₂, hr₂, hid₂, hposted⟩ := hdone.posted
      have heq : r₂ = r₁ := hb.keys.ids _ hr₂ _ (List.mem_of_find?_eq_some hr₁)
        (hid₂.trans (hid.symm.trans (hrivals r hr (hrref.trans href))))
      exact hopen (heq ▸ hposted)
    | routed | screens | unscreened | passed => exact h.clear sid _ hs ref ha
    | topup h => rw [(Session.isTopup_none h).2.2.2] at ha; cases ha
    | _ => cases ha

theorem Orderly.clear_step (hs' : (w.step E e).sessions sid = some s') (ha : s'.aims = some ref) :
    ref ≠ "" ∧ ∀ i q, (w.step E e).Stands i q → q.event.externalRef ≠ ref := by
  obtain ⟨hnil, hclear⟩ := h.clear_before hb hc hs' ha
  refine ⟨hnil, fun i q hq href => hclear i q (h.stood hb hc hs' (href ▸ .of_aims ha) hq ?_) href⟩
  rintro c rfl
  cases ha

theorem Orderly.awaits_step {c : Caller} (hs' : (w.step E e).sessions sid = some (.await c ev i))
    (hown : ev.owned = true) (hq : (w.step E e).Stands j q) (href : q.event.externalRef = ev.externalRef) :
      j = i := by
  by_contra hne
  have hq : w.Stands j q := h.stood hb hc hs' (href ▸ .of_event rfl) hq (by rintro _ ⟨⟩; exact hne rfl)
  rcases step_turn hs' with hs | hf | ⟨s, hs, ht⟩
  · exact hne (h.awaits sid c ev i hs hown j q hq href)
  · cases hf
  · cases ht with
    | waits => exact hne (h.awaits sid c ev i hs hown j q hq href)
    | sends => exact (h.clear sid _ hs _ (by simp [Session.aims, hown])).2 j q hq href
    | topup ht => cases ht

omit hc h in
/-- The event of a session and a command are of one row. -/
theorem Based.same_row (hev : InHand w ev) (hq : w.Stands i q) (hr' : r' ∈ (w.step E e).db.events)
    (hid : r'.1.id = ev.id) (hsame : SameEvent r'.1 q.event) :
    q.event.externalRef = ev.externalRef ∧ ev.owned = true := by
  obtain ⟨r, hr, hrid, -⟩ := hb.rowed ev hev
  have hsame : SameEvent r.1 q.event := by
    rcases hb.later_row hr hr' (.inl (hid.trans hrid.symm)) with rfl | ⟨status, msg, rfl⟩ <;> exact hsame
  obtain ⟨-, -, href, hown⟩ := hb.row_eq hev hr (.inl hrid)
  obtain ⟨-, -, hqref, hqown⟩ := hb.row_eq hq.inHand hr (.inr hsame)
  exact ⟨hqref.symm.trans href, hown.symm.trans (hqown.trans hq.2)⟩

/-- No command stands for an event that is to be marked failed or blocked. -/
theorem Orderly.marks_before {id : UUID} (hs' : (w.step E e).sessions sid = some s') (hid : s'.rejects? = some id)
    (hr' : r' ∈ (w.step E e).db.events) (hrid : r'.1.id = id) (hq : w.Stands i q) : ¬SameEvent r'.1 q.event := by
  intro hsame
  have hstays : w.sessions sid = some s' → False := fun hs => by
    obtain ⟨r, hr, hrid₀⟩ := hb.rejects_row hs hid
    refine h.marks sid s' hs id hid r hr hrid₀ i q hq ?_
    rcases hb.later_row hr hr' (.inl (hrid.trans hrid₀.symm)) with rfl | ⟨status, msg, rfl⟩ <;> exact hsame
  rcases step_turn hs' with hs | hf | ⟨s, hs, ht⟩
  · exact hstays hs
  · cases hf <;> cases hid
  · cases ht with
    | waits => exact hstays hs
    | @recorded cb event stored gateway reason text db' n outcome he hp hrec =>
      subst he
      cases hid
      -- the row was received, and a command for it would have marked it posted
      obtain ⟨r₁, hr₁, rfl⟩ := persist_row (E := E) (n := n) hs hp
      obtain rfl := (hb.keys.step _).ids _ hr' _ hr₁ hrid
      obtain ⟨r₀, hr₀, hid₀, hsame₀, href₀, -⟩ := hb.rowed _ hq.inHand
      have hlater := hb.later_row hr₀ hr' (.inr ⟨hsame.1.trans hsame₀.1.symm, hsame.2.trans hsame₀.2.symm⟩)
      have hkept : r'.1.id = r₀.1.id ∧ r'.1.externalRef = r₀.1.externalRef := by
        rcases hlater with rfl | ⟨status, msg, rfl⟩ <;> exact ⟨rfl, rfl⟩
      have href := (hb.stored_ref hs (hc.2.2 _ hs) hp).trans (hkept.2.trans href₀)
      obtain ⟨r₂, hr₂, hid₂, hposted⟩ := (h.done hs rfl hq (.inl ⟨cb, rfl, href⟩)).posted
      rcases posted_step (E := E) (e := .advance sid n) hr₂ hposted with ⟨r₃, hr₃, hid₃, hposted₃⟩ | hrejects
      · have heq := (hb.keys.step _).ids _ hr₃ _ hr' (hid₃.trans (hid₂.trans (hid₀.symm.trans hkept.1.symm)))
        rw [heq, hrec] at hposted₃
        cases hposted₃
      · simp [World.executing, hs, Session.rejects?] at hrejects
    | @blocks c ev f reason =>
      cases hid
      obtain ⟨href, hown⟩ := hb.same_row (.session hs rfl) hq hr' hrid hsame
      exact (h.clear sid _ hs _ (by simp [Session.aims, hown])).2 i q hq href
    | @refused c ev j err ha =>
      cases hid
      obtain ⟨href, hown⟩ := hb.same_row (.session hs rfl) hq hr' hrid hsame
      obtain rfl := h.awaits sid c ev j hs hown i q hq href
      obtain ⟨⟨a, hi, hstands⟩, -⟩ := hq
      simp only [Server.answer, hi, Option.bind_some] at ha
      subst ha
      cases hstands
    | topup h => rw [(Session.isTopup_none h).2.2.1] at hid; cases hid
    | _ => cases hid

theorem Orderly.marks_step {id : UUID} (hs' : (w.step E e).sessions sid = some s') (hid : s'.rejects? = some id)
    (hr' : r' ∈ (w.step E e).db.events) (hrid : r'.1.id = id) : (w.step E e).Unposted r'.1 := by
  intro i q hq hsame
  have hunder := (hb.step e).rejects_under hs' (hrid ▸ hid) hr'
  rw [((hb.step e).row_eq hq.inHand hr' (.inr hsame)).2.2.1] at hunder
  refine h.marks_before hb hc hs' hid hr' hrid (h.stood hb hc hs' hunder hq ?_) hsame
  rintro c rfl
  cases hid

/-- A session that is to send found its row open, and marks none. -/
theorem Orderly.open_before (hs' : (w.step E e).sessions sid = some s') (ha : s'.aims.isSome = true)
    (hev : s'.event? = some ev) :
    (∀ s, w.sessions sid = some s → s.rejects? = none) ∧ ∀ r ∈ w.db.events, r.1.id = ev.id → ¬r.1.rejected := by
  have hstays : ∀ s, w.sessions sid = some s → s.aims.isSome = true → s.event? = some ev →
      (∀ s, w.sessions sid = some s → s.rejects? = none) ∧ ∀ r ∈ w.db.events, r.1.id = ev.id → ¬r.1.rejected := by
    refine fun s hs ha hev => ⟨fun s₁ hs₁ => ?_, h.open' sid s hs ha ev hev⟩
    cases hs.symm.trans hs₁
    cases s <;> first | rfl | cases ha
  rcases step_turn hs' with hs | hf | ⟨s, hs, ht⟩
  · exact hstays s' hs ha hev
  · cases hf <;> cases hev
  · cases ht with
    | waits | routed | screens | unscreened | passed => exact hstays _ hs ha hev
    | stored he hp hrec =>
      cases hev
      refine ⟨fun s hs₁ => by cases hs.symm.trans hs₁; rfl, fun r hr hid hwas => ?_⟩
      obtain ⟨-, -, -, hrow | ⟨-, hnew⟩⟩ := getOrInsert_ok hp
      · obtain ⟨r₁, hr₁, rfl⟩ := Option.map_eq_some_iff.1 hrow
        rw [withDefaults_eq r₁.2] at hrec hid
        obtain rfl := hb.keys.ids _ hr _ (List.mem_of_find?_eq_some hr₁) hid
        rw [WebhookEvent.rejected, hrec] at hwas
        simp at hwas
      · exact hnew r hr hid
    | @loaded id ev n he hget =>
      subst he
      cases hev
      refine ⟨fun s hs₁ => by cases hs.symm.trans hs₁; rfl, fun r hr hid hwas => ?_⟩
      have hown : ev.owned = true := by
        by_contra hno
        simp [Session.aims, hno] at ha
      obtain ⟨-, hopen, -⟩ := hc.2.2 _ hs _ hget hown
      obtain ⟨r₁, hr₁, rfl⟩ := Option.map_eq_some_iff.1 hget
      rw [withDefaults_eq r₁.2] at hopen hid
      obtain rfl := hb.keys.ids _ hr _ (List.mem_of_find?_eq_some hr₁) hid
      exact hopen hwas
    | topup h => rw [(Session.isTopup_none h).2.2.2] at ha; cases ha
    | unmapped | mapped | found | matched => cases hev
    | recorded | blocks | sends | answered | refused | marked => cases ha

theorem Orderly.open_step (hs' : (w.step E e).sessions sid = some s') (ha : s'.aims.isSome = true)
    (hev : s'.event? = some ev) (hr' : r' ∈ (w.step E e).db.events) (hid : r'.1.id = ev.id) : ¬r'.1.rejected := by
  intro hrej
  obtain ⟨hmarks, hopen⟩ := h.open_before hb hc hs' ha hev
  obtain ⟨r, hr, hlater, hwas⟩ := rejected_step hr' hrej
  have hkept : r.1.id = ev.id ∧ r.1.externalRef = r'.1.externalRef := by
    rcases hlater with rfl | ⟨status, msg, rfl⟩ <;> exact ⟨hid, rfl⟩
  rcases hwas with hwas | hnow
  · exact hopen r hr hkept.1 hwas
  · -- a session that marks the row works under the same reference
    obtain ⟨s₀, hs₀, hid₀⟩ := Option.bind_eq_some_iff.1 hnow
    obtain ⟨sid₀, -, hs₀⟩ := executing_session hs₀
    have hunder := hb.rejects_under hs₀ hid₀ hr
    rw [hkept.2, ((hb.step e).row_eq (.session hs' hev) hr' (.inl hid)).2.2.1] at hunder
    refine h.others hb hc ?_ hs' (.of_event hev) hs₀ hunder
    rintro rfl
    rw [hmarks s₀ hs₀] at hid₀
    cases hid₀

omit hb hc in
theorem Orderly.post_aims {c : Caller} {f : Financials} (hs : w.sessions sid = some (.post c q.event f))
    (hown : q.event.owned = true) :
    q.event.externalRef ≠ "" ∧ ∀ i q', w.Stands i q' → q'.event.externalRef ≠ q.event.externalRef :=
  h.clear sid _ hs _ (by simp [Session.aims, hown])

omit hb hc in
theorem Orderly.named_step (hq : (w.step E e).Stands i q) : q.event.externalRef ≠ "" := by
  rcases stands_step hq with hq' | ⟨sid, n, c, f, -, hs, -⟩
  · exact h.named i q hq'
  · exact (h.post_aims hs hq.2).1

omit hb hc in
theorem Orderly.one_step {q' : Request} (hq : (w.step E e).Stands i q) (hq' : (w.step E e).Stands j q')
    (href : q.event.externalRef = q'.event.externalRef) : i = j := by
  rcases stands_step hq with hi | ⟨sid, n, c, f, -, hs, hi, -⟩
  · rcases stands_step hq' with hj | ⟨sid', n', c', f', -, hs', -, -⟩
    · exact h.one i q j q' hi hj href
    · exact absurd href ((h.post_aims hs' hq'.2).2 i q hi)
  · rcases stands_step hq' with hj | ⟨sid', n', c', f', -, -, hj, -⟩
    · exact absurd href.symm ((h.post_aims hs hq.2).2 j q' hj)
    · exact hi.trans hj.symm

omit hc in
theorem Orderly.truth_step (hr' : r' ∈ (w.step E e).db.events) (hrej : r'.1.rejected) :
    (w.step E e).Unposted r'.1 := by
  intro i q hq hsame
  obtain ⟨r, hr, hlater, hwas⟩ := rejected_step hr' hrej
  have hsame : SameEvent r.1 q.event := by
    rcases hlater with rfl | ⟨status, msg, rfl⟩ <;> exact hsame
  rcases stands_step hq with hq | ⟨sid, n, c, f, rfl, hs, -⟩
  · rcases hwas with hwas | hnow
    · exact h.truth r hr hwas i q hq hsame
    · obtain ⟨s₀, hs₀, hmarks⟩ := Option.bind_eq_some_iff.1 hnow
      obtain ⟨sid₀, -, hs₀⟩ := executing_session hs₀
      exact h.marks sid₀ s₀ hs₀ _ hmarks r hr rfl i q hq hsame
  · -- the event that sends marks nothing, and the session that sends found its row open
    have hwas : r.1.rejected := hwas.resolve_right (by simp [World.executing, hs, Session.rejects?])
    have hid := (hb.row_eq (.session hs rfl) hr (.inr hsame)).1
    exact h.open' sid _ hs (by simp [Session.aims, hq.2]) _ rfl r hr hid hwas

omit hc in
/-- A row that is marked posted for a command that stands stays so. -/
theorem Orderly.posted_kept (hq : w.Stands i q)
    (hp : ∃ r ∈ w.db.events, r.1.id = q.event.id ∧ r.1.status = .posted) :
    ∃ r ∈ (w.step E e).db.events, r.1.id = q.event.id ∧ r.1.status = .posted := by
  obtain ⟨r, hr, hid, hposted⟩ := hp
  rcases posted_step (E := E) (e := e) hr hposted with ⟨r', hr', hid', hposted'⟩ | hnow
  · exact ⟨r', hr', hid'.trans hid, hposted'⟩
  · obtain ⟨s₀, hs₀, hmarks⟩ := Option.bind_eq_some_iff.1 hnow
    obtain ⟨sid₀, -, hs₀⟩ := executing_session hs₀
    exact absurd (hb.row_eq hq.inHand hr (.inl hid)).2.1 (h.marks sid₀ s₀ hs₀ _ hmarks r hr rfl i q hq)

omit h in
/-- No intent becomes pending under the reference of an event in hand. -/
theorem settled_step (hev : InHand w ev)
    (hset : ∀ i ∈ w.db.intents, i.1.reference = ev.externalRef → i.1.status ≠ .pending) :
    ∀ i ∈ (w.step E e).db.intents, i.1.reference = ev.externalRef → i.1.status ≠ .pending := by
  obtain ⟨r, hr, -, -, href, -⟩ := hb.rowed ev hev
  intro i hi hiref
  generalize (w.step E e).db = db', step_db (E := E) (w := w) (e := e) = hmove at hi
  cases hmove with
  | same | inserts | posts | rejects => exact hset i hi hiref
  | insertsIntent hins =>
    rcases List.mem_append.1 hi with hi | hi
    · exact hset i hi hiref
    · cases List.mem_singleton.1 hi
      obtain ⟨s, hs, hins⟩ := Option.bind_eq_some_iff.1 hins
      exact absurd (href.trans hiref.symm) ((hc.2.2 s hs).inserts hins r hr)
  | updates _ hint =>
    obtain ⟨j, hj, hjref, hpending⟩ := hint i hi
    exact fun hst => hset j hj (hjref.trans hiref) (hpending hst)

/-- **A session that owes updates** goes on owing them, or has made them. -/
theorem Orderly.owes_step (hq : w.Stands i q) (hs : w.sessions sid = some s) (ho : Owes w i q s) :
    (∃ s', (w.step E e).sessions sid = some s' ∧ Owes (w.step E e) i q s') ∨ Done (w.step E e) q := by
  have hstay : (w.step E e).sessions sid = some s →
      ∃ s', (w.step E e).sessions sid = some s' ∧ Owes (w.step E e) i q s' := fun hs' => ⟨s, hs', by
    cases ho with
    | await => exact .await
    | finalize => exact .finalize
    | settle hp => exact .settle (h.posted_kept hb hq hp)⟩
  by_cases he : e.sid? = some sid
  swap
  · exact .inl (hstay ((step_frame he).trans hs))
  cases e with
  | ledger | upsertVendorGateway | tick => cases he
  | crash | fail =>
    cases he
    have hsent := hc.2.1 sid rfl s hs
    rw [ho.event.2] at hsent
    cases hsent
  | callback | replay | createTopup | createMerchantTopup | getTopup =>
    cases he
    exact .inl (hstay (by simp only [World.step, World.start, hs]))
  | screened | consumed =>
    cases he
    exact .inl (hstay (by cases ho <;> simp [World.step, hs]))
  | advance _ n =>
    cases he
    cases ho with
    | @await c =>
      cases ha : w.ledger.answer i with
      | none => exact .inl (hstay (by simp only [World.step, hs, World.advance, ha]))
      | some a =>
        cases a with
        | done =>
          refine .inl ⟨.finalize c q.event, ?_, .finalize⟩
          simp [World.step, hs, World.advance, ha, Session.onAnswer, World.proceed]
        | refused err =>
          obtain ⟨⟨a, hi, hr⟩, -⟩ := hq
          simp only [Server.answer, hi, Option.bind_some] at ha
          subst ha
          cases hr
    | @finalize c =>
      have hdb : (w.step E (.advance sid n)).db = w.db.markPosted q.event.id := by
        simp [World.step, hs, World.advance, Session.exec]
      obtain ⟨r, hr, hid, -⟩ := hb.rowed _ hq.inHand
      refine .inl ⟨.settle c q.event, ?_, .settle ?_⟩
      · simp [World.step, hs, World.advance, Session.exec, Caller.marked, h.named i q hq, World.proceed]
      · rw [hdb]
        exact ⟨_, List.mem_map_of_mem hr, by rw [if_pos hid]; exact ⟨hid, rfl⟩⟩
    | settle hp =>
      have hdb : (w.step E (.advance sid n)).db = w.db.markTopupIntentSettled q.event.externalRef q.event.id := by
        simp [World.step, hs, World.advance, Session.exec]
      refine .inr ⟨h.posted_kept hb hq hp, fun i hi href hpending => ?_⟩
      -- the update leaves no intent pending under the reference
      rw [hdb] at hi
      obtain ⟨j, hj, rfl⟩ := List.mem_map.1 hi
      split at hpending
      · cases hpending
      · rename_i hcond
        rw [if_neg hcond] at href
        exact hcond (decide_eq_true ⟨href, hpending⟩)

theorem Orderly.tracked_step (hq : (w.step E e).Stands i q) :
    (∃ sid s, (w.step E e).sessions sid = some s ∧ Owes (w.step E e) i q s) ∨ Done (w.step E e) q := by
  rcases stands_step hq with hq | ⟨sid, n, c, f, -, -, -, hs⟩
  · rcases h.tracked i q hq with ⟨sid, s, hs, ho⟩ | hdone
    · exact (h.owes_step hb hc hq hs ho).imp_left fun howes => ⟨sid, howes⟩
    · exact .inr ⟨h.posted_kept hb hq hdone.posted, settled_step hb hc hq.inHand hdone.settled⟩
  · exact .inl ⟨sid, _, hs, .await⟩

/-- **One event, under the condition.** -/
theorem Orderly.step : Orderly (w.step E e) where
  apart _ _ _ _ hne h₁ h₂ _ hu := h.apart_step hb hc hne h₁ h₂ hu
  clear _ _ hs' _ ha := h.clear_step hb hc hs' ha
  awaits _ _ _ _ hs' hown _ _ hq href := h.awaits_step hb hc hs' hown hq href
  open' _ _ hs' ha _ hev _ hr' hid := h.open_step hb hc hs' ha hev hr' hid
  marks _ _ hs' _ hid _ hr' hrid := h.marks_step hb hc hs' hid hr' hrid
  named _ _ hq := h.named_step hq
  one _ _ _ _ hq hq' href := h.one_step hq hq' href
  tracked _ _ hq := h.tracked_step hb hc hq
  truth _ hr' hrej := h.truth_step hb hr' hrej

end Step

/-- **What holds in every run in which calls take turns.** -/
theorem orderly_run (E : Env) {db : Db} (hdb : db.Keys) {now : ℕ} {es : List Event}
    (hes : Along (World.step E) InTurn (.idle db now) es) :
    Based E (run (World.step E) (.idle db now) es) ∧ Orderly (run (World.step E) (.idle db now) es) :=
  run_inv_of_along (I := fun w => Based E w ∧ Orderly w) (fun _ e hw hc => ⟨hw.1.step e, hw.2.step hw.1 hc⟩)
    ⟨.idle E hdb now, .idle db now⟩ hes

theorem Based.stands (hb : Based E w) (hq : q ∈ w.ledger.performed) : ∃ i, w.Stands i q := by
  have hdone := hb.sound.server.done q hq
  obtain ⟨i, hi⟩ := List.mem_iff_getElem?.1 hdone
  exact ⟨i, ⟨_, hi, rfl⟩, (hb.sound.built _ hdone).owned (hb.sound.owned q hq)⟩

end Seev.Payin
