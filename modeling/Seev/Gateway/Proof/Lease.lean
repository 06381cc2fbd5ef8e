import Seev.Gateway.Lease

/-!
# One owner and one answer

* `record_owned_once`: while only the request that was last told to proceed finishes the record, no two
  requests proceed under unexpired leases, and a stored response is replayed to every later request.
* `stale_holder_interferes`: a request that outlives its lease opens the record to a third one, or replaces
  the stored response.
-/

namespace Seev.Gateway.Lease

open Lib (Along run)

variable {w : World} {e : Event} {r r' : RequestID} {rec : IdempotencyRecord} {lease : ℤ}

/-- The record is finished by the request that was last told to proceed. -/
def Owned (w : World) : Event → Prop
  | .complete r _ _ => w.holder = some r
  | .fail r => w.holder = some r
  | _ => True

instance (w : World) (e : Event) : Decidable (Owned w e) := by
  cases e <;> unfold Owned <;> infer_instance

/-- The holder has the row's lease, and every other request that still proceeds has lost its own. -/
structure Held (w : World) : Prop where
  row : ∀ r lease, w.phase r = .proceeding lease → w.holder = some r →
    ∃ rec, w.row = some rec ∧ rec.state = .processing ∧ rec.leaseExpiresAt = some lease
  expired : ∀ r lease, w.phase r = .proceeding lease → w.holder ≠ some r → lease < w.clock

/-! ## One step -/

theorem goto_phase (p : Phase) (h : (w.goto r p).phase r' = .proceeding lease)
    (hp : ∀ lease, p ≠ .proceeding lease) :
    w.phase r' = .proceeding lease := by
  by_cases hr : r' = r
  · subst hr
    simp only [World.goto, Function.update_self] at h
    exact absurd h (hp lease)
  · simpa only [World.goto, Function.update_of_ne hr] using h

theorem Held.goto (h : Held w) {p : Phase} (hp : ∀ lease, p ≠ .proceeding lease) : Held (w.goto r p) where
  row r' lease hr' hholder := h.row r' lease (goto_phase p hr' hp) hholder
  expired r' lease hr' hholder := h.expired r' lease (goto_phase p hr' hp) hholder

/-- A request is told to proceed where the former holder does not, or has lost its lease. -/
theorem Held.proceed (h : Held w) (hrec : rec.state = .processing) (hlease : rec.leaseExpiresAt = some lease)
    (hfree : ∀ h' l, h' ≠ r → w.holder = some h' → w.phase h' = .proceeding l → l < w.clock) :
    Held (w.proceed r lease rec) where
  row r' l hr' hholder := by
    obtain rfl : r = r' := Option.some.inj hholder
    simp only [World.proceed, Function.update_self, Phase.proceeding.injEq] at hr'
    subst hr'
    exact ⟨rec, rfl, hrec, hlease⟩
  expired r' l hr' hholder := by
    have hne : r' ≠ r := fun heq => hholder (congrArg some heq.symm)
    have hphase : w.phase r' = .proceeding l := by simpa only [World.proceed, Function.update_of_ne hne] using hr'
    by_cases hold : w.holder = some r'
    · exact hfree r' l hne hold hphase
    · exact h.expired r' l hphase hold

theorem decideExisting_ne (hash : Hash) (lease l : ℤ) (existing : IdempotencyRecord) :
    decideExisting hash lease existing ≠ .proceeding l := by
  unfold decideExisting
  split
  · nofun
  · split <;> nofun

/-- What a guarded update finds and leaves. -/
theorem retry_eq_some {existing row : IdempotencyRecord} (h : w.retry existing lease = some row) :
    row.state = .processing ∧ row.leaseExpiresAt = some lease ∧
      ∃ old, w.row = some old ∧ old.state ≠ .completed ∧
        (old.state = .processing → ∃ l, old.leaseExpiresAt = some l ∧ l < w.clock) := by
  unfold World.retry at h
  split at h
  · rename_i old _ hrow
    split at h
    · rename_i hfailed
      cases h
      exact ⟨rfl, rfl, old, hrow, by rw [hfailed]; nofun, fun hp => absurd (hfailed.symm.trans hp) nofun⟩
    · cases h
  · rename_i old hrow _
    split at h
    · rename_i hexpired
      cases h
      refine ⟨hexpired.1, rfl, old, hrow, by rw [hexpired.1]; nofun, fun _ => ?_⟩
      obtain ⟨l, hl, hlt⟩ := (Option.any_eq_true ..).1 hexpired.2
      exact ⟨l, hl, of_decide_eq_true hlt⟩
    · cases h
  · cases h

/-- The holder is the only one to finish, so nobody else holds an unexpired lease. -/
theorem Held.finish (h : Held w) (hholder : w.holder = some r) (f : IdempotencyRecord → IdempotencyRecord) :
    Held { w.goto r .done with row := w.row.map f } where
  row r' l hr' hholder' := by
    obtain rfl : r = r' := Option.some.inj (hholder.symm.trans hholder')
    simp [World.goto] at hr'
  expired r' l hr' hholder' := h.expired r' l (goto_phase .done hr' nofun) hholder'

theorem Held.step (h : Held w) (howned : Owned w e) : Held (w.step e) := by
  cases e with
  | tick seconds =>
    exact ⟨h.row, fun r l hr hholder =>
      Int.lt_of_lt_of_le (h.expired r l hr hholder) (Int.le_add_of_nonneg_right (Int.natCast_nonneg _))⟩
  | claim r hash now =>
    simp only [World.step]
    split
    · exact h
    · split
      · rename_i hrow
        refine h.proceed rfl rfl fun h' l _ hold hphase => ?_
        obtain ⟨rec, hrec, -⟩ := h.row h' l hphase hold
        exact absurd (hrow.symm.trans hrec) nofun
      · exact h.goto nofun
  | getByKey r =>
    simp only [World.step]
    split
    · exact h.goto fun l => decideExisting_ne _ _ l _
    · exact h
  | update r =>
    simp only [World.step]
    split
    · split
      · rename_i hretry
        obtain ⟨hstate, hlease, old, hrow, -, hexpired⟩ := retry_eq_some hretry
        refine h.proceed hstate hlease fun h' l _ hold hphase => ?_
        obtain ⟨rec, hrec, hprocessing, hl⟩ := h.row h' l hphase hold
        obtain rfl : old = rec := Option.some.inj (hrow.symm.trans hrec)
        obtain ⟨l', hl', hlt⟩ := hexpired hprocessing
        exact Option.some.inj (hl.symm.trans hl') ▸ hlt
      · exact h.goto nofun
    · exact h
  | complete | fail =>
    simp only [World.step]
    split
    · exact h.finish howned _
    · exact h
  | crash r => exact h.goto nofun

/-- A completed row stays as it is. -/
theorem Held.row_step (h : Held w) (howned : Owned w e) (hrow : w.row = some rec)
    (hrec : rec.state = .completed) :
    (w.step e).row = some rec := by
  have hfinish : ∀ r l, w.phase r = .proceeding l → w.holder ≠ some r := by
    intro r l hphase hholder
    obtain ⟨rec', hrow', hprocessing, -⟩ := h.row r l hphase hholder
    obtain rfl : rec = rec' := Option.some.inj (hrow.symm.trans hrow')
    exact absurd (hrec.symm.trans hprocessing) nofun
  cases e with
  | tick | crash => exact hrow
  | claim r hash now =>
    simp only [World.step, hrow]
    split <;> exact hrow
  | getByKey r =>
    simp only [World.step]
    split <;> exact hrow
  | update r =>
    simp only [World.step]
    split
    · split
      · rename_i hretry
        obtain ⟨-, -, old, hrow', hcompleted, -⟩ := retry_eq_some hretry
        obtain rfl : rec = old := Option.some.inj (hrow.symm.trans hrow')
        exact absurd hrec hcompleted
      · exact hrow
    · exact hrow
  | complete r httpStatus responseBody =>
    simp only [World.step]
    split
    · rename_i l hphase
      exact absurd howned (hfinish r l hphase)
    · exact hrow
  | fail r =>
    simp only [World.step]
    split
    · rename_i l hphase
      exact absurd howned (hfinish r l hphase)
    · exact hrow

/-! ## Whole runs -/

/-- No two requests proceed under unexpired leases. -/
def Exclusive (w : World) : Prop :=
  ∀ r r' lease lease', w.phase r = .proceeding lease → w.phase r' = .proceeding lease' → w.clock ≤ lease →
    w.clock ≤ lease' → r = r'

theorem Held.exclusive (h : Held w) : Exclusive w := by
  have hholder : ∀ r lease, w.phase r = .proceeding lease → w.clock ≤ lease → w.holder = some r := by
    intro r lease hphase hle
    by_contra hne
    exact absurd (h.expired r lease hphase hne) (Int.not_lt.2 hle)
  intro r r' lease lease' hr hr' hle hle'
  exact Option.some.inj ((hholder r lease hr hle).symm.trans (hholder r' lease' hr' hle'))

theorem held_init (clock : ℤ) : Held (World.init clock) := ⟨nofun, nofun⟩

theorem held_run {clock : ℤ} {es : List Event} (h : Along World.step Owned (World.init clock) es) :
    Held (run World.step (World.init clock) es) :=
  Lib.run_inv_of_along (I := Held) (fun _ _ hI hC => hI.step hC) (held_init clock) h

theorem row_run {es : List Event} (h : Held w) (howned : Along World.step Owned w es) (hrow : w.row = some rec)
    (hrec : rec.state = .completed) : (run World.step w es).row = some rec :=
  (Lib.run_inv_of_along (I := fun w => Held w ∧ w.row = some rec)
    (fun _ _ hI hC => ⟨hI.1.step hC, hI.1.row_step hC hI.2 hrec⟩) ⟨h, hrow⟩ howned).2

/-- A request that has found the completed row in its way, until it is answered. -/
def Replayed (rec : IdempotencyRecord) (p : Phase) : Prop :=
  (∃ lease, p = .conflicted rec.requestHash lease) ∨ p = .answered (.replay rec.httpStatus rec.responseBody)

theorem decideExisting_completed (hrec : rec.state = .completed) (lease : ℤ) :
    decideExisting rec.requestHash lease rec = .answered (.replay rec.httpStatus rec.responseBody) := by
  simp [decideExisting, hrec]

theorem goto_replayed {p : Phase} (h : Replayed rec (w.phase r)) (hp : r' = r → Replayed rec p) :
    Replayed rec ((w.goto r' p).phase r) := by
  by_cases hr : r = r'
  · subst hr
    simpa only [World.goto, Function.update_self] using hp rfl
  · simpa only [World.goto, Function.update_of_ne hr] using h

theorem Replayed.not_retrying {p : Phase} (h : Replayed rec p) :
    (∀ existing lease, p ≠ .retrying existing lease) ∧ (∀ lease, p ≠ .proceeding lease) ∧ p ≠ .idle := by
  rcases h with ⟨lease, rfl⟩ | rfl
  · exact ⟨nofun, nofun, nofun⟩
  · exact ⟨nofun, nofun, nofun⟩

/-- Only a crash keeps the request from its answer. -/
theorem replayed_step (hrow : w.row = some rec) (hrec : rec.state = .completed) (hcrash : e ≠ .crash r)
    (h : Replayed rec (w.phase r)) : Replayed rec ((w.step e).phase r) := by
  obtain ⟨hretrying, hproceeding, hidle⟩ := h.not_retrying
  cases e with
  | tick seconds => exact h
  | claim r' hash now =>
    simp only [World.step, hrow]
    split
    · exact h
    · rename_i hr'
      exact goto_replayed h fun heq => absurd (heq ▸ not_not.1 hr') hidle
  | getByKey r' =>
    simp only [World.step]
    split
    · rename_i hash lease existing hphase hexisting
      refine goto_replayed h ?_
      rintro rfl
      obtain rfl : rec = existing := Option.some.inj (hrow.symm.trans hexisting)
      rcases h with ⟨lease', hconflicted⟩ | hanswered
      · obtain ⟨rfl, rfl⟩ := Phase.conflicted.inj (hphase.symm.trans hconflicted)
        exact .inr (decideExisting_completed hrec lease)
      · exact absurd (hphase.symm.trans hanswered) nofun
    · exact h
  | update r' =>
    simp only [World.step]
    split
    · rename_i existing lease hphase
      have hne : r ≠ r' := fun heq => hretrying existing lease (heq ▸ hphase)
      split
      · simpa only [World.proceed, Function.update_of_ne hne] using h
      · exact goto_replayed h fun heq => absurd heq.symm hne
    · exact h
  | complete | fail =>
    simp only [World.step]
    split
    · rename_i lease hphase
      exact goto_replayed h fun heq => absurd (heq ▸ hphase) (hproceeding lease)
    · exact h
  | crash r' => exact goto_replayed h fun heq => absurd (congrArg Event.crash heq) hcrash

theorem getByKey_replayed (hrow : w.row = some rec) (hrec : rec.state = .completed)
    (h : Replayed rec (w.phase r)) :
    (w.step (.getByKey r)).phase r = .answered (.replay rec.httpStatus rec.responseBody) := by
  rcases h with ⟨lease, hconflicted⟩ | hanswered
  · simp [World.step, World.goto, hconflicted, hrow, decideExisting_completed hrec]
  · simp [World.step, hanswered]

/-- **A completed record is replayed** to a request that begins with the same body. -/
theorem replayed (h : Held w) (hrow : w.row = some rec) (hrec : rec.state = .completed)
    (hidle : w.phase r = .idle)
    {es : List Event} (hes : ∀ e ∈ es, e ≠ .crash r) {now : ℤ}
    (howned : Along World.step Owned w (.claim r rec.requestHash now :: es)) :
    ((run World.step w (.claim r rec.requestHash now :: es)).step (.getByKey r)).phase r =
      .answered (.replay rec.httpStatus rec.responseBody) := by
  have hclaim : (w.step (.claim r rec.requestHash now)).phase r =
      .conflicted rec.requestHash (now + leaseDuration) := by
    simp [World.step, World.goto, hidle, hrow]
  have hkept : Held (w.step (.claim r rec.requestHash now)) ∧
      (w.step (.claim r rec.requestHash now)).row = some rec :=
    ⟨h.step howned.1, h.row_step howned.1 hrow hrec⟩
  -- the row stays, and the request is replayed or about to be
  have hend := Lib.run_inv_of_along (I := fun w => (Held w ∧ w.row = some rec) ∧ Replayed rec (w.phase r))
    (C := fun w e => Owned w e ∧ e ≠ .crash r)
    (fun w e hI hC => ⟨⟨hI.1.1.step hC.1, hI.1.1.row_step hC.1 hI.1.2 hrec⟩, replayed_step hI.1.2 hrec hC.2 hI.2⟩)
    ⟨hkept, .inl ⟨_, hclaim⟩⟩ (howned.2.and (.of_forall (fun e he _ => hes e he) _))
  exact getByKey_replayed hend.1.2 hrec hend.2

/-- **One owner and one answer**, in every run in which only the request that was last told to proceed
finishes the record. -/
theorem record_owned_once (clock : ℤ) (es : List Event) (h : Along World.step Owned (World.init clock) es) :
    Exclusive (run World.step (World.init clock) es) ∧
    ∀ (es₁ es₂ es₃ : List Event) (r₀ r : RequestID) (lease : ℤ) (rec : IdempotencyRecord) (httpStatus : ℕ)
      (body : Body) (now : ℤ),
      es = es₁ ++ .complete r₀ httpStatus body :: (es₂ ++ .claim r rec.requestHash now :: es₃) →
      (run World.step (World.init clock) es₁).phase r₀ = .proceeding lease →
      (run World.step (World.init clock) es₁).row = some rec →
      (run World.step (World.init clock) (es₁ ++ .complete r₀ httpStatus body :: es₂)).phase r = .idle →
      (∀ e ∈ es₃, e ≠ .crash r) →
      ((run World.step (World.init clock) es).step (.getByKey r)).phase r =
        .answered (.replay (some httpStatus) (some body)) := by
  refine ⟨(held_run h).exclusive, ?_⟩
  rintro es₁ es₂ es₃ r₀ r lease rec httpStatus body now rfl hproceeding hrow hidle hes₃
  have hsplit : es₁ ++ .complete r₀ httpStatus body :: (es₂ ++ .claim r rec.requestHash now :: es₃) =
      (es₁ ++ .complete r₀ httpStatus body :: es₂) ++ .claim r rec.requestHash now :: es₃ := by simp
  rw [hsplit] at h ⊢
  obtain ⟨hbefore, hafter⟩ := h.split
  obtain ⟨howned₁, howned₂⟩ := hbefore.split
  -- the row that the completion leaves, and keeps until the request begins
  have hcomplete : ((run World.step (World.init clock) es₁).step (.complete r₀ httpStatus body)).row =
      some { rec with
        state := .completed, httpStatus := some httpStatus, responseBody := some body,
        leaseExpiresAt := none } := by
    simp [World.step, hproceeding, hrow]
  have hkept := row_run ((held_run howned₁).step howned₂.1) howned₂.2 hcomplete rfl
  rw [Lib.run_append]
  rw [Lib.run_append, Lib.run_cons] at hidle
  have hrun : run World.step (World.init clock) (es₁ ++ .complete r₀ httpStatus body :: es₂) =
      run World.step ((run World.step (World.init clock) es₁).step (.complete r₀ httpStatus body)) es₂ := by
    rw [Lib.run_append, Lib.run_cons]
  rw [hrun] at hafter ⊢
  exact replayed (hrun ▸ held_run hbefore) hkept rfl hidle hes₃ hafter

namespace Sample

/-- Request 0 proceeds, outlives its lease, and request 1 takes over. -/
def takenOver : List Event := [.claim 0 [1] 0, .tick 31, .claim 1 [1] 31, .getByKey 1, .update 1]

/-- Request 1 completes, and request 2 begins. -/
def completed : List Event := takenOver ++ [.complete 1 201 [7], .claim 2 [1] 40]

end Sample

/-- After a takeover that the first request leaves alone, the response is replayed. -/
theorem record_owned_once_completed :
    Along World.step Owned (World.init 0) Sample.completed ∧
      ((run World.step (World.init 0) Sample.completed).step (.getByKey 2)).phase 2 =
        .answered (.replay (some 201) (some [7])) :=
  have howned : Along World.step Owned (World.init 0) Sample.completed := by decide +kernel
  ⟨howned, (record_owned_once 0 Sample.completed howned).2 Sample.takenOver [] [] 1 2 61
    ⟨[1], .processing, none, none, some 61⟩ 201 [7] 40 rfl (by decide +kernel) (by decide +kernel)
      (by decide +kernel) nofun⟩

/-- **Two owners, and another answer**: after the takeover the first request fails the record, and a third
proceeds beside the second; or it completes the record after the second, and its own response is replayed. -/
theorem stale_holder_interferes :
    (let w := run World.step (World.init 0)
      (Sample.takenOver ++ [.fail 0, .claim 2 [1] 31, .getByKey 2, .update 2])
     w.clock = 31 ∧ w.phase 1 = .proceeding 61 ∧ w.phase 2 = .proceeding 61) ∧
    (run World.step (World.init 0)
      (Sample.takenOver ++ [.complete 1 201 [7], .complete 0 200 [8], .claim 2 [1] 40,
      .getByKey 2])).phase 2 = .answered (.replay (some 200) (some [8])) := by
  decide +kernel

end Seev.Gateway.Lease
