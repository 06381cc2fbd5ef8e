import Seev.Ledger.Outbox
import Seev.Lib.Slots

/-!
# What the status of an outbox event says

`MarkPublished` and `MarkFailed` name the event alone, so that a replica whose claim was reaped long ago still
writes its result. Two constraints of the table make up for it: a row that has `published_at` refuses any other
status, and a failed row that has used up its retries becomes dead in the same statement.

* `step_inv`: what each step keeps of the row and its attempts.
* `status_truthful`: published only after the broker accepted the event and then for good, dead only after
  `max_retries` errors, and every other event is claimed again by the loops of the relay.
* `dead_though_accepted`: an accepted event whose mark was lost may end as dead.
-/

namespace Seev.Ledger.Outbox

open Lib

/-- The publish returned an error. -/
def Attempt.errored (a : Attempt) : Bool := a.outcome = some .failed ∨ a.outcome = some .unconfirmed

def Attempt.accepted (a : Attempt) : Bool := a.outcome = some .accepted

/-- The attempts that marked the row as failed. -/
def World.failures (w : World) : ℕ := w.attempts.countP fun a => a.errored && a.marked

/-- The attempts that marked the row as published. -/
def World.successes (w : World) : ℕ := w.attempts.countP fun a => a.accepted && a.marked

/-- What a step can do to the row and the attempts. -/
inductive Change (w : World) : World → Prop
  | idle : Change w w
  | tick (d : ℕ) : Change w { w with clock := w.clock + d }
  | claimed (h : w.row.status = .pending ∨ w.row.retryable w.clock = true) : Change w w.claim
  /-- an attempt goes on or stops; if it had a mark then it keeps its outcome -/
  | worked {k : ℕ} {a b : Attempt} (hk : w.attempts[k]? = some a) (hm : b.marked = a.marked)
      (ho : a.marked = true → b.outcome = a.outcome) : Change w { w with attempts := w.attempts.set k b }
  | marked {k : ℕ} {o : Outcome} (jitter : ℕ) (hk : w.attempts[k]? = some ⟨some o, false, true⟩) :
      Change w
        { w with row := w.row.mark w.clock jitter o, attempts := w.attempts.set k ⟨some o, true, false⟩ }
  | reaped (h : w.row.status = .processing) : Change w { w with row := w.row.reap w.clock }
  | replayed (h : w.row.status = .dead) : Change w { w with row := w.row.replayDead w.clock }

/-- The attempts carry a mark only with an outcome. -/
def World.MarksHaveOutcome (w : World) : Prop := ∀ a ∈ w.attempts, a.marked = true → a.outcome.isSome

theorem change (w : World) (hw : w.MarksHaveOutcome) (e : Event) : Change w (w.step e) := by
  cases e with
  | tick d => exact .tick d
  | claimPending =>
    simp only [World.step]
    split
    · rename_i h
      exact .claimed (.inl h)
    · exact .idle
  | claimFailedForRetry =>
    simp only [World.step]
    split
    · rename_i h
      exact .claimed (.inr h)
    · exact .idle
  | publish k o =>
    simp only [World.step]
    split
    · rename_i marked hk
      refine .worked hk rfl fun hm => ?_
      have := hw _ (List.mem_of_getElem? hk) hm
      simp at this
    · exact .idle
  | mark k took jitter =>
    simp only [World.step]
    split
    · rename_i o hk
      cases took with
      | true => exact .marked jitter hk
      | false => exact .worked hk rfl fun hm => rfl
    · exact .idle
  | reapStuck olderThan =>
    simp only [World.step]
    split
    · rename_i h
      exact .reaped (by simp only [Row.stuck, decide_eq_true_eq] at h; exact h.1)
    · exact .idle
  | replayDead =>
    simp only [World.step]
    split
    · rename_i h
      exact .replayed h
    · exact .idle
  | crash k =>
    simp only [World.step]
    split
    · rename_i a hk
      exact .worked hk rfl fun _ => rfl
    · exact .idle

/-! ## The trigger -/

section Trigger

variable (r : Row)

@[simp] theorem checkDeadLetter_retryCount : r.checkDeadLetter.retryCount = r.retryCount := by
  unfold Row.checkDeadLetter; split <;> rfl

@[simp] theorem checkDeadLetter_maxRetries : r.checkDeadLetter.maxRetries = r.maxRetries := by
  unfold Row.checkDeadLetter; split <;> rfl

@[simp] theorem checkDeadLetter_publishedAt : r.checkDeadLetter.publishedAt = r.publishedAt := by
  unfold Row.checkDeadLetter; split <;> rfl

/-- A failed row stays failed exactly while it has retries left. -/
theorem checkDeadLetter_status (h : r.status = .failed) :
    r.checkDeadLetter.status = if r.retryCount < r.maxRetries then .failed else .dead := by
  unfold Row.checkDeadLetter
  by_cases hr : r.retryCount < r.maxRetries
  · rw [if_neg (by omega), if_pos hr]
    exact h
  · rw [if_pos ⟨h, by omega⟩, if_neg hr]

end Trigger

/-! ## The invariant -/

/-- The status of a row against its columns. -/
structure Row.Sound (n : ℕ) (r : Row) : Prop where
  max : r.maxRetries = n
  waiting : r.status = .pending ∨ r.status = .processing ∨ r.status = .failed → r.retryCount < n
  processing : r.status = .processing → r.lastAttemptedAt.isSome
  published : r.publishedAt.isSome ↔ r.status = .published
  dead : r.status = .dead → n ≤ r.retryCount

structure Inv (n : ℕ) (w : World) : Prop where
  row : w.row.Sound n
  marks : w.MarksHaveOutcome
  counted : w.row.retryCount ≤ w.failures
  successes : 0 < w.successes ↔ w.row.status = .published

variable {n : ℕ} {r : Row}

theorem inserted_inv (clock : ℤ) (h : 0 < n) : Inv n (World.inserted clock n) where
  row := {
    max := rfl
    waiting := fun _ => h
    processing := fun hs => nomatch hs
    published := by simp [World.inserted]
    dead := fun hs => nomatch hs }
  marks := by intro a ha; exact absurd ha List.not_mem_nil
  counted := Nat.zero_le _
  successes := by simp [World.inserted, World.successes]

/-- A row that a statement leaves as failed, before the trigger. -/
theorem Row.Sound.checkDeadLetter (hmax : r.maxRetries = n) (hs : r.status = .failed)
    (hp : r.publishedAt = none) :
    r.checkDeadLetter.Sound n ∧ r.checkDeadLetter.status ≠ .published := by
  have hst := checkDeadLetter_status r hs
  by_cases hlt : r.retryCount < r.maxRetries
  · rw [if_pos hlt] at hst
    refine ⟨⟨by simpa using hmax, fun _ => ?_, ?_, ?_, ?_⟩, ?_⟩
    · rw [checkDeadLetter_retryCount]
      omega
    all_goals simp [hst, hp]
  · rw [if_neg hlt] at hst
    refine ⟨⟨by simpa using hmax, ?_, ?_, ?_, fun _ => ?_⟩, ?_⟩
    case refine_4 =>
      rw [checkDeadLetter_retryCount]
      omega
    all_goals simp [hst, hp]

variable (clock : ℤ)

/-- `MarkFailed` does nothing to a published row; any other row it leaves failed or dead. -/
theorem Row.Sound.markFailed (h : r.Sound n) (jitter : ℕ) :
    (r.status = .published ∧ r.markFailed clock jitter = r) ∨
      (r.status ≠ .published ∧ (r.markFailed clock jitter).Sound n ∧
        (r.markFailed clock jitter).status ≠ .published ∧
        (r.markFailed clock jitter).retryCount = r.retryCount + 1) := by
  unfold Row.markFailed
  by_cases hp : r.publishedAt.isSome
  · rw [if_pos hp]
    exact .inl ⟨h.published.mp hp, rfl⟩
  · rw [if_neg hp]
    have hnone : r.publishedAt = none := by simpa using hp
    obtain ⟨hsound, hne⟩ := Row.Sound.checkDeadLetter (n := n)
      (r := { r with
        status := .failed, retryCount := r.retryCount + 1, lastAttemptedAt := some clock
        nextAttemptAt := some (clock + r.backoff jitter) }) h.max rfl hnone
    exact .inr ⟨fun hs => hp (h.published.mpr hs), hsound, hne, by rw [checkDeadLetter_retryCount]⟩

theorem Row.Sound.claim (h : r.Sound n) (hr : r.status = .pending ∨ r.retryable clock = true) :
    (r.claim clock).Sound n ∧ r.status ≠ .published := by
  have hs : r.status = .pending ∨ r.status = .failed := by
    rcases hr with hr | hr
    · exact .inl hr
    · simp only [Row.retryable, decide_eq_true_eq] at hr
      exact .inr hr.1
  have hne : r.status ≠ .published := by rcases hs with hs | hs <;> simp [hs]
  have hlt := h.waiting (hs.imp_right .inr)
  have hnone : ¬ r.publishedAt.isSome := fun hp => hne (h.published.mp hp)
  refine ⟨⟨h.max, fun _ => hlt, fun _ => rfl, ?_, fun hd => nomatch hd⟩, hne⟩
  simpa [Row.claim] using hnone

theorem Row.Sound.markPublished (h : r.Sound n) : (r.markPublished clock).Sound n where
  max := h.max
  waiting := by simp [Row.markPublished]
  processing := fun hs => nomatch hs
  published := by simp [Row.markPublished]
  dead := fun hs => nomatch hs

variable {w : World}

/-- The counts after a step of one attempt that writes no mark. -/
theorem worked_counts {k : ℕ} {a b : Attempt} (hk : w.attempts[k]? = some a) (hm : b.marked = a.marked)
    (ho : a.marked = true → b.outcome = a.outcome) :
    World.failures { w with attempts := w.attempts.set k b } = w.failures ∧
      World.successes { w with attempts := w.attempts.set k b } = w.successes := by
  have he : (b.errored && b.marked) = (a.errored && a.marked) ∧
      (b.accepted && b.marked) = (a.accepted && a.marked) := by
    cases ha : a.marked with
    | false => simp [hm, ha]
    | true => simp [Attempt.errored, Attempt.accepted, hm, ha, ho ha]
  have h1 := countP_set (p := fun a => a.errored && a.marked) (b := b) hk
  have h2 := countP_set (p := fun a => a.accepted && a.marked) (b := b) hk
  simp only [he] at h1 h2
  unfold World.failures World.successes
  simp only
  omega

/-- The counts after a mark. -/
theorem marked_counts {k : ℕ} {o : Outcome} (r : Row) (hk : w.attempts[k]? = some ⟨some o, false, true⟩) :
    World.failures { w with row := r, attempts := w.attempts.set k ⟨some o, true, false⟩ } =
        w.failures + (if o = .accepted then 0 else 1) ∧
      World.successes { w with row := r, attempts := w.attempts.set k ⟨some o, true, false⟩ } =
        w.successes + (if o = .accepted then 1 else 0) := by
  have h1 := countP_set (p := fun a => a.errored && a.marked) (b := ⟨some o, true, false⟩) hk
  have h2 := countP_set (p := fun a => a.accepted && a.marked) (b := ⟨some o, true, false⟩) hk
  unfold World.failures World.successes
  cases o <;> simp [Attempt.errored, Attempt.accepted] at h1 h2 ⊢ <;> omega

/-- A statement outside the attempts that leaves an unpublished row as failed. -/
theorem Inv.failed (h : Inv n w) (hne : w.row.status ≠ .published) (r : Row) (hs : r.status = .failed)
    (hmax : r.maxRetries = w.row.maxRetries) (hp : r.publishedAt = w.row.publishedAt)
    (hr : r.retryCount ≤ w.row.retryCount) : Inv n { w with row := r.checkDeadLetter } := by
  have hnone : w.row.publishedAt = none := by simpa [hne] using h.row.published
  obtain ⟨hsound, hne'⟩ := Row.Sound.checkDeadLetter (hmax.trans h.row.max) hs (hp.trans hnone)
  have hcount := h.counted
  have hzero : ¬ 0 < w.successes := fun hpos => hne (h.successes.mp hpos)
  refine ⟨hsound, h.marks, ?_, fun hpos => absurd hpos hzero, fun hst => absurd hst hne'⟩
  rw [checkDeadLetter_retryCount]
  exact Nat.le_trans hr hcount

theorem step_inv (w : World) (e : Event) (h : Inv n w) : Inv n (w.step e) := by
  have hc := change w h.marks e
  generalize w.step e = w' at hc
  cases hc with
  | idle => exact h
  | tick d => exact ⟨h.row, h.marks, h.counted, h.successes⟩
  | claimed hr =>
    obtain ⟨hrow, hne⟩ := h.row.claim w.clock hr
    have hs := h.successes
    have hcount := h.counted
    refine ⟨hrow, ?_, ?_, ?_⟩
    · exact forall_start h.marks fun hm => nomatch hm
    · simpa [World.claim, World.failures, Row.claim, List.countP_append] using hcount
    · simpa [World.claim, World.successes, Row.claim, List.countP_append, hne] using hs
  | worked hk hm ho =>
    obtain ⟨hf, hs⟩ := worked_counts hk hm ho
    refine ⟨h.row, forall_step h.marks fun hb => ?_, by rw [hf]; exact h.counted, by rw [hs]; exact h.successes⟩
    rw [hm] at hb
    rw [ho hb]
    exact h.marks _ (List.mem_of_getElem? hk) hb
  | @marked k o jitter hk =>
    obtain ⟨hf, hs⟩ := marked_counts (w.row.mark w.clock jitter o) hk
    have hcount := h.counted
    have hsucc := h.successes
    have hmarks : ∀ a ∈ w.attempts.set k ⟨some o, true, false⟩, a.marked = true → a.outcome.isSome :=
      forall_step h.marks fun _ => rfl
    by_cases ho : o = .accepted
    · subst ho
      refine ⟨h.row.markPublished w.clock, hmarks, ?_, ?_⟩
      · rw [hf]
        exact hcount
      · rw [hs]
        simp [Row.mark, Row.markPublished]
    · -- both kinds of error are marked as failed
      have hmark : w.row.mark w.clock jitter o = w.row.markFailed w.clock jitter := by
        cases o <;> first | rfl | exact absurd rfl ho
      rw [if_neg ho] at hf hs
      simp only [hmark] at hf hs ⊢
      rcases h.row.markFailed w.clock jitter with ⟨hp, heq⟩ | ⟨hp, hsound, hne, hretry⟩
      · rw [heq] at hf hs ⊢
        refine ⟨h.row, hmarks, ?_, ?_⟩
        · rw [hf]
          exact Nat.le_succ_of_le hcount
        · rw [hs]
          exact hsucc
      · refine ⟨hsound, hmarks, ?_, ?_⟩
        · rw [hf]
          simp only [hretry]
          omega
        · rw [hs]
          have : ¬ 0 < w.successes := fun hpos => hp (hsucc.mp hpos)
          exact ⟨fun hpos => absurd hpos this, fun hst => absurd hst hne⟩
  | reaped hr =>
    have hne : w.row.status ≠ .published := by simp [hr]
    exact h.failed hne { w.row with status := .failed, nextAttemptAt := some w.clock } rfl rfl rfl le_rfl
  | replayed hr =>
    have hne : w.row.status ≠ .published := by simp [hr]
    exact h.failed hne { w.row with status := .failed, retryCount := 0, nextAttemptAt := some w.clock } rfl rfl
      rfl
      (Nat.zero_le _)

theorem run_inv_outbox (h : Inv n w) (es : List Event) : Inv n (run World.step w es) := run_inv step_inv h es

/-! ## Published is final -/

theorem successes_step (h : Inv n w) (e : Event) : w.successes ≤ (w.step e).successes := by
  have hc := change w h.marks e
  generalize w.step e = w' at hc
  cases hc with
  | claimed hr => simp [World.claim, World.successes, List.countP_append]
  | worked hk hm ho => exact Nat.le_of_eq (worked_counts hk hm ho).2.symm
  | marked jitter hk =>
    rw [(marked_counts _ hk).2]
    omega
  | idle | tick | reaped | replayed => exact le_rfl

theorem published_forever (h : Inv n w) (hp : w.row.status = .published) (es : List Event) :
    (run World.step w es).row.status = .published := by
  have hstep : ∀ (w : World) (e : Event), Inv n w ∧ 0 < w.successes → Inv n (w.step e) ∧
      0 < (w.step e).successes := by
    intro w e hw
    exact ⟨step_inv w e hw.1, Nat.lt_of_lt_of_le hw.2 (successes_step hw.1 e)⟩
  obtain ⟨hinv, hpos⟩ := run_inv hstep ⟨h, h.successes.mpr hp⟩ es
  exact hinv.successes.mp hpos

/-! ## Every other event is claimed again -/

/-- What the loops of a relay do to the event after `wait`. -/
def relayRound (wait olderThan : ℕ) : List Event :=
  [.tick wait, .reapStuck olderThan, .claimPending, .claimFailedForRetry]

theorem claimed_attempts (w : World) : w.claim.attempts.length = w.attempts.length + 1 := by simp [World.claim]

/-- A row that waits for a retry is claimed once its backoff is over. -/
theorem claimFailed_claims (hs : w.row.status = .failed) (hr : w.row.retryCount < w.row.maxRetries)
    (hn : w.row.nextAttemptAt.all (· ≤ w.clock)) :
    run World.step w [.claimPending, .claimFailedForRetry] = w.claim := by
  have hretry : w.row.retryable w.clock = true := by simpa [Row.retryable, hs, hr] using hn
  simp [World.step, hs, hretry]

theorem claimed_again (h : Inv n w) (hp : w.row.status ≠ .published) (hd : w.row.status ≠ .dead) (olderThan : ℕ) :
    ∃ wait, (run World.step w (relayRound wait olderThan)).attempts.length = w.attempts.length + 1 := by
  have hmax := h.row.max
  cases hs : w.row.status with
  | pending =>
    refine ⟨0, ?_⟩
    simp [relayRound, World.step, Row.stuck, hs, World.claim, Row.claim, Row.retryable]
  | processing =>
    -- past the deadline of the reaper the row is failed, with its next attempt due at once
    obtain ⟨at₀, hat⟩ := Option.isSome_iff_exists.mp (h.row.processing hs)
    have hlt := h.row.waiting (.inr (.inl hs))
    refine ⟨(at₀ - w.clock).toNat + olderThan * 1000000 + 1, ?_⟩
    set wait := (at₀ - w.clock).toNat + olderThan * 1000000 + 1 with hwait
    have hstuck : w.row.stuck (w.clock + wait) olderThan = true := by
      simp only [Row.stuck, hs, hat, Option.any_some, decide_eq_true_eq, true_and]
      omega
    have hreap : (w.row.reap (w.clock + wait)).status = .failed := by
      rw [Row.reap, checkDeadLetter_status _ rfl, if_pos (by simpa [hmax] using hlt)]
    have hnext : (w.row.reap (w.clock + wait)).nextAttemptAt = some (w.clock + wait) := by
      unfold Row.reap Row.checkDeadLetter
      split <;> rfl
    rw [relayRound, run_cons, run_cons]
    simp only [World.step, hstuck, if_true]
    rw [claimFailed_claims hreap (by simpa [Row.reap, hmax] using hlt) (by simp [hnext])]
    exact claimed_attempts _
  | failed =>
    have hlt := h.row.waiting (.inr (.inr hs))
    obtain ⟨wait, hw⟩ : ∃ wait : ℕ, w.row.nextAttemptAt.all (· ≤ w.clock + wait) := by
      cases hn : w.row.nextAttemptAt with
      | none => exact ⟨0, rfl⟩
      | some t => exact ⟨(t - w.clock).toNat, by simp only [Option.all_some, decide_eq_true_eq]; omega⟩
    refine ⟨wait, ?_⟩
    have hstuck : w.row.stuck (w.clock + wait) olderThan = false := by simp [Row.stuck, hs]
    rw [relayRound, run_cons, run_cons]
    simp only [World.step, hstuck, Bool.false_eq_true, if_false]
    rw [claimFailed_claims (w := { w with clock := w.clock + wait }) hs (by rw [hmax]; exact hlt) hw]
    exact claimed_attempts _
  | published => exact absurd hs hp
  | dead => exact absurd hs hd

/-- **The status of an event is true** in every state that the relay replicas reach: a published event was
accepted by the broker and stays published, a dead one has as many attempts that ended with an error as it has
retries and no attempt that recorded a success, and any other is claimed again. -/
theorem status_truthful (clock : ℤ) {n : ℕ} (hn : 0 < n) (es : List Event) :
    let w := run World.step (World.inserted clock n) es
    (w.row.status = .published → ∃ a ∈ w.attempts, a.accepted) ∧
      (w.row.status = .published → ∀ later, (run World.step w later).row.status = .published) ∧
      (w.row.status = .dead →
        n ≤ w.attempts.countP Attempt.errored ∧ ∀ a ∈ w.attempts, a.accepted → a.marked = false) ∧
      (w.row.status ≠ .published → w.row.status ≠ .dead → ∀ olderThan, ∃ wait,
        (run World.step w (relayRound wait olderThan)).attempts.length = w.attempts.length + 1) := by
  intro w
  have h : Inv n w := run_inv_outbox (inserted_inv clock hn) es
  refine ⟨fun hp => ?_, fun hp => published_forever h hp, fun hd => ⟨?_, ?_⟩, claimed_again h⟩
  · obtain ⟨a, ha, hm⟩ := List.countP_pos_iff.mp (h.successes.mpr hp)
    exact ⟨a, ha, (Bool.and_eq_true_iff.mp hm).1⟩
  · have hfail : w.failures ≤ w.attempts.countP Attempt.errored :=
      List.countP_mono_left fun a _ hm => (Bool.and_eq_true_iff.mp hm).1
    have hcount := h.counted
    have hmax := h.row.dead hd
    omega
  · intro a ha hacc
    have hzero : ¬ 0 < w.successes := by simp [h.successes, hd]
    cases hm : a.marked with
    | false => rfl
    | true => exact absurd (List.countP_pos_iff.mpr ⟨a, ha, by simp [hacc, hm]⟩) hzero

/-- An attempt that stops after the publish, and the reaper after its deadline. -/
def lostMark : List Event :=
  [.claimPending, .publish 0 .accepted, .crash 0, .tick 601000000, .reapStuck 600]

/-- An attempt that fails, after the backoff of the one before. -/
def failedRetry (k : ℕ) : List Event :=
  [.tick 1350000000, .claimFailedForRetry, .publish k .failed, .mark k true 0]

theorem status_truthful_published :
    0 < 5 ∧ ∀ later,
      (run World.step (run World.step (World.inserted 0 5) [.claimPending, .publish 0 .accepted, .mark 0 true 0])
        later).row.status = .published :=
  ⟨by decide, (status_truthful 0 (by decide) _).2.1 (by decide)⟩

/-- **An accepted event may end as dead**: the relay stopped between the publish and its mark, and the five
attempts after it failed. -/
theorem dead_though_accepted :
    let w := run World.step (World.inserted 0 5) (lostMark ++ [1, 2, 3, 4, 5].flatMap failedRetry)
    w.row.status = .dead ∧ ∃ a ∈ w.attempts, a.accepted := by
  decide +kernel

end Seev.Ledger.Outbox
