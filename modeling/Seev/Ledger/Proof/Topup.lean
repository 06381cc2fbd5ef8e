import Seev.Ledger.Proof.Step

/-!
# Quoted top-ups name their payin

`execTransfer` refuses a `money_in` whose metadata has a `fee_quote_id` and no
`payin_id`. The check stands in every attempt before anything of it can commit, so no
transaction of that shape is ever posted, in any run.
-/

namespace Seev.Ledger

open Lib

variable {E : Env} {w : World} {s s' : Session} {db : Db} {now : ℕ} {rc : ResolvedCommand}

/-- A `money_in` with a `fee_quote_id` has a `payin_id`. -/
def QuoteNamed (rc : ResolvedCommand) : Prop :=
  rc.type = .moneyIn → (rc.metadata .feeQuoteID).isSome → (rc.metadata .payinID).isSome

theorem checkTopupQuote_named (h : checkTopupQuote E db rc = .ok ()) : QuoteNamed rc := by
  intro ht hq
  unfold checkTopupQuote at h
  rw [if_neg (not_not.2 ht), if_pos hq] at h
  unfold checkQuotedTopup at h
  obtain ⟨hpayin, -⟩ := guard_eq_ok.1 h
  simpa [Option.isSome_iff_ne_none] using hpayin

/-- The error on a quoted top-up without a payin. -/
theorem checkTopupQuote_unnamed (ht : rc.type = .moneyIn) (hq : (rc.metadata .feeQuoteID).isSome)
    (hp : rc.metadata .payinID = none) :
    checkTopupQuote E db rc =
      .error (.newBizErr .quoteMismatch "top-up fee snapshot is missing payin_id") := by
  unfold checkTopupQuote
  rw [if_neg (not_not.2 ht), if_pos hq]
  unfold checkQuotedTopup
  simp [hp]

theorem quoteStep_named (h : s.quoteStep E now db = .ok s') : QuoteNamed s'.rc := by
  unfold Session.quoteStep at h
  obtain ⟨q, -, h⟩ := bind_eq_ok.1 h
  cases q with
  | none | some =>
    obtain ⟨_, hcheck, h⟩ := bind_eq_ok.1 h
    cases h
    exact checkTopupQuote_named hcheck

/-- The session has passed the quote check. -/
def Session.PastQuote (s : Session) : Prop := s.phase ≠ .insert ∧ s.phase ≠ .quote

theorem exec_named (h : s.exec E now db = .ok s') (hs : s.PastQuote → QuoteNamed s.rc)
    (hs' : s'.PastQuote) : QuoteNamed s'.rc := by
  by_cases hq : s.phase = .quote
  · unfold Session.exec at h
    obtain ⟨p, -, h⟩ := bind_eq_ok.1 h
    simp only [hq] at h
    exact quoteStep_named h
  · rw [(exec_continues h).command hq]
    refine hs ⟨fun hi => ?_, hq⟩
    -- the first statement leads to the quote check, not past it
    obtain ⟨row, -, rfl⟩ := exec_insert hi h
    exact hs'.2 rfl

/-- Every session past the quote check and every posted transaction names its payin. -/
structure AllNamed (w : World) : Prop where
  sessions : ∀ sid s, w.sessions sid = some s → s.PastQuote → QuoteNamed s.rc
  posted : ∀ p ∈ w.posted, QuoteNamed p.2

theorem AllNamed.step (h : AllNamed w) (ev : Event) : AllNamed (w.step E ev) := by
  cases step_move E w ev with
  | resumes _ hposted hsessions =>
    refine ⟨fun sid s' hs' => ?_, by rw [hposted]; exact h.posted⟩
    cases hsessions sid s' hs' with
    | untouched hs _ => exact h.sessions sid s' hs
    | accepted txID cmd rc _ _ _ hstart =>
      subst hstart
      exact fun hp => absurd rfl hp.1
    | retried s txID _ hstart =>
      subst hstart
      exact fun hp => absurd rfl hp.1
    | statement s hs _ hexec _ => exact exec_named hexec (h.sessions sid s hs)
  | commits sid s hs hphase _ hw =>
    rw [hw]
    refine ⟨fun sid' s' hs' => h.sessions sid' s' (endSession_sessions hs').2.1, fun p hp => ?_⟩
    have hpast : s.PastQuote := by
      rcases hphase with hphase | hphase <;> simp [Session.PastQuote, hphase]
    simp only [World.commit] at hp
    split at hp
    · rcases List.mem_append.1 hp with hp | hp
      · exact h.posted p hp
      · cases List.mem_singleton.1 hp
        exact h.sessions sid s hs hpast
    · exact h.posted p hp

/-- **No posted top-up has a fee quote without its payin**, in any run. -/
theorem posted_named (E : Env) (db : Db) (now : ℕ) (es : List Event) :
    ∀ p ∈ (run (World.step E) (.idle db now) es).posted, QuoteNamed p.2 := by
  have hidle : AllNamed (.idle db now) := by
    refine ⟨fun sid s hs => ?_, fun p hp => ?_⟩
    · simp [World.idle] at hs
    · simp [World.idle] at hp
  exact (run_inv (fun w e hw => hw.step e) hidle es).posted

/-! ## The command of a posting -/

/-- `prepare` keeps the identity of a command without a quote of its own, and its metadata. -/
theorem prepare_keeps {cmd : Command} (hq : cmd.quoteID = "") (h : prepare E db now cmd = .ok rc) :
    rc.idempotencyScope = cmd.idempotencyScope ∧ rc.idempotencyKey = cmd.idempotencyKey ∧
      rc.type = cmd.type ∧ rc.metadata = cmd.metadata := by
  have hpeek : peekQuote E db now cmd = cmd := by simp [peekQuote, hq]
  unfold prepare at h
  obtain ⟨_, -, h⟩ := bind_eq_ok.1 h
  obtain ⟨_, -, h⟩ := bind_eq_ok.1 h
  rw [hpeek] at h
  obtain ⟨_, -, h⟩ := bind_eq_ok.1 h
  obtain ⟨_, -, h⟩ := bind_eq_ok.1 h
  obtain ⟨-, h⟩ := guard_eq_ok.1 h
  obtain ⟨-, h⟩ := guard_eq_ok.1 h
  obtain ⟨-, h⟩ := guard_eq_ok.1 h
  cases h
  exact ⟨rfl, rfl, rfl, rfl⟩

end Seev.Ledger
