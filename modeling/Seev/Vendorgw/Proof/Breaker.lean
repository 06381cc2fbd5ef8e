import Mathlib.Tactic.Linarith
import Seev.Vendorgw.Breaker

/-!
# The Redis breaker against the breaker in memory

* `breakers_agree_iff`: the two breakers give the same answers exactly when the
  threshold and the cooldown need no default, and the durations that Redis counts in
  milliseconds lose nothing by it.

The simulation is `Mirrors`: the hash has the tracker's state, failures and time
of opening, and the probe token is there exactly in the half-open state.
-/

namespace Seev.Vendorgw

open Lib (answers next Along run)

variable {ft : ℤ} {cd ttl : Duration} {v : VendorState} {k : VendorKeys} {now : Millis}

/-- A vendor's entry in memory and its keys in Redis. -/
inductive Mirrors (ttl : ℤ) : VendorState → VendorKeys → Prop
  | closed {s : Option HealthState} (hs : s = none ∨ s = some .closed) (n : ℕ) (o o' p : Option Millis) :
      Mirrors ttl ⟨.closed, n, o, p⟩ ⟨s, n, o', none⟩
  | opened (n : ℕ) (t : Millis) (p : Option Millis) :
      Mirrors ttl ⟨.opened, n, some t, p⟩ ⟨some .opened, n, some t, none⟩
  | halfOpen (n : ℕ) (o o' : Option Millis) (p : Millis) :
      Mirrors ttl ⟨.halfOpen, n, o, some p⟩ ⟨some .halfOpen, n, o', some (p + ttl)⟩

theorem Mirrors.recordSuccess (_ : Mirrors ttl v k) : Mirrors ttl v.recordSuccess (recordSuccessScript k) :=
  .closed (.inr rfl) 0 none (some 0) v.lastProbeAt

theorem Mirrors.recordFailure (h : Mirrors ttl v k) (now : Millis) :
    Mirrors ttl (v.recordFailure ft now) (recordFailureScript now ft k) := by
  cases h with
  | @closed s hs n o o' p =>
    have hhalf : s ≠ some .halfOpen := by rcases hs with rfl | rfl <;> decide
    by_cases hn : ft ≤ ((n + 1 : ℕ) : ℤ)
    · simp only [VendorState.recordFailure, recordFailureScript, hs, hhalf, hn, reduceCtorEq, and_self, if_true,
        if_false]
      exact .opened (n + 1) now p
    · simp only [VendorState.recordFailure, recordFailureScript, hs, hhalf, hn, reduceCtorEq, and_false, if_false]
      exact .closed hs (n + 1) o o' p
  | opened n t p => exact .opened (n + 1) t p
  | halfOpen n o o' p => exact .opened n now (some p)

/-- The probe of a half-open vendor has not outlived `ttl` milliseconds. -/
def Held (ttl : ℤ) (now : Millis) (v : VendorState) : Prop :=
  v.state = .halfOpen → ∀ p, v.lastProbeAt = some p → now ≤ p + ttl

theorem Mirrors.allow {cdms : ℤ} (h : Mirrors ttl v k) (hcd : ∀ e : ℤ, e * millisecond < cd ↔ e < cdms)
    (httl : 0 < ttl) (hheld : Held ttl now v) :
    ∃ k', allowScript now cdms ttl k = some (k', (v.allow cd now).2) ∧ Mirrors ttl (v.allow cd now).1 k' := by
  cases h with
  | closed hs n o o' p => exact ⟨_, if_pos hs, .closed hs n o o' p⟩
  | opened n t p =>
    by_cases hcool : now - t < cdms
    · have hsince : since now (some t) cd = true := decide_eq_true ((hcd _).2 hcool)
      refine ⟨_, ?_, by simp only [VendorState.allow, hsince, if_true]; exact .opened n t p⟩
      simp [allowScript, VendorState.allow, hsince, hcool]
    · have hsince : since now (some t) cd = false := decide_eq_false fun hlt => hcool ((hcd _).1 hlt)
      refine ⟨_, ?_, by simp only [VendorState.allow, hsince]; exact .halfOpen n (some t) (some t) now⟩
      simp [allowScript, VendorState.allow, VendorKeys.probing, hsince, hcool, httl]
  | halfOpen n o o' p =>
    have hlive : now ≤ p + ttl := hheld rfl p rfl
    refine ⟨_, ?_, .halfOpen n o o' p⟩
    simp [allowScript, VendorState.allow, VendorKeys.probing, hlive]

/-! ## Durations in milliseconds -/

theorem milliseconds_le (d : Duration) (hd : 0 ≤ d) (e : ℤ) :
    e ≤ Duration.milliseconds d ↔ e * millisecond ≤ d := by
  rw [Duration.milliseconds, Int.tdiv_eq_ediv_of_nonneg hd]
  exact Int.le_ediv_iff_mul_le (by decide)

/-- A whole number of milliseconds loses nothing. -/
theorem lt_milliseconds (d : Duration) (hd : 0 ≤ d) (hdvd : millisecond ∣ d) (e : ℤ) :
    e * millisecond < d ↔ e < Duration.milliseconds d := by
  obtain ⟨m, rfl⟩ := hdvd
  rw [Duration.milliseconds, Int.tdiv_eq_ediv_of_nonneg hd, Int.mul_ediv_cancel_left _ (by decide),
    mul_comm e, mul_lt_mul_iff_right₀ (by decide)]

/-! ## Whole runs -/

/-- No half-open probe outlives `probeTTL`, at any call on its vendor. -/
def ProbeHeld (probeTTL : Duration) (t : HealthTracker) (c : Call) : Prop :=
  (t.vendors c.vendor).state = .halfOpen →
    ∀ p, (t.vendors c.vendor).lastProbeAt = some p → (c.now - p) * millisecond ≤ probeTTL

/-- **The two breakers answer alike**: on every sequence of calls at non-decreasing times in which
no half-open probe outlives the token's time to live. -/
def Agree (failureThreshold : ℤ) (cooldown probeTTL : Duration) : Prop :=
  ∀ calls : List Call, (calls.map Call.now).Pairwise (· ≤ ·) →
    Along (next HealthTracker.step)
      (ProbeHeld (newDistributedBreaker failureThreshold cooldown probeTTL).probeTTL)
      (newHealthTracker failureThreshold cooldown) calls →
    answers HealthTracker.step (newHealthTracker failureThreshold cooldown) calls =
      answers DistributedBreaker.step (newDistributedBreaker failureThreshold cooldown probeTTL) calls

/-- The parameters both constructors read alike. -/
structure Plain (failureThreshold : ℤ) (cooldown probeTTL : Duration) : Prop where
  threshold_pos : 0 < failureThreshold
  cooldown_pos : 0 < cooldown
  whole : millisecond ∣ cooldown
  probe : probeTTL ≤ 0 ∨ millisecond ≤ probeTTL

/-- The token lives at least a millisecond. -/
theorem probeTTL_pos (h : ttl ≤ 0 ∨ millisecond ≤ ttl) :
    millisecond ≤ (newDistributedBreaker ft cd ttl).probeTTL := by
  show millisecond ≤ if ttl ≤ 0 then 30000 * millisecond else ttl
  split_ifs with hle
  · decide
  · exact h.resolve_left hle

/-- The tracker and the breaker in the same run. -/
structure Related (probeTTL : Duration) (t : HealthTracker) (d : DistributedBreaker) : Prop where
  threshold : t.failureThreshold = d.failureThreshold
  cooldown : ∀ e : ℤ, e * millisecond < t.cooldown ↔ e < Duration.milliseconds d.cooldown
  probe : d.probeTTL = probeTTL
  live : millisecond ≤ probeTTL
  mirrors : ∀ vendor, Mirrors (Duration.milliseconds probeTTL) (t.vendors vendor) (d.keys vendor)

variable {t : HealthTracker} {d : DistributedBreaker} {c : Call}

theorem Related.update (h : Related ttl t d) {v' : VendorState} {k' : VendorKeys} (vendor : Vendor)
    (hm : Mirrors (Duration.milliseconds ttl) v' k') :
    Related ttl { t with vendors := Function.update t.vendors vendor v' }
      { d with keys := Function.update d.keys vendor k' } := by
  refine ⟨h.threshold, h.cooldown, h.probe, h.live, fun other => ?_⟩
  by_cases heq : other = vendor
  · subst heq
    simpa using hm
  · simpa [heq] using h.mirrors other

theorem Related.step (h : Related ttl t d) (hheld : ProbeHeld ttl t c) :
    Related ttl (next HealthTracker.step t c) (next DistributedBreaker.step d c) ∧
      (t.step c).2 = (d.step c).2 := by
  obtain ⟨now, vendor, op⟩ := c
  have hm := h.mirrors vendor
  have httl : 0 ≤ ttl := le_trans (by decide) h.live
  cases op with
  | allow =>
    have hpos : 0 < Duration.milliseconds ttl := (milliseconds_le ttl httl 1).2 (by rw [one_mul]; exact h.live)
    have hlive : Held (Duration.milliseconds ttl) now (t.vendors vendor) := by
      intro hstate p hp
      have := (milliseconds_le ttl httl (now - p)).2 (hheld hstate p hp)
      linarith
    obtain ⟨k', hscript, hm'⟩ := hm.allow h.cooldown hpos hlive
    have hstep : d.step ⟨now, vendor, .allow⟩ =
        ({ d with keys := Function.update d.keys vendor k' },
          some ((t.vendors vendor).allow t.cooldown now).2) := by
      simp only [DistributedBreaker.step, h.probe, hscript]
    rw [next, next, hstep]
    exact ⟨h.update vendor hm', rfl⟩
  | recordSuccess => exact ⟨h.update vendor hm.recordSuccess, rfl⟩
  | recordFailure => exact ⟨h.update vendor (h.threshold ▸ hm.recordFailure now), rfl⟩

theorem related_new (h : Plain ft cd ttl) :
    Related (newDistributedBreaker ft cd ttl).probeTTL (newHealthTracker ft cd)
      (newDistributedBreaker ft cd ttl) where
  threshold := if_neg h.threshold_pos.not_ge
  cooldown e := by
    show e * millisecond < (if cd ≤ 0 then _ else cd) ↔ _
    rw [if_neg h.cooldown_pos.not_ge]
    exact lt_milliseconds cd h.cooldown_pos.le h.whole e
  probe := rfl
  live := probeTTL_pos h.probe
  mirrors _ := .closed (.inl rfl) 0 none none none

theorem agree_of_plain (h : Plain ft cd ttl) : Agree ft cd ttl := fun _ _ hheld =>
  Lib.answers_eq (R := Related _) (fun _ _ _ hR hC => hR.step hC) (related_new h) hheld

/-! ## Runs on which the breakers differ

Some failures of one vendor at time 0 trip the breaker; one or two questions then tell the two apart.
-/

def failure : Call := ⟨0, "vendor", .recordFailure⟩

def ask (now : Millis) : Call := ⟨now, "vendor", .allow⟩

/-- The tracker after `n` failures. -/
def tripped (t : HealthTracker) (n : ℕ) : HealthTracker :=
  run (next HealthTracker.step) t (List.replicate n failure)

def trippedKeys (d : DistributedBreaker) (n : ℕ) : DistributedBreaker :=
  run (next DistributedBreaker.step) d (List.replicate n failure)

theorem tripped_eq (t : HealthTracker) (n : ℕ) :
    tripped t n = { t with
      vendors := (Function.update t.vendors "vendor"
        ((VendorState.recordFailure t.failureThreshold 0)^[n] (t.vendors "vendor"))) } := by
  induction n with
  | zero => simp [tripped]
  | succ n ih =>
    rw [tripped, List.replicate_succ', Lib.run_append, ← tripped, ih, Function.iterate_succ_apply']
    simp [next, HealthTracker.step, failure, VendorState.call]

theorem trippedKeys_eq (d : DistributedBreaker) (n : ℕ) :
    trippedKeys d n = { d with
      keys := (Function.update d.keys "vendor"
        ((recordFailureScript 0 d.failureThreshold)^[n] (d.keys "vendor"))) } := by
  induction n with
  | zero => simp [trippedKeys]
  | succ n ih =>
    rw [trippedKeys, List.replicate_succ', Lib.run_append, ← trippedKeys, ih, Function.iterate_succ_apply']
    simp [next, DistributedBreaker.step, failure]

/-- Below the threshold the failures are only counted. -/
theorem recordFailure_below {n : ℕ} (hn : (n : ℤ) < ft) :
    (VendorState.recordFailure ft 0)^[n] .fresh = ⟨.closed, n, none, none⟩ := by
  induction n with
  | zero => rfl
  | succ n ih =>
    rw [Function.iterate_succ_apply', ih (by push_cast at hn; linarith)]
    simp only [VendorState.recordFailure, reduceCtorEq, if_false, true_and, if_neg hn.not_ge]

theorem recordFailure_trips (hft : 0 < ft) :
    (VendorState.recordFailure ft 0)^[ft.toNat] .fresh = ⟨.opened, ft.toNat, some 0, none⟩ := by
  obtain ⟨n, rfl⟩ : ∃ n : ℕ, ft = n + 1 := ⟨(ft - 1).toNat, by omega⟩
  have hn : ((n : ℤ) + 1).toNat = n + 1 := by omega
  rw [hn, Function.iterate_succ_apply', recordFailure_below (by omega)]
  simp [VendorState.recordFailure]

/-- With the same threshold Redis counts and trips alike. -/
theorem script_trips (hft : 0 < ft) :
    (recordFailureScript 0 ft)^[ft.toNat] .empty = ⟨some .opened, ft.toNat, some 0, none⟩ := by
  have hmirrors : ∀ n, Mirrors 0 ((VendorState.recordFailure ft 0)^[n] .fresh)
      ((recordFailureScript 0 ft)^[n] .empty) := by
    intro n
    induction n with
    | zero => exact .closed (.inl rfl) 0 none none none
    | succ n ih => rw [Function.iterate_succ_apply', Function.iterate_succ_apply']; exact ih.recordFailure 0
  have h := hmirrors ft.toNat
  rw [recordFailure_trips hft] at h
  generalize (recordFailureScript 0 ft)^[ft.toNat] .empty = k at h
  cases h with
  | opened => rfl

/-- A threshold that is not positive trips at the first failure. -/
theorem script_trips_at_once (hft : ft ≤ 0) (n : ℕ) :
    (recordFailureScript 0 ft)^[n + 1] .empty = ⟨some .opened, n + 1, some 0, none⟩ := by
  induction n with
  | zero =>
    have hle : ft ≤ 1 := hft.trans zero_le_one
    simp [recordFailureScript, VendorKeys.empty, hle]
  | succ n ih =>
    rw [Function.iterate_succ_apply', ih]
    simp [recordFailureScript]

theorem failures_held (P : Duration) (n : ℕ) (h : (t.vendors "vendor").state ≠ .halfOpen) :
    Along (next HealthTracker.step) (ProbeHeld P) t (List.replicate n failure) := by
  induction n generalizing t with
  | zero => trivial
  | succ n ih =>
    refine ⟨fun hhalf => absurd hhalf h, ih ?_⟩
    show (Function.update t.vendors "vendor" ((t.vendors "vendor").recordFailure t.failureThreshold 0)
      "vendor").state ≠ _
    rw [Function.update_self]
    simp only [VendorState.recordFailure, if_neg h]
    split_ifs
    · simp
    · exact h

theorem failures_answers (n : ℕ) :
    answers HealthTracker.step t (List.replicate n failure) =
      answers DistributedBreaker.step d (List.replicate n failure) := by
  induction n generalizing t d with
  | zero => rfl
  | succ n ih => exact congrArg (none :: ·) ih

/-- After agreement and `n` failures, the questions agree as well. -/
theorem Agree.asks (h : Agree ft cd ttl) (n : ℕ) (asks : List Call)
    (hsorted : (asks.map Call.now).Pairwise (· ≤ ·)) (hpos : ∀ c ∈ asks, 0 ≤ c.now)
    (hheld : Along (next HealthTracker.step) (ProbeHeld (newDistributedBreaker ft cd ttl).probeTTL)
      (tripped (newHealthTracker ft cd) n) asks) :
    answers HealthTracker.step (tripped (newHealthTracker ft cd) n) asks =
      answers DistributedBreaker.step (trippedKeys (newDistributedBreaker ft cd ttl) n) asks := by
  have hall := h (List.replicate n failure ++ asks) ?_ ((failures_held _ n HealthState.noConfusion).append hheld)
  · rw [Lib.answers_append, Lib.answers_append, failures_answers] at hall
    exact List.append_cancel_left hall
  · rw [List.map_append, List.map_replicate, List.pairwise_append]
    refine ⟨List.pairwise_replicate.2 (.inr le_rfl), hsorted, fun a ha b hb => ?_⟩
    obtain ⟨c, hc, rfl⟩ := List.mem_map.1 hb
    rw [List.eq_of_mem_replicate ha]
    exact hpos c hc

/-! ### Answers to the questions -/

theorem ask_closed (now : Millis) {n : ℕ} {o p : Option Millis} (h : t.vendors "vendor" = ⟨.closed, n, o, p⟩) :
    t.step (ask now) = (t, some true) := by
  simp only [HealthTracker.step, ask, VendorState.call, VendorState.allow, h]
  rw [← h, Function.update_eq_self]

theorem ask_cooling {n : ℕ} {p : Option Millis} (h : t.vendors "vendor" = ⟨.opened, n, some 0, p⟩)
    (hcool : now * millisecond < t.cooldown) : (t.step (ask now)).2 = some false := by
  simp [HealthTracker.step, ask, VendorState.call, VendorState.allow, since, h, hcool]

theorem ask_probe {n : ℕ} {p : Option Millis} (h : t.vendors "vendor" = ⟨.opened, n, some 0, p⟩)
    (hcool : t.cooldown ≤ now * millisecond) :
    (t.step (ask now)).2 = some true ∧
    (next HealthTracker.step t (ask now)).vendors "vendor" = ⟨.halfOpen, n, some 0, some now⟩ := by
  simp [next, HealthTracker.step, ask, VendorState.call, VendorState.allow, since, h, hcool.not_gt]

theorem ask_halfOpen {n : ℕ} {o p : Option Millis} (h : t.vendors "vendor" = ⟨.halfOpen, n, o, p⟩) :
    (t.step (ask now)).2 = some false := by
  simp [HealthTracker.step, ask, VendorState.call, VendorState.allow, h]

section

variable (now) {n n' : ℕ} {o p : Option Millis} (h : d.keys "vendor" = ⟨some .opened, n, some 0, none⟩)
  (hlocal : d.localTracker.vendors "vendor" = ⟨.closed, n', o, p⟩)
    (hcool : Duration.milliseconds d.cooldown ≤ now)

include h hlocal hcool

/-- Past the cooldown a token that Redis refuses leaves the answer to the fallback. -/
theorem ask_refused (httl : Duration.milliseconds d.probeTTL ≤ 0) : d.step (ask now) = (d, some true) := by
  have hfallback := ask_closed now hlocal
  simp only [ask] at hfallback
  simp only [DistributedBreaker.step, ask, h, allowScript, reduceCtorEq, or_self, false_and, Option.some.injEq,
    Option.getD_some, sub_zero, hcool.not_gt, and_false, httl, if_true, if_false, hfallback]

/-- Past the cooldown Redis allows the call, as the probe or by the fallback. -/
theorem ask_keys : (d.step (ask now)).2 = some true := by
  by_cases httl : Duration.milliseconds d.probeTTL ≤ 0
  · rw [ask_refused now h hlocal hcool httl]
  · simp [DistributedBreaker.step, ask, h, allowScript, VendorKeys.probing, hcool.not_gt, httl]

end

section

variable (ft cd ttl)

theorem tracker_threshold : 0 < (newHealthTracker ft cd).failureThreshold := by
  show 0 < if ft ≤ 0 then (5 : ℤ) else ft
  split_ifs with h
  · decide
  · exact not_le.1 h

theorem tracker_cooldown : 0 < (newHealthTracker ft cd).cooldown := by
  show 0 < if cd ≤ 0 then 30000 * millisecond else cd
  split_ifs with h
  · decide
  · exact not_le.1 h

/-- At its threshold the tracker is open. -/
theorem tripped_opened :
    (tripped (newHealthTracker ft cd) (newHealthTracker ft cd).failureThreshold.toNat).vendors "vendor" =
    ⟨.opened, (newHealthTracker ft cd).failureThreshold.toNat, some 0, none⟩ := by
  rw [tripped_eq]
  simp only [Function.update_self]
  exact recordFailure_trips (tracker_threshold ft cd)

variable {ft} in
theorem trippedKeys_opened (n : ℕ) (h : ft ≤ 0 ∨ n + 1 = ft.toNat) :
    (trippedKeys (newDistributedBreaker ft cd ttl) (n + 1)).keys "vendor" =
      ⟨some .opened, n + 1, some 0, none⟩ := by
  rw [trippedKeys_eq]
  simp only [Function.update_self]
  rcases h with hle | heq
  · exact script_trips_at_once hle n
  · have hft : 0 < ft := by omega
    rw [heq]
    exact script_trips hft

theorem trippedKeys_local (n : ℕ) :
    (trippedKeys (newDistributedBreaker ft cd ttl) n).localTracker = newHealthTracker ft cd := by
  rw [trippedKeys_eq]
  rfl

theorem trippedKeys_probeTTL (n : ℕ) :
    (trippedKeys (newDistributedBreaker ft cd ttl) n).probeTTL = (newDistributedBreaker ft cd ttl).probeTTL := by
  rw [trippedKeys_eq]

theorem trippedKeys_cooldown (n : ℕ) : (trippedKeys (newDistributedBreaker ft cd ttl) n).cooldown = cd := by
  rw [trippedKeys_eq]
  rfl

end

/-- **The cooldowns elapse together**, by one question after the failures that open both. -/
theorem Agree.cooldown (h : Agree ft cd ttl) (hnow : 0 ≤ now) (hcool : Duration.milliseconds cd ≤ now) :
    (newHealthTracker ft cd).cooldown ≤ now * millisecond := by
  by_contra hlt
  have hpos := tracker_threshold ft cd
  obtain ⟨n, hn⟩ : ∃ n, (newHealthTracker ft cd).failureThreshold.toNat = n + 1 :=
    ⟨(newHealthTracker ft cd).failureThreshold.toNat - 1, by omega⟩
  have hopened := tripped_opened ft cd
  rw [hn] at hopened
  have hcooldown : (tripped (newHealthTracker ft cd) (n + 1)).cooldown = (newHealthTracker ft cd).cooldown := by
    rw [tripped_eq]
  have hthreshold : ft ≤ 0 ∨ n + 1 = ft.toNat := by
    refine (le_or_gt ft 0).imp_right fun hft => ?_
    rw [← hn]
    exact congrArg Int.toNat (if_neg hft.not_ge)
  have hasks := h.asks (n + 1) [ask now] (List.pairwise_singleton ..)
    (fun c hc => by rw [List.mem_singleton.1 hc]; exact hnow)
    ⟨fun hhalf => absurd (hopened ▸ hhalf : HealthState.opened = _) (by decide), trivial⟩
  have hkeys := ask_keys now (trippedKeys_opened cd ttl n hthreshold)
    (by rw [trippedKeys_local]; exact (rfl : _ = VendorState.fresh)) (by rw [trippedKeys_cooldown]; exact hcool)
  rw [Lib.answers_cons, Lib.answers_cons, hkeys,
    ask_cooling hopened (by rw [hcooldown]; exact not_le.1 hlt)] at hasks
  cases hasks

theorem Agree.cooldown_pos (h : Agree ft cd ttl) : 0 < cd := by
  by_contra hle
  have hms : Duration.milliseconds cd ≤ 0 := by
    have hneg := Int.tdiv_nonneg (neg_nonneg.2 (not_lt.1 hle)) (show 0 ≤ millisecond by decide)
    rw [Int.neg_tdiv] at hneg
    exact neg_nonneg.1 hneg
  have hzero := h.cooldown le_rfl hms
  rw [zero_mul] at hzero
  exact absurd hzero (tracker_cooldown ft cd).not_ge

theorem Agree.whole (h : Agree ft cd ttl) : millisecond ∣ cd := by
  have hcd := h.cooldown_pos
  have hle := (milliseconds_le cd hcd.le _).1 le_rfl
  have hge := h.cooldown ((milliseconds_le cd hcd.le 0).2 (by rw [zero_mul]; exact hcd.le)) le_rfl
  have hcooldown : (newHealthTracker ft cd).cooldown = cd := if_neg hcd.not_ge
  rw [hcooldown] at hge
  exact ⟨Duration.milliseconds cd, by rw [mul_comm]; exact le_antisymm hge hle⟩

/-- A threshold that is not positive: the tracker forgives the first failure, Redis does not. -/
theorem Agree.threshold_pos (h : Agree ft cd ttl) : 0 < ft := by
  by_contra hft
  have hthreshold : (newHealthTracker ft cd).failureThreshold = 5 := if_pos (not_lt.1 hft)
  have hclosed : (tripped (newHealthTracker ft cd) 1).vendors "vendor" = ⟨.closed, 1, none, none⟩ := by
    rw [tripped_eq, hthreshold]
    simp only [Function.update_self]
    exact recordFailure_below (by decide)
  have hasks := h.asks 1 [ask 0] (List.pairwise_singleton ..)
    (fun c hc => by rw [List.mem_singleton.1 hc]; exact le_rfl)
    ⟨fun hhalf => absurd (hclosed ▸ hhalf : HealthState.closed = _) (by decide), trivial⟩
  have hcool : 0 < Duration.milliseconds cd :=
    (lt_milliseconds cd h.cooldown_pos.le h.whole 0).1 (by rw [zero_mul]; exact h.cooldown_pos)
  have hkeys : ((trippedKeys (newDistributedBreaker ft cd ttl) 1).step (ask 0)).2 = some false := by
    have hopened := trippedKeys_opened cd ttl 0 (.inl (not_lt.1 hft))
    simp [DistributedBreaker.step, ask, hopened, allowScript, trippedKeys_cooldown, hcool]
  rw [Lib.answers_cons, Lib.answers_cons, hkeys, ask_closed 0 hclosed] at hasks
  cases hasks

/-- A token that Redis refuses: every question past the cooldown is answered by the fallback. -/
theorem Agree.probe (h : Agree ft cd ttl) : ttl ≤ 0 ∨ millisecond ≤ ttl := by
  by_contra hcon
  obtain ⟨hpos, hlt⟩ := not_or.1 hcon
  have hthreshold : (newHealthTracker ft cd).failureThreshold = ft := if_neg h.threshold_pos.not_ge
  have hcooldown : (newHealthTracker ft cd).cooldown = cd := if_neg h.cooldown_pos.not_ge
  have hprobeTTL : (newDistributedBreaker ft cd ttl).probeTTL = ttl := if_neg hpos
  have hnow : cd = Duration.milliseconds cd * millisecond := by
    refine le_antisymm ?_ ((milliseconds_le cd h.cooldown_pos.le _).1 le_rfl)
    exact not_lt.1 fun hlt => lt_irrefl _ ((lt_milliseconds cd h.cooldown_pos.le h.whole _).1 hlt)
  set now := Duration.milliseconds cd
  have hnow0 : 0 ≤ now := (milliseconds_le cd h.cooldown_pos.le 0).2 (by rw [zero_mul]; exact h.cooldown_pos.le)
  obtain ⟨n, hn⟩ : ∃ n, ft.toNat = n + 1 := ⟨ft.toNat - 1, by have := h.threshold_pos; omega⟩
  -- the tracker is half-open after the first question and refuses the second
  have hopened := tripped_opened ft cd
  rw [hthreshold, hn] at hopened
  have helapsed : (tripped (newHealthTracker ft cd) (n + 1)).cooldown ≤ now * millisecond := by
    rw [tripped_eq, ← hnow]
    exact hcooldown.le
  obtain ⟨hfirst, hhalf⟩ := ask_probe hopened helapsed
  have hprobe : ProbeHeld (newDistributedBreaker ft cd ttl).probeTTL
      (next HealthTracker.step (tripped (newHealthTracker ft cd) (n + 1)) (ask now)) (ask now) := by
    intro _ p hp
    have hlast : some now = some p := (congrArg VendorState.lastProbeAt hhalf).symm.trans hp
    cases hlast
    rw [hprobeTTL, ask, sub_self, zero_mul]
    exact (not_le.1 hpos).le
  have hasks := h.asks (n + 1) [ask now, ask now] (by simp [ask])
    (fun c hc => by simp only [List.mem_cons, List.not_mem_nil, or_false, or_self] at hc; rw [hc]; exact hnow0)
    ⟨fun hh => absurd (hopened ▸ hh : HealthState.opened = _) (by decide), hprobe, trivial⟩
  have hrefused := ask_refused now (trippedKeys_opened cd ttl n (.inr hn.symm))
    (by rw [trippedKeys_local]; exact (rfl : _ = VendorState.fresh)) (by rw [trippedKeys_cooldown]) (by
      rw [trippedKeys_probeTTL, hprobeTTL]
      by_contra hms
      exact hlt (by simpa using (milliseconds_le ttl (not_le.1 hpos).le 1).1 (not_le.1 hms)))
  have hsame : next DistributedBreaker.step (trippedKeys (newDistributedBreaker ft cd ttl) (n + 1)) (ask now) =
      trippedKeys (newDistributedBreaker ft cd ttl) (n + 1) := congrArg Prod.fst hrefused
  rw [Lib.answers_cons, Lib.answers_cons, Lib.answers_cons, Lib.answers_cons, hsame, hrefused, hfirst,
    ask_halfOpen hhalf] at hasks
  cases hasks

/-- **The breakers agree exactly on plain parameters.** -/
theorem breakers_agree_iff (failureThreshold : ℤ) (cooldown probeTTL : Duration) :
    Agree failureThreshold cooldown probeTTL ↔ Plain failureThreshold cooldown probeTTL :=
  ⟨fun h => ⟨h.threshold_pos, h.cooldown_pos, h.whole, h.probe⟩, agree_of_plain⟩

/-- **Differing answers**: a threshold of 0 is five failures in memory and one in Redis, a cooldown of
0 is half a minute in memory and none in Redis. -/
theorem breakers_differ :
    (answers HealthTracker.step (newHealthTracker 0 (30000 * millisecond)) [failure, ask 0] = [none, some true] ∧
      answers DistributedBreaker.step (newDistributedBreaker 0 (30000 * millisecond) 0) [failure, ask 0] =
        [none, some false]) ∧
    (answers HealthTracker.step (newHealthTracker 1 0) [failure, ask 0] = [none, some false] ∧
      answers DistributedBreaker.step (newDistributedBreaker 1 0 0) [failure, ask 0] = [none, some true]) :=
  ⟨⟨by decide, by decide⟩, by decide, by decide⟩

end Seev.Vendorgw
