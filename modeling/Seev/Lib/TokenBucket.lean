import Mathlib.Algebra.Order.Field.Basic
import Mathlib.Tactic.Linarith
import Mathlib.Tactic.Ring
import Seev.Lib.Answers

/-!
# Token buckets

A bucket of capacity `cap` gains `rate` tokens in a unit of time, and a call takes one.

* `take_credit`: a grant is paid out of the tokens and what will have been refilled by a later time.
* `granted_le`: a machine that keeps one such bucket grants no more than its tokens and the refill.
* `take_full`: a bucket that has been idle for a whole refill is as good as a new one.
-/

namespace Seev.Lib.TokenBucket

variable {K : Type*} [Field K] [LinearOrder K] [IsStrictOrderedRing K]

structure Bucket (K : Type*) where
  tokens : K
  last : K

/-- The tokens at `now`; a clock that is behind refills nothing. -/
def fill (rate cap now : K) (b : Bucket K) : K := min cap (b.tokens + max 0 (now - b.last) * rate)

/-- One call. -/
def take (rate cap now : K) (b : Bucket K) : Bucket K × Bool :=
  if 1 ≤ fill rate cap now b then (⟨fill rate cap now b - 1, now⟩, true) else (⟨fill rate cap now b, now⟩, false)

/-- The tokens of the bucket and those it gains until `hi`. -/
def credit (rate hi : K) (b : Bucket K) : K := b.tokens + rate * (hi - b.last)

variable {rate cap now hi : K} {b : Bucket K}

omit [IsStrictOrderedRing K] in
theorem take_last : (take rate cap now b).1.last = now := by
  unfold take
  split_ifs <;> rfl

theorem fill_nonneg (hrate : 0 ≤ rate) (hcap : 0 ≤ cap) (hb : 0 ≤ b.tokens) : 0 ≤ fill rate cap now b :=
  le_min hcap (add_nonneg hb (mul_nonneg (le_max_left _ _) hrate))

theorem take_nonneg (hrate : 0 ≤ rate) (hcap : 0 ≤ cap) (hb : 0 ≤ b.tokens) :
    0 ≤ (take rate cap now b).1.tokens := by
  unfold take
  split_ifs with h
  · exact sub_nonneg.2 h
  · exact fill_nonneg hrate hcap hb

/-- **A grant is paid for.** -/
theorem take_credit (rate cap hi : K) (hlast : b.last ≤ now) :
    credit rate hi (take rate cap now b).1 + (if (take rate cap now b).2 then 1 else 0) ≤ credit rate hi b := by
  have hfill : fill rate cap now b ≤ b.tokens + (now - b.last) * rate := by
    refine (min_le_right _ _).trans_eq ?_
    rw [max_eq_right (sub_nonneg.2 hlast)]
  by_cases h : 1 ≤ fill rate cap now b
  · simp only [take, credit, h, if_true]
    nlinarith
  · simp only [take, credit, h, if_false, Bool.false_eq_true]
    nlinarith

omit [IsStrictOrderedRing K] in
theorem fill_new : fill rate cap now ⟨cap, now⟩ = cap := by simp [fill]

/-- **Idle for a whole refill, a bucket is as good as a new one.** -/
theorem take_full (hrate : 0 < rate) (hb : 0 ≤ b.tokens) (hidle : cap / rate ≤ now - b.last) :
    take rate cap now b = take rate cap now ⟨cap, now⟩ := by
  have hcap : cap ≤ max 0 (now - b.last) * rate :=
    (div_le_iff₀ hrate).1 (hidle.trans (le_max_right _ _))
  have hfill : fill rate cap now b = cap := min_eq_left (by linarith)
  simp only [take, hfill, fill_new]

/-! ## Machines that keep a bucket -/

section

variable {σ ε ο : Type*} {step : σ → ε → σ × ο} {C : σ → ε → Prop}

/-- The calls of a run that fall to the bucket (`on`) and are granted. -/
def granted (on : ε → Option K) (grant : ο → Bool) (es : List ε) (as : List ο) : ℕ :=
  (es.zip as).countP fun x => (on x.1).isSome && grant x.2

/-- The step either leaves the bucket alone, or is a call at a time that is not behind it. -/
structure Keeps (rate cap : K) (step : σ → ε → σ × ο) (bucketOf : σ → Option (Bucket K)) (on : ε → Option K)
    (grant : ο → Bool) (C : σ → ε → Prop) : Prop where
  other : ∀ s e, on e = none → bucketOf (next step s e) = bucketOf s
  call : ∀ s e now, on e = some now →
    bucketOf (next step s e) = some (take rate cap now ((bucketOf s).getD ⟨cap, now⟩)).1 ∧
    grant (step s e).2 = (take rate cap now ((bucketOf s).getD ⟨cap, now⟩)).2
  inOrder : ∀ s e now b, C s e → on e = some now → bucketOf s = some b → b.last ≤ now

variable {bucketOf : σ → Option (Bucket K)} {on : ε → Option K} {grant : ο → Bool} {lo : K}

/-- **No over-grant.** -/
theorem granted_le (h : Keeps rate cap step bucketOf on grant C) (hrate : 0 ≤ rate) (hcap : 0 ≤ cap)
    (hlo : lo ≤ hi)
    {s : σ} (hs : ∀ b, bucketOf s = some b → 0 ≤ b.tokens ∧ b.last ≤ hi) {es : List ε}
    (hes : Along (next step) C s es)
    (htimes : ∀ e ∈ es, ∀ now, on e = some now → lo ≤ now ∧ now ≤ hi) :
    (granted on grant es (answers step s es) : K) ≤
    (bucketOf s).elim (cap + rate * (hi - lo)) (credit rate hi) := by
  induction es generalizing s with
  | nil =>
    have hzero : (0 : K) ≤ (bucketOf s).elim (cap + rate * (hi - lo)) (credit rate hi) := by
      cases hb : bucketOf s with
      | none => exact add_nonneg hcap (mul_nonneg hrate (sub_nonneg.2 hlo))
      | some b => exact add_nonneg (hs b hb).1 (mul_nonneg hrate (sub_nonneg.2 (hs b hb).2))
    simpa [granted] using hzero
  | cons e es ih =>
    have hcons : granted on grant (e :: es) (answers step s (e :: es)) =
        granted on grant es (answers step (next step s e) es) + if (on e).isSome && grant (step s e).2 then 1
          else 0 :=
      List.countP_cons
    have htail :=
      fun hs' => ih (s := next step s e) hs' hes.2 fun e' he' => htimes e' (List.mem_cons_of_mem _ he')
    cases hon : on e with
    | none =>
      rw [hcons, hon, ← h.other s e hon]
      simpa using htail fun b hb => hs b (h.other s e hon ▸ hb)
    | some now =>
      obtain ⟨hnext, hgrant⟩ := h.call s e now hon
      obtain ⟨hnow, hnow'⟩ := htimes e List.mem_cons_self now hon
      -- the bucket the call finds, and what it is worth
      generalize hb : (bucketOf s).getD ⟨cap, now⟩ = b at hnext hgrant
      have hbucket : 0 ≤ b.tokens ∧ b.last ≤ now ∧
          credit rate hi b ≤ (bucketOf s).elim (cap + rate * (hi - lo)) (credit rate hi) := by
        cases hs' : bucketOf s with
        | none =>
          rw [hs', Option.getD_none] at hb
          subst hb
          exact ⟨hcap, le_rfl, add_le_add_right (mul_le_mul_of_nonneg_left (by linarith) hrate) cap⟩
        | some b' =>
          rw [hs', Option.getD_some] at hb
          subst hb
          exact ⟨(hs _ hs').1, h.inOrder s e now _ hes.1 hon hs', le_rfl⟩
      have hrest := htail fun b' hb' => by
        rw [hnext] at hb'
        cases hb'
        exact ⟨take_nonneg hrate hcap hbucket.1, take_last.trans_le hnow'⟩
      rw [hnext, Option.elim_some] at hrest
      have hpaid := take_credit rate cap hi hbucket.2.1
      rw [hcons, hon, hgrant]
      push_cast
      simp only [Option.isSome_some, Bool.true_and]
      linarith [hbucket.2.2]

end

end Seev.Lib.TokenBucket
