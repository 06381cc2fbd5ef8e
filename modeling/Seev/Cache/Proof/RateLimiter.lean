import Seev.Lib.TokenBucket
import Seev.Cache.RateLimiter

/-!
# The rate limiters grant no more than their buckets hold

* `limiters_grant_within`: while the clocks of the callers keep in step with the clock that expires the
  buckets, both limiters stay within burst and refill, and expiry changes no answer.
* `limiter_overgrants`: with timestamps that go back and forth the same interval is refilled twice.
-/

namespace Seev.Cache

open Lib (answers next Along)
open Lib.TokenBucket (Bucket take granted Keeps)

variable {L : Limiter} {key : Key} {now : Millis}

/-- The bucket of the library. -/
def BucketState.toBucket (b : BucketState) : Bucket ℚ := ⟨b.tokens, b.last⟩

/-- The answer of a bucket that a call has left with `tokens`. -/
def answerOf (r : Bucket ℚ × Bool) : Answer := (r.2, truncate r.1.tokens)

/-- What a call does, by the library's bucket. -/
structure Takes (L : Limiter) (now : Millis) (data : Option BucketState) (r : BucketState × Answer) : Prop where
  bucket : r.1.toBucket = (take L.rate L.capacity now ((data.map BucketState.toBucket).getD ⟨L.capacity, now⟩)).1
  last : r.1.last = now
  answer : r.2 = answerOf (take L.rate L.capacity now ((data.map BucketState.toBucket).getD ⟨L.capacity, now⟩))

/-- The memory limiter implements "the exact same algorithm as rate_limiter.lua". -/
theorem memoryAllow_eq (data : Option BucketState) :
    L.memoryAllow now data = luaScript L.rate L.capacity now 1 data := by
  cases data with
  | none => simp [Limiter.memoryAllow, luaScript]
  | some b => simp [Limiter.memoryAllow, luaScript, max_comm]

theorem luaScript_takes (data : Option BucketState) :
    Takes L now data (luaScript L.rate L.capacity now 1 data) := by
  have htokens : min L.capacity ((data.map BucketState.tokens).getD L.capacity +
      (max 0 (now - (data.map BucketState.last).getD now) : ℤ) * L.rate) =
      Lib.TokenBucket.fill L.rate L.capacity now ((data.map BucketState.toBucket).getD ⟨L.capacity, now⟩) := by
    cases data with
    | none => simp [Lib.TokenBucket.fill]
    | some b => simp [Lib.TokenBucket.fill, BucketState.toBucket]
  simp only [luaScript, htokens]
  by_cases h : 1 ≤ Lib.TokenBucket.fill L.rate L.capacity now
    ((data.map BucketState.toBucket).getD ⟨L.capacity, now⟩)
  · constructor <;> simp [take, h, answerOf, BucketState.toBucket]
  · constructor <;> simp [take, h, answerOf, BucketState.toBucket]

theorem BucketState.toBucket_inj {b b' : BucketState} (h : b.toBucket = b'.toBucket) : b = b' := by
  obtain ⟨tokens, last⟩ := b
  obtain ⟨tokens', last'⟩ := b'
  simp only [toBucket, Bucket.mk.injEq, Int.cast_inj] at h
  rw [h.1, h.2]

/-- Where the library's bucket does the same, so does the limiter. -/
theorem Takes.unique {data data' : Option BucketState} {r r' : BucketState × Answer} (h : Takes L now data r)
    (h' : Takes L now data' r')
    (heq : take L.rate L.capacity now ((data.map BucketState.toBucket).getD ⟨L.capacity, now⟩) =
      take L.rate L.capacity now ((data'.map BucketState.toBucket).getD ⟨L.capacity, now⟩)) : r = r' := by
  refine Prod.ext (BucketState.toBucket_inj ?_) ?_
  · rw [h.bucket, heq, h'.bucket]
  · rw [h.answer, heq, h'.answer]

theorem Takes.nonneg {data : Option BucketState} {r : BucketState × Answer} (h : Takes L now data r)
    (hburst : 0 ≤ L.burst)
    (hdata : ∀ b, data = some b → 0 ≤ b.tokens) : 0 ≤ r.1.tokens := by
  have hcap : 0 ≤ L.capacity := Int.cast_nonneg hburst
  have htokens : r.1.tokens = _ := congrArg Bucket.tokens h.bucket
  rw [htokens]
  refine Lib.TokenBucket.take_nonneg L.rate_pos.le hcap ?_
  cases data with
  | none => exact hcap
  | some b => exact hdata b rfl

/-- A bucket that has been idle for a whole refill may as well be missing. -/
theorem luaScript_idle {b : BucketState} (hb : 0 ≤ b.tokens) (hidle : L.capacity / L.rate ≤ now - b.last) :
    luaScript L.rate L.capacity now 1 none = luaScript L.rate L.capacity now 1 (some b) :=
  (luaScript_takes none).unique (luaScript_takes (some b))
    (Lib.TokenBucket.take_full (b := b.toBucket) L.rate_pos hb hidle).symm

/-! ## Redis -/

/-- Between two calls on one key the replicas' clocks have moved on at least half as far as the server's. -/
def InStep (calls : List RedisCall) : Prop :=
  calls.Pairwise fun c c' => c.key = c'.key → c.clock ≤ c'.clock ∧ c'.clock - c.clock ≤ 2 * (c'.now - c.now)

/-- The same, of an entry and a later call. -/
def Follows (e : Entry) (c : RedisCall) : Prop :=
  e.touched ≤ c.clock ∧ c.clock - e.touched ≤ 2 * (c.now - e.bucket.last)

variable {keys : Key → Option Entry} {c : RedisCall} {calls : List RedisCall}

theorem redisStep_entry {expiring : Bool} {e : Entry} (h : next (L.redisStep expiring) keys c key = some e) :
    (key = c.key ∧ e.touched = c.clock ∧ e.bucket.last = c.now) ∨ (key ≠ c.key ∧ keys key = some e) := by
  by_cases hkey : key = c.key
  · subst hkey
    simp only [next, Limiter.redisStep, Function.update_self, Option.some.injEq] at h
    subst h
    exact .inl ⟨rfl, rfl, (luaScript_takes _).last⟩
  · simp only [next, Limiter.redisStep, Function.update_of_ne hkey] at h
    exact .inr ⟨hkey, h⟩

theorem along_follows (h : InStep calls)
    (hkeys : ∀ key e, keys key = some e → ∀ c ∈ calls, c.key = key → Follows e c) :
    Along (next (L.redisStep false)) (fun keys c => ∀ e, keys c.key = some e → Follows e c) keys calls := by
  induction calls generalizing keys with
  | nil => trivial
  | cons c calls ih =>
    obtain ⟨hc, htail⟩ := List.pairwise_cons.1 h
    refine ⟨fun e he => hkeys c.key e he c List.mem_cons_self rfl, ih htail fun key e he c' hc' hkey => ?_⟩
    rcases redisStep_entry he with ⟨rfl, htouched, hlast⟩ | ⟨-, he⟩
    · rw [Follows, htouched, hlast]
      exact hc c' hc' hkey.symm
    · exact hkeys key e he c' (List.mem_cons_of_mem _ hc') hkey

/-- The time to live covers two refills. -/
theorem ttl_covers {e : Entry} (hfollows : Follows e c) (hexpired : L.expired c.clock e = true) :
    L.capacity / L.rate ≤ (c.now : ℚ) - e.bucket.last := by
  have hceil : L.capacity / L.rate * 2 ≤ (L.ttl : ℚ) := Int.le_ceil _
  have hspan : L.ttl ≤ 2 * (c.now - e.bucket.last) := by
    obtain ⟨htouched, hhalf⟩ := hfollows
    rcases of_decide_eq_true hexpired with hle | hlt <;> linarith
  have hcast : (L.ttl : ℚ) ≤ 2 * ((c.now : ℚ) - e.bucket.last) := by exact_mod_cast hspan
  linarith

/-- Tokens are never negative. -/
def Sound (keys : Key → Option Entry) : Prop := ∀ key e, keys key = some e → 0 ≤ e.bucket.tokens

theorem redisStep_expiring (hsound : Sound keys) (h : ∀ e, keys c.key = some e → Follows e c) :
    L.redisStep true keys c = L.redisStep false keys c := by
  have hscript : luaScript L.rate L.capacity c.now 1
    (((keys c.key).filter fun e => !(true && L.expired c.clock e)).map Entry.bucket) =
      luaScript L.rate L.capacity c.now 1
        (((keys c.key).filter fun e => !(false && L.expired c.clock e)).map Entry.bucket) := by
    cases he : keys c.key with
    | none => rfl
    | some e =>
      cases hexpired : L.expired c.clock e with
      | false => simp [Option.filter, hexpired]
      | true =>
        simp only [Option.filter, hexpired, Bool.and_true, Bool.not_true, Bool.not_false, Bool.false_eq_true,
          if_false, if_true]
        exact luaScript_idle (hsound _ e he) (ttl_covers (h e he) hexpired)
  simp only [Limiter.redisStep, hscript]

theorem redisStep_sound {expiring : Bool} (hburst : 0 ≤ L.burst) (hsound : Sound keys) :
    Sound (next (L.redisStep expiring) keys c) := by
  intro key e he
  by_cases hkey : key = c.key
  · subst hkey
    simp only [next, Limiter.redisStep, Function.update_self, Option.some.injEq] at he
    subst he
    refine (luaScript_takes _).nonneg hburst fun b hb => ?_
    obtain ⟨e, hfilter, rfl⟩ := Option.map_eq_some_iff.1 hb
    exact hsound _ e (Option.filter_eq_some_iff.1 hfilter).1
  · simp only [next, Limiter.redisStep, Function.update_of_ne hkey] at he
    exact hsound key e he

/-- **Expiry of a key changes no answer.** -/
theorem redis_answers (hburst : 0 ≤ L.burst) (h : InStep calls) :
    answers (L.redisStep false) (fun _ => none) calls = answers (L.redisStep true) (fun _ => none) calls := by
  refine Lib.answers_eq (R := fun keys keys' => keys = keys' ∧ Sound keys) ?_ ⟨rfl, by rintro _ _ ⟨⟩⟩
    (along_follows h (by rintro _ _ ⟨⟩))
  rintro keys _ c ⟨rfl, hsound⟩ hfollows
  have hstep : L.redisStep true keys c = L.redisStep false keys c := redisStep_expiring hsound hfollows
  exact ⟨⟨congrArg Prod.fst hstep.symm, redisStep_sound hburst hsound⟩, congrArg Prod.snd hstep.symm⟩

/-- The calls on a key. -/
def RedisCall.on (key : Key) (c : RedisCall) : Option ℚ := if c.key = key then some c.now else none

theorem redis_keeps (key : Key) :
    Keeps L.rate L.capacity (L.redisStep false) (fun keys => (keys key).map fun e => e.bucket.toBucket)
      (RedisCall.on key)
      (fun a : Answer => a.1) (fun keys c => ∀ e, keys c.key = some e → Follows e c) where
  other keys c hon := by
    have hkey : key ≠ c.key := by
      rintro rfl
      simp [RedisCall.on] at hon
    simp only [next, Limiter.redisStep, Function.update_of_ne hkey]
  call keys c now hon := by
    obtain ⟨rfl, hnow⟩ : c.key = key ∧ (c.now : ℚ) = now := by
      simpa [RedisCall.on] using hon
    have htakes := @luaScript_takes L c.now ((keys c.key).map Entry.bucket)
    have hdata : (keys c.key).filter (fun e => !(false && L.expired c.clock e)) = keys c.key := by
      cases keys c.key <;> rfl
    simp only [next, Limiter.redisStep, hdata, Function.update_self, Option.map_some, ← hnow]
    rw [htakes.bucket, htakes.answer, Option.map_map]
    exact ⟨rfl, rfl⟩
  inOrder keys c now b hC hon hb := by
    obtain ⟨rfl, hnow⟩ : c.key = key ∧ (c.now : ℚ) = now := by
      simpa [RedisCall.on] using hon
    obtain ⟨e, he, rfl⟩ := Option.map_eq_some_iff.1 hb
    obtain ⟨htouched, hhalf⟩ := hC e he
    rw [← hnow]
    exact Int.cast_le.2 (by linarith)

/-- **Redis grants no more than burst and refill.** -/
theorem redis_granted (hburst : 0 ≤ L.burst) (h : InStep calls) (key : Key) {lo hi : Millis} (hlo : lo ≤ hi)
    (htimes : ∀ c ∈ calls, c.key = key → lo ≤ c.now ∧ c.now ≤ hi) :
    (granted (RedisCall.on key) (fun a : Answer => a.1) calls
      (answers (L.redisStep true) (fun _ => none) calls) : ℚ) ≤
      L.burst + L.rate * (hi - lo) := by
  rw [← redis_answers hburst h]
  refine Lib.TokenBucket.granted_le (redis_keeps key) L.rate_pos.le (Int.cast_nonneg hburst) (Int.cast_le.2 hlo)
    (by rintro _ ⟨⟩) (along_follows h (by rintro _ _ ⟨⟩)) fun c hc now hon => ?_
  obtain ⟨hkey, hnow⟩ : c.key = key ∧ (c.now : ℚ) = now := by
    simpa [RedisCall.on] using hon
  obtain ⟨h1, h2⟩ := htimes c hc hkey
  rw [← hnow]
  exact ⟨Int.cast_le.2 h1, Int.cast_le.2 h2⟩

/-! ## Memory -/

variable {buckets buckets' : Key → Option BucketState} {events : List MemoryEvent}

/-- The time of the calls and of the collections never goes back. -/
def InOrder (events : List MemoryEvent) : Prop := (events.map MemoryEvent.now).Pairwise (· ≤ ·)

/-- The span fits the duration. -/
def Limiter.Spans (L : Limiter) : Prop := ⌈L.capacity / L.rate⌉ * 1000000 * 2 < 2 ^ 63

theorem span_of_lt_cutoff {n m l : ℤ} (h : l < (n * 1000000 - m * 1000000 * 2) / 1000000) (hm : 0 ≤ m) :
    m ≤ n - l := by
  omega

/-- What the loop drops has been idle for two refills. -/
theorem gc_covers (hburst : 0 ≤ L.burst) (hspans : L.Spans) {b : BucketState}
    (h : b.last < (now * 1000000 - L.staleAfter) / 1000000) : L.capacity / L.rate ≤ (now : ℚ) - b.last := by
  have hpos : 0 ≤ ⌈L.capacity / L.rate⌉ := Int.ceil_nonneg (div_nonneg (Int.cast_nonneg hburst) L.rate_pos.le)
  have hstale : L.staleAfter = ⌈L.capacity / L.rate⌉ * 1000000 * 2 := by
    have hspan : ⌈L.capacity / L.rate⌉ * 1000000 * 2 < 2 ^ 63 := hspans
    exact Int.bmod_eq_of_le (by omega) (by omega)
  have hspan : ⌈L.capacity / L.rate⌉ ≤ now - b.last := by
    rw [hstale] at h
    exact span_of_lt_cutoff h hpos
  have hcast : ((⌈L.capacity / L.rate⌉ : ℤ) : ℚ) ≤ (now : ℚ) - b.last := by exact_mod_cast hspan
  exact (Int.le_ceil _).trans hcast

/-- A bucket that was dropped by `T`, in the limiter that keeps it. -/
def Idle (L : Limiter) (T : Millis) (b : BucketState) : Prop :=
  0 ≤ b.tokens ∧ L.capacity / L.rate ≤ (T : ℚ) - b.last

/-- The limiter that collects, and the one that keeps everything, at time `T`. -/
structure Collected (L : Limiter) (T : Millis) (buckets kept : Key → Option BucketState) : Prop where
  bucket : ∀ key, buckets key = kept key ∨ buckets key = none ∧ ∃ b, kept key = some b ∧ Idle L T b
  nonneg : ∀ key b, kept key = some b → 0 ≤ b.tokens

theorem Collected.later (h : Collected L now buckets buckets') {T : Millis} (hT : now ≤ T) :
    Collected L T buckets buckets' := by
  refine ⟨fun key => (h.bucket key).imp_right fun ⟨hnone, b, hb, htokens, hidle⟩ => ⟨hnone, b, hb, htokens, ?_⟩,
    h.nonneg⟩
  have hcast : (now : ℚ) ≤ T := Int.cast_le.2 hT
  linarith

theorem Collected.step (h : Collected L now buckets buckets') (hburst : 0 ≤ L.burst) (hspans : L.Spans)
    {e : MemoryEvent}
    (he : e.now = now) :
    Collected L now (next (L.memoryStep true) buckets e) (next (L.memoryStep false) buckets' e) ∧
      (L.memoryStep true buckets e).2 = (L.memoryStep false buckets' e).2 := by
  cases e with
  | allow key t =>
    obtain rfl : t = now := he
    have hsame : L.memoryAllow t (buckets key) = L.memoryAllow t (buckets' key) := by
      rcases h.bucket key with heq | ⟨hnone, b, hb, htokens, hidle⟩
      · rw [heq]
      · rw [hnone, hb, memoryAllow_eq, memoryAllow_eq]
        exact luaScript_idle htokens hidle
    have htakes := @memoryAllow_eq L t (buckets' key) ▸ @luaScript_takes L t (buckets' key)
    refine ⟨⟨fun other => ?_, fun other b hb => ?_⟩, congrArg (fun r : BucketState × Answer => some r.2) hsame⟩
    · by_cases hkey : other = key
      · subst hkey
        simp only [next, Limiter.memoryStep, Function.update_self, hsame, true_or]
      · simpa only [next, Limiter.memoryStep, Function.update_of_ne hkey] using h.bucket other
    · by_cases hkey : other = key
      · subst hkey
        simp only [next, Limiter.memoryStep, Function.update_self, Option.some.injEq] at hb
        subst hb
        exact htakes.nonneg hburst (h.nonneg other)
      · simp only [next, Limiter.memoryStep, Function.update_of_ne hkey] at hb
        exact h.nonneg other b hb
  | gc t =>
    obtain rfl : t = now := he
    have hkept : next (L.memoryStep false) buckets' (.gc t) = buckets' := by
      funext key
      cases hb : buckets' key with
      | none => simp [next, Limiter.memoryStep, hb]
      | some b => simp [next, Limiter.memoryStep, hb, Option.filter]
    refine ⟨⟨fun key => ?_, hkept.symm ▸ h.nonneg⟩, rfl⟩
    rw [hkept]
    rcases h.bucket key with heq | ⟨hnone, hidle⟩
    · cases hb : buckets' key with
      | none => exact .inl (by simp [next, Limiter.memoryStep, heq, hb])
      | some b =>
        -- the bucket stays, or it is dropped and was idle
        by_cases hstale : b.last < (t * 1000000 - L.staleAfter) / 1000000
        · refine .inr ⟨by simp [next, Limiter.memoryStep, heq, hb, Option.filter, hstale], b, rfl,
            h.nonneg key b hb, ?_⟩
          exact gc_covers hburst hspans hstale
        · exact .inl (by simp [next, Limiter.memoryStep, heq, hb, Option.filter, hstale])
    · exact .inr ⟨by simp [next, Limiter.memoryStep, hnone], hidle⟩

theorem Collected.answers (h : Collected L now buckets buckets') (hburst : 0 ≤ L.burst) (hspans : L.Spans)
    (horder : InOrder events) (hnow : ∀ e ∈ events, now ≤ e.now) :
    answers (L.memoryStep false) buckets' events = answers (L.memoryStep true) buckets events := by
  induction events generalizing now buckets buckets' with
  | nil => rfl
  | cons e events ih =>
    obtain ⟨hhead, htail⟩ := List.pairwise_cons.1 horder
    obtain ⟨hnext, hanswer⟩ := (h.later (hnow e List.mem_cons_self)).step hburst hspans rfl
    rw [Lib.answers_cons, Lib.answers_cons, hanswer,
      ih hnext htail fun e' he' => hhead _ (List.mem_map_of_mem he')]

/-- **Collecting stale buckets changes no answer.** -/
theorem memory_answers (hburst : 0 ≤ L.burst) (hspans : L.Spans) (h : InOrder events) :
    answers (L.memoryStep false) (fun _ => none) events = answers (L.memoryStep true) (fun _ => none) events := by
  cases events with
  | nil => rfl
  | cons e events =>
    have hstart : Collected L e.now (fun _ => none) (fun _ => none) := ⟨fun _ => .inl rfl, by rintro _ _ ⟨⟩⟩
    refine hstart.answers hburst hspans h fun e' he' => ?_
    rcases List.mem_cons.1 he' with rfl | he'
    · exact le_rfl
    · exact (List.pairwise_cons.1 h).1 _ (List.mem_map_of_mem he')

/-- The calls on a key. -/
def MemoryEvent.on (key : Key) : MemoryEvent → Option ℚ
  | .allow k now => if k = key then some now else none
  | .gc _ => none

theorem MemoryEvent.on_eq_some {e : MemoryEvent} {t : ℚ} (h : e.on key = some t) :
    ∃ now : Millis, e = .allow key now ∧ (now : ℚ) = t := by
  cases e with
  | gc now => cases h
  | allow k now =>
    obtain ⟨rfl, hnow⟩ : k = key ∧ (now : ℚ) = t := by simpa [MemoryEvent.on] using h
    exact ⟨now, rfl, hnow⟩

/-- Nothing was touched after `e`. -/
def Past (buckets : Key → Option BucketState) (e : MemoryEvent) : Prop :=
  ∀ key b, buckets key = some b → b.last ≤ e.now

theorem along_past (h : InOrder events) (hbuckets : ∀ e ∈ events, Past buckets e) :
    Along (next (L.memoryStep false)) Past buckets events := by
  induction events generalizing buckets with
  | nil => trivial
  | cons e events ih =>
    obtain ⟨hhead, htail⟩ := List.pairwise_cons.1 h
    refine ⟨hbuckets e List.mem_cons_self, ih htail fun e' he' key b hb => ?_⟩
    have hbefore := hbuckets e' (List.mem_cons_of_mem _ he')
    cases e with
    | gc now =>
      simp only [next, Limiter.memoryStep, Option.filter_eq_some_iff] at hb
      exact hbefore key b hb.1
    | allow k now =>
      by_cases hkey : key = k
      · subst hkey
        simp only [next, Limiter.memoryStep, Function.update_self, Option.some.injEq] at hb
        subst hb
        exact hhead e'.now (List.mem_map_of_mem he')
      · simp only [next, Limiter.memoryStep, Function.update_of_ne hkey] at hb
        exact hbefore key b hb

theorem memory_keeps (key : Key) :
    Keeps L.rate L.capacity (L.memoryStep false) (fun buckets => (buckets key).map BucketState.toBucket)
      (MemoryEvent.on key)
      (fun a : Option Answer => a.any Prod.fst) Past where
  other buckets e hon := by
    cases e with
    | gc now => cases hb : buckets key <;> simp [next, Limiter.memoryStep, Option.filter, hb]
    | allow k now =>
      have hkey : key ≠ k := by
        rintro rfl
        simp [MemoryEvent.on] at hon
      simp only [next, Limiter.memoryStep, Function.update_of_ne hkey]
  call buckets e t hon := by
    obtain ⟨now, rfl, rfl⟩ := MemoryEvent.on_eq_some hon
    have htakes := @luaScript_takes L now (buckets key)
    simp only [next, Limiter.memoryStep, Function.update_self, Option.map_some, memoryAllow_eq]
    rw [htakes.bucket, htakes.answer]
    exact ⟨rfl, rfl⟩
  inOrder buckets e t b hC hon hb := by
    obtain ⟨now, rfl, rfl⟩ := MemoryEvent.on_eq_some hon
    obtain ⟨b', hb', rfl⟩ := Option.map_eq_some_iff.1 hb
    exact Int.cast_le.2 (hC key b' hb')

/-- **Memory grants no more than burst and refill.** -/
theorem memory_granted (hburst : 0 ≤ L.burst) (hspans : L.Spans) (h : InOrder events) (key : Key) {lo hi : Millis}
    (hlo : lo ≤ hi) (htimes : ∀ now, .allow key now ∈ events → lo ≤ now ∧ now ≤ hi) :
    (granted (MemoryEvent.on key) (fun a : Option Answer => a.any Prod.fst) events
      (answers (L.memoryStep true) (fun _ => none) events) : ℚ) ≤ L.burst + L.rate * (hi - lo) := by
  rw [← memory_answers hburst hspans h]
  refine Lib.TokenBucket.granted_le (memory_keeps key) L.rate_pos.le (Int.cast_nonneg hburst) (Int.cast_le.2 hlo)
    (by rintro _ ⟨⟩) (along_past h (by rintro _ _ _ _ ⟨⟩)) fun e he t hon => ?_
  obtain ⟨now, rfl, rfl⟩ := MemoryEvent.on_eq_some hon
  obtain ⟨h1, h2⟩ := htimes now he
  exact ⟨Int.cast_le.2 h1, Int.cast_le.2 h2⟩

/-- **The limiters grant no more than burst and refill, and expiry changes no answer**, while the clocks
keep in step. -/
theorem limiters_grant_within (L : Limiter) (hburst : 0 ≤ L.burst) :
    (∀ calls, InStep calls →
      answers (L.redisStep false) (fun _ => none) calls = answers (L.redisStep true) (fun _ => none) calls ∧
      ∀ key (lo hi : Millis), lo ≤ hi → (∀ c ∈ calls, c.key = key → lo ≤ c.now ∧ c.now ≤ hi) →
        (granted (RedisCall.on key) (fun a : Answer => a.1) calls
          (answers (L.redisStep true) (fun _ => none) calls) : ℚ) ≤
          L.burst + L.rate * (hi - lo)) ∧
    (L.Spans → ∀ events, InOrder events →
      answers (L.memoryStep false) (fun _ => none) events = answers (L.memoryStep true) (fun _ => none) events ∧
      ∀ key (lo hi : Millis), lo ≤ hi → (∀ now, .allow key now ∈ events → lo ≤ now ∧ now ≤ hi) →
        (granted (MemoryEvent.on key) (fun a : Option Answer => a.any Prod.fst) events
          (answers (L.memoryStep true) (fun _ => none) events) : ℚ) ≤ L.burst + L.rate * (hi - lo)) :=
  ⟨fun _ h => ⟨redis_answers hburst h, fun key _ _ hlo htimes => redis_granted hburst h key hlo htimes⟩,
    fun hspans _ h => ⟨memory_answers hburst hspans h,
      fun key _ _ hlo htimes => memory_granted hburst hspans h key hlo htimes⟩⟩

namespace Sample

/-- One token, and a refill in 100 ms. -/
def limiter : Limiter := ⟨1 / 100, 1, by norm_num⟩

/-- Calls at these times of the replicas, a millisecond of the server apart. -/
def callsAt (times : List Millis) : List RedisCall := times.mapIdx fun i now => ⟨"k", now, i⟩

def grantedAt (times : List Millis) : ℕ :=
  granted (RedisCall.on "k") (fun a : Answer => a.1) (callsAt times)
    (answers (limiter.redisStep true) (fun _ => none) (callsAt times))

end Sample

/-- Calls 100 ms apart are both granted, within the bound. -/
theorem limiters_grant_within_two :
    Sample.grantedAt [0, 100] = 2 ∧
      (Sample.grantedAt [0, 100] : ℚ) ≤ Sample.limiter.burst + Sample.limiter.rate * (100 - 0) := by
  refine ⟨by decide +kernel, ?_⟩
  have h := ((limiters_grant_within Sample.limiter (by decide)).1 (Sample.callsAt [0, 100])
    (by simp [InStep, Sample.callsAt])).2 "k" 0 100 (by decide) (by simp [Sample.callsAt])
  exact_mod_cast h

/-- **Over-grant**: two replicas whose clocks are 100 ms apart are granted four calls, where the burst
and the refill of 100 ms allow two. -/
theorem limiter_overgrants :
    Sample.grantedAt [0, 100, 0, 100, 0, 100] = 4 ∧
      Sample.limiter.burst + Sample.limiter.rate * (100 - 0) = 2 :=
  ⟨by decide +kernel, by norm_num [Sample.limiter]⟩

end Seev.Cache
