import Mathlib.Data.Rat.Floor
import Seev.Lib.Answers

/-!
# The rate limiters

One token bucket per key: in Redis, where each call runs `rate_limiter.lua` and the key expires,
and in memory, where a loop collects stale buckets. The arithmetic of the buckets is exact; the
span after which a bucket in memory is stale is a `time.Duration`, which wraps around.
-/

namespace Seev.Cache

/-- What is limited. -/
abbrev Key := String

/-- Unix milliseconds. -/
abbrev Millis := ℤ

/-- The rate is in tokens per millisecond. -/
structure Limiter where
  rate : ℚ
  burst : ℤ
  rate_pos : 0 < rate

/-- A full bucket. -/
def Limiter.capacity (L : Limiter) : ℚ := L.burst

/-- `int64(x)` -/
def truncate (x : ℚ) : ℤ := if 0 ≤ x then ⌊x⌋ else ⌈x⌉

/-- Whether the call is allowed, and the tokens that remain. -/
abbrev Answer := Bool × ℤ

/-- The tokens of a key, as of a time. -/
structure BucketState where
  tokens : ℚ
  last : Millis

/-! ## Redis -/

/-- `rate_limiter.lua`: the answer and the fields it writes. -/
def luaScript (rate capacity : ℚ) (now : Millis) (requested : ℚ) (data : Option BucketState) :
    BucketState × Answer :=
  let tokens := (data.map BucketState.tokens).getD capacity
  let last := (data.map BucketState.last).getD now
  let delta := max 0 (now - last)
  let refill := delta * rate
  let tokens := min capacity (tokens + refill)
  let allowed := decide (requested ≤ tokens)
  let tokens := if allowed then tokens - requested else tokens
  (⟨tokens, now⟩, allowed, truncate tokens)

/-- `PEXPIRE` at the end of the script. -/
def Limiter.ttl (L : Limiter) : ℤ := ⌈L.capacity / L.rate * 2⌉

/-- A key: its fields, and when Redis was last told to expire it, by the clock of the server. -/
structure Entry where
  bucket : BucketState
  touched : Millis

/-- `RedisRateLimiter.Allow` of a replica whose clock says `now`, when the server's says `clock`. -/
structure RedisCall where
  key : Key
  now : Millis
  clock : Millis

/-- A span that is not positive deletes the key at once. -/
def Limiter.expired (L : Limiter) (clock : Millis) (e : Entry) : Bool :=
  decide (L.ttl ≤ 0 ∨ e.touched + L.ttl < clock)

/-- With `expiring := false` keys stay for ever. -/
def Limiter.redisStep (L : Limiter) (expiring : Bool) (keys : Key → Option Entry) (c : RedisCall) :
    (Key → Option Entry) × Answer :=
  let data := (keys c.key).filter fun e => !(expiring && L.expired c.clock e)
  let r := luaScript L.rate L.capacity c.now 1 (data.map Entry.bucket)
  (Function.update keys c.key (some ⟨r.1, c.clock⟩), r.2)

/-! ## Memory -/

/-- A call, or the collector. -/
inductive MemoryEvent where
  | allow (key : Key) (now : Millis)
  | gc (now : Millis)

/-- The time of an event. -/
def MemoryEvent.now : MemoryEvent → Millis
  | .allow _ now => now
  | .gc now => now

/-- `MemoryRateLimiter.Allow` -/
def Limiter.memoryAllow (L : Limiter) (now : Millis) (entry : Option BucketState) : BucketState × Answer :=
  let b := entry.getD ⟨L.capacity, now⟩
  let delta := max (now - b.last) 0
  let tokens := min L.capacity (b.tokens + delta * L.rate)
  let allowed := decide (1 ≤ tokens)
  let tokens := if allowed then tokens - 1 else tokens
  (⟨tokens, now⟩, allowed, truncate tokens)

/-- `time.Duration(math.Ceil(l.capacity/l.rate)) * time.Millisecond * 2`, in nanoseconds. -/
def Limiter.staleAfter (L : Limiter) : ℤ := Int.bmod (⌈L.capacity / L.rate⌉ * 1000000 * 2) (2 ^ 64)

/-- With `collecting := false` the loop drops nothing. -/
def Limiter.memoryStep (L : Limiter) (collecting : Bool) (buckets : Key → Option BucketState) :
    MemoryEvent → (Key → Option BucketState) × Option Answer
  | .allow key now =>
    let r := L.memoryAllow now (buckets key)
    (Function.update buckets key (some r.1), some r.2)
  | .gc now =>
    let cutoff := (now * 1000000 - L.staleAfter) / 1000000
    (fun key => (buckets key).filter fun b => !(collecting && decide (b.last < cutoff)), none)

end Seev.Cache
