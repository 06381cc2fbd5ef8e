import Mathlib.Algebra.Order.Ring.Int
import Seev.Lib.Answers

/-!
# The vendor circuit breakers

`HealthTracker` keeps the breaker of every vendor in memory, `DistributedBreaker`
keeps it in Redis: a hash with the state, the failures and the time of opening,
and a probe token that expires. Times are whole milliseconds, durations are
nanoseconds as in Go. The numbers of the scripts are exact.
-/

namespace Seev.Vendorgw

/-- A vendor's name. -/
abbrev Vendor := String

/-- Unix milliseconds. -/
abbrev Millis := ℤ

/-- Nanoseconds. -/
abbrev Duration := ℤ

/-- `time.Millisecond`. -/
def millisecond : Duration := 1000000

/-- `Duration.Milliseconds` truncates. -/
def Duration.milliseconds (d : Duration) : ℤ := Int.tdiv d millisecond

/-- The state of a breaker. -/
inductive HealthState where
  | closed
  | opened
  | halfOpen
  deriving DecidableEq, Repr

/-! ## In memory -/

/-- What the tracker knows of a vendor. -/
structure VendorState where
  state : HealthState
  consecutiveFailures : ℕ
  openedAt : Option Millis
  lastProbeAt : Option Millis
  deriving DecidableEq, Repr

/-- The entry of a vendor that was not called yet. -/
def VendorState.fresh : VendorState := ⟨.closed, 0, none, none⟩

/-- The breaker in memory. -/
structure HealthTracker where
  failureThreshold : ℤ
  cooldown : Duration
  /-- `stateFor`: a vendor without an entry is closed. -/
  vendors : Vendor → VendorState

/-- Values that are not positive become the defaults. -/
def newHealthTracker (failureThreshold : ℤ) (cooldown : Duration) : HealthTracker where
  failureThreshold := if failureThreshold ≤ 0 then 5 else failureThreshold
  cooldown := if cooldown ≤ 0 then 30000 * millisecond else cooldown
  vendors _ := .fresh

/-- `time.Since(t) < d`; the zero time lies before every cooldown. -/
def since (now : Millis) (t : Option Millis) (d : Duration) : Bool :=
  t.any fun t => (now - t) * millisecond < d

/-- After the cooldown one probe is let through. -/
def VendorState.allow (cooldown : Duration) (now : Millis) (v : VendorState) : VendorState × Bool :=
  match v.state with
  | .closed => (v, true)
  | .opened =>
    if since now v.openedAt cooldown then (v, false)
    else ({ v with state := .halfOpen, lastProbeAt := some now }, true)
  | .halfOpen => (v, false)

/-- Any success closes the breaker. -/
def VendorState.recordSuccess (v : VendorState) : VendorState :=
  { v with consecutiveFailures := 0, state := .closed, openedAt := none }

/-- A probe that fails opens it again, as do failures up to the threshold. -/
def VendorState.recordFailure (failureThreshold : ℤ) (now : Millis) (v : VendorState) : VendorState :=
  if v.state = .halfOpen then { v with state := .opened, openedAt := some now }
  else
    let failures := v.consecutiveFailures + 1
    if v.state = .closed ∧ failureThreshold ≤ failures then
      { v with consecutiveFailures := failures, state := .opened, openedAt := some now }
    else { v with consecutiveFailures := failures }

/-- The operations of a breaker. -/
inductive Op where
  | allow
  | recordSuccess
  | recordFailure
  deriving DecidableEq, Repr

/-- An operation on a vendor, at a time. -/
structure Call where
  now : Millis
  vendor : Vendor
  op : Op
  deriving DecidableEq, Repr

/-- One vendor's answer, if the call is `Allow`. -/
def VendorState.call (failureThreshold : ℤ) (cooldown : Duration) (now : Millis) (v : VendorState) :
    Op → VendorState × Option Bool
  | .allow => ((v.allow cooldown now).1, some (v.allow cooldown now).2)
  | .recordSuccess => (v.recordSuccess, none)
  | .recordFailure => (v.recordFailure failureThreshold now, none)

/-- One call, and what it answers. -/
def HealthTracker.step (t : HealthTracker) (c : Call) : HealthTracker × Option Bool :=
  let r := (t.vendors c.vendor).call t.failureThreshold t.cooldown c.now c.op
  ({ t with vendors := Function.update t.vendors c.vendor r.1 }, r.2)

/-! ## In Redis -/

/-- The two keys of a vendor: the fields of the hash, and until when the probe token lives. -/
structure VendorKeys where
  state : Option HealthState
  consecutiveFailures : ℕ
  openedAt : Option Millis
  probe : Option Millis
  deriving DecidableEq, Repr

/-- No key is set. -/
def VendorKeys.empty : VendorKeys := ⟨none, 0, none, none⟩

/-- `EXISTS` of the probe token: an expiring key is gone once the clock has passed its end. -/
def VendorKeys.probing (k : VendorKeys) (now : Millis) : Bool := k.probe.any (now ≤ ·)

/-- `allowScript`. Redis refuses `SET .. PX 0`, and the script fails. -/
def allowScript (now cooldown ttl : ℤ) (k : VendorKeys) : Option (VendorKeys × Bool) :=
  if k.state = none ∨ k.state = some .closed then some (k, true)
  else if k.state = some .halfOpen ∧ k.probing now then some (k, false)
  else if k.state = some .opened ∧ now - k.openedAt.getD 0 < cooldown then some (k, false)
  else if ttl ≤ 0 then none
  else if k.probing now then some (k, false)
  else some ({ k with state := some .halfOpen, probe := some (now + ttl) }, true)

/-- `recordSuccessScript`. -/
def recordSuccessScript (_ : VendorKeys) : VendorKeys := ⟨some .closed, 0, some 0, none⟩

/-- `recordFailureScript`. -/
def recordFailureScript (now threshold : ℤ) (k : VendorKeys) : VendorKeys :=
  if k.state = some .halfOpen then { k with state := some .opened, openedAt := some now, probe := none }
  else
    let failures := k.consecutiveFailures + 1
    if (k.state = none ∨ k.state = some .closed) ∧ threshold ≤ failures then
      { k with consecutiveFailures := failures, state := some .opened, openedAt := some now }
    else { k with consecutiveFailures := failures }

/-- The breaker in Redis, with a tracker to fall back on. -/
structure DistributedBreaker where
  failureThreshold : ℤ
  cooldown : Duration
  probeTTL : Duration
  localTracker : HealthTracker
  keys : Vendor → VendorKeys

/-- The threshold and the cooldown are kept as they are given. -/
def newDistributedBreaker (failureThreshold : ℤ) (cooldown probeTTL : Duration) : DistributedBreaker where
  failureThreshold := failureThreshold
  cooldown := cooldown
  probeTTL := if probeTTL ≤ 0 then 30000 * millisecond else probeTTL
  localTracker := newHealthTracker failureThreshold cooldown
  keys _ := .empty

/-- A failed script falls back to the local tracker. -/
def DistributedBreaker.step (d : DistributedBreaker) (c : Call) : DistributedBreaker × Option Bool :=
  let put (k : VendorKeys) : DistributedBreaker := { d with keys := Function.update d.keys c.vendor k }
  match c.op with
  | .allow =>
    match allowScript c.now (Duration.milliseconds d.cooldown) (Duration.milliseconds d.probeTTL)
      (d.keys c.vendor) with
    | some (k, allowed) => (put k, some allowed)
    | none => ({ d with localTracker := (d.localTracker.step c).1 }, (d.localTracker.step c).2)
  | .recordSuccess => (put (recordSuccessScript (d.keys c.vendor)), none)
  | .recordFailure => (put (recordFailureScript c.now d.failureThreshold (d.keys c.vendor)), none)

end Seev.Vendorgw
