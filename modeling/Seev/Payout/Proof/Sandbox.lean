import Seev.Payout.Proof.Vendors

/-!
# Sandbox payouts

`CreateMerchant` sends the payout of a sandbox tenant to the sandbox vendor, without
looking at the routing rules. The environment is not stored, and a failover routes every
request through the rules.

* `sandbox_dispatch`: a sandbox request is submitted to the sandbox vendor only, when its
  failovers find no other vendor available.
* `sandbox_leaves`: a rejection by the sandbox vendor sends it to the vendor of a rule.
-/

namespace Seev.Payout

open Lib
open Ledger (UUID Decimal Currency FeeQuote)

variable {E : Env} {w : World} {e : Event} {sid : SessionID} {s s' : Session} {id : UUID} {v : String}

/-! ## Routing -/

/-- A candidate the loop of `ResolvePayoutRoute` does not skip. -/
def Env.available (E : Env) (allow : String → Bool) (currency : Currency) (exclude : List String)
    (c : RoutingCandidate) : Bool :=
  c.vendor ∉ exclude && E.registered c.vendor && E.supportsRequestedCurrency c.vendor currency && allow c.vendor

/-- The loop returns the first candidate that is available. -/
theorem routeLoop_eq_ok {allow : String → Bool} {currency : Currency} {exclude : List String}
    {c : RoutingCandidate} {cs : List RoutingCandidate} {mismatch capable : Bool} :
    routeLoop E allow currency exclude cs mismatch capable = .ok c ↔
      cs.find? (E.available allow currency exclude) = some c := by
  induction cs generalizing mismatch capable with
  | nil =>
    simp only [routeLoop, List.find?_nil]
    split <;> simp
  | cons c' cs ih =>
    unfold routeLoop
    split
    · rename_i h
      rw [ih, List.find?_cons_of_neg (by simp [Env.available, h])]
    · split
      · rename_i h
        rw [ih, List.find?_cons_of_neg (by simp_all [Env.available])]
      · split
        · rename_i h
          rw [ih, List.find?_cons_of_neg (by simp_all [Env.available])]
        · split
          · rename_i h
            rw [ih, List.find?_cons_of_neg (by simp_all [Env.available])]
          · rw [List.find?_cons_of_pos (by simp_all [Env.available])]
            simp

theorem resolvePayoutRoute_eq_ok {db : Db} {allow : String → Bool} {userID : UUID} {currency : Currency}
    {amount : Decimal} {exclude : List String} {c : RoutingCandidate}
    (h : resolvePayoutRoute E db allow userID currency amount exclude = .ok c) :
    c ∈ db.resolveCandidates "payout" userID currency amount.intPart ∧
      E.available allow currency exclude c = true := by
  unfold resolvePayoutRoute at h
  split at h
  · cases h
  · rename_i hc
    rw [routeLoop_eq_ok] at h
    exact ⟨List.mem_of_find?_eq_some h, List.find?_some h⟩

/-! ## Sandbox requests -/

/-- The request id was drawn by a call of a sandbox tenant. -/
def World.InSandbox (w : World) (id : UUID) : Prop := w.origins id = some (.merchant "sandbox")

instance : Decidable (w.InSandbox id) := inferInstanceAs (Decidable (_ = _))

/-- A vendor a request may be submitted to: for a sandbox request, the sandbox vendor. -/
def Permitted (w : World) (id : UUID) (v : String) : Prop :=
  ∃ o, w.origins id = some o ∧ (o = .merchant "sandbox" → v = sandboxVendor)

theorem Permitted.eq (h : Permitted w id v) (hin : w.InSandbox id) : v = sandboxVendor := by
  obtain ⟨o, ho, hv⟩ := h
  rw [show w.origins id = _ from hin] at ho
  exact hv (Option.some.inj ho).symm

theorem Permitted.step (h : Permitted w id v) : Permitted (w.step E e) id v := by
  obtain ⟨o, ho, hv⟩ := h
  exact ⟨o, origins_step ho, hv⟩

/-- The failover that resolves a route when `e` happens in `w`: its request, the vendors it
excludes and the answers of the breaker. -/
def World.rerouting (w : World) : Event → Option (PayoutRequest × List String × (String → Bool))
  | .advance sid d =>
    match w.sessions sid with
    | some ⟨_, .routeFailover _ req _ tried⟩ => some (req, tried, d.allow)
    | _ => none
  | _ => none

/-- When a failover resolves a route for a sandbox request, no rule offers an available
vendor other than the sandbox vendor. -/
def NoOtherRoute (E : Env) (w : World) (e : Event) : Prop :=
  ∀ x ∈ w.rerouting e, w.InSandbox x.1.id →
    ∀ c ∈ w.tables.db.resolveCandidates "payout" x.1.userID x.1.currency x.1.amount.intPart,
      E.available x.2.2 x.1.currency x.2.1 c = true → c.vendor = sandboxVendor

instance : Decidable (NoOtherRoute E w e) := inferInstanceAs (Decidable (∀ x ∈ w.rerouting e, _))

/-- The vendor a failover moves its request to. -/
def Phase.MovesTo (Q : UUID → String → Prop) : Phase → Prop
  | .failover _ req nextVendor => Q req.id nextVendor
  | _ => True

theorem Phase.MovesTo.mono {Q Q' : UUID → String → Prop} {p : Phase} (h : ∀ id v, Q id v → Q' id v)
    (hp : p.MovesTo Q) : p.MovesTo Q' := by
  cases p <;> first | trivial | exact h _ _ hp

/-- Every vendor named for a sandbox request is the sandbox vendor, and so is the next. -/
structure Sandboxed (w : World) : Prop where
  fresh : Fresh w
  named : Named (Permitted w) w
  moves : ∀ sid s, w.sessions sid = some s → s.Sat (Phase.MovesTo (Permitted w))

theorem Sandboxed.idle (rules : List RoutingRule) (gateways : String → Option String)
    (quotes : UUID → Option FeeQuote) (now : ℕ) : Sandboxed (World.idle rules gateways quotes now) where
  fresh := .idle ..
  named := .idle ..
  moves := fun sid s h => by simp [World.idle] at h

section Step

variable (hI : Sandboxed w)

include hI

/-- The row of a create call: a sandbox tenant's has the sandbox vendor. -/
theorem Sandboxed.inserted {r : PayoutRequest} (hs : w.sessions sid = some s) (hins : Inserts w.now s.phase r) :
    Permitted w r.id r.vendor := by
  have hdrawn := (hI.fresh.drawn sid s hs).1
  obtain ⟨job, p⟩ := s
  cases hins with
  | user => exact ⟨_, hdrawn, fun h => by cases h⟩
  | merchant =>
    obtain ⟨env, ho, hv⟩ := hdrawn
    refine ⟨_, ho, fun h => ?_⟩
    cases h
    exact hv rfl

theorem Sandboxed.moves_flow (hC : NoOtherRoute E w e) {p p' : Phase} {job : Job}
    (hs : w.sessions sid = some ⟨job, p⟩) (h : Flow E w e p p')
    (hp : p.MovesTo (Permitted (w.step E e))) : p'.MovesTo (Permitted (w.step E e)) := by
  cases h with
  | stays => exact hp
  | @inert _ p' hinert => cases p' <;> trivial
  | @routedFailover cmd req result tried sid' d c he hs' hroute =>
    subst he
    obtain ⟨job', hs'⟩ := hs'
    obtain ⟨hc, hav⟩ := resolvePayoutRoute_eq_ok hroute
    -- the request has an origin, since its command names a vendor for it
    obtain ⟨o, ho, -⟩ := (hI.named.sessions sid _ hs).1 _ _ rfl
    refine Permitted.step ⟨o, ho, fun hin => ?_⟩
    subst hin
    have hre : w.rerouting (.advance sid' d) = some (req, tried, d.allow) := by
      simp only [World.rerouting, hs']
    exact hC _ hre ho c hc hav
  | _ => trivial

theorem Sandboxed.step (hC : NoOtherRoute E w e) : Sandboxed (w.step E e) where
  fresh := hI.fresh.step
  named := hI.named.step hI.fresh (fun _ _ => Permitted.step)
    (fun _ _ _ hs hins _ => (hI.inserted hs hins).step)
    fun sid _ _ _ _ hs r _ hid hv => by
      have hmoves := (hI.moves sid _ hs).1
      rw [hid, hv]
      exact Permitted.step hmoves
  moves := fun sid s' hs' => by
    refine (step_sessions hs').sat
      (fun s hs => (hI.moves sid s hs).mono fun p => Phase.MovesTo.mono fun _ _ => Permitted.step)
      (fun s hf => ?_) (fun c _ => trivial) (fun stage _ _ r _ _ _ => ?_) trivial
      (fun p p' job hs hflow hp => hI.moves_flow hC hs hflow hp)
    · cases hf with
      | resume => exact ⟨trivial, fun r hr => absurd hr List.not_mem_nil⟩
      | _ => exact ⟨trivial, trivial⟩
    · cases stage <;> trivial

end Step

/-- **Sandbox money stays in the sandbox**: in every run in which no failover of a sandbox
request finds another vendor available, every `Submit` of it goes to the sandbox vendor. -/
theorem sandbox_dispatch (E : Env) (rules : List RoutingRule) (gateways : String → Option String)
    (quotes : UUID → Option FeeQuote) (now : ℕ) (es : List Event)
    (h : Along (World.step E) (NoOtherRoute E) (World.idle rules gateways quotes now) es) :
    ∀ x ∈ (run (World.step E) (World.idle rules gateways quotes now) es).sent,
      (run (World.step E) (World.idle rules gateways quotes now) es).InSandbox x.2 → x.1 = sandboxVendor := by
  intro x hx hin
  have hI : Sandboxed (run (World.step E) (World.idle rules gateways quotes now) es) :=
    run_inv_of_along (I := Sandboxed) (fun _ _ hI hC => hI.step hC) (.idle ..) h
  exact (hI.named.sent x hx).eq hin

namespace Sample

/-- A sandbox tenant's request 1, rejected by the sandbox vendor, up to the end of the
relay pass; a second pass dispatches the next command, if there is one. -/
def sandboxRejected : List Event :=
  .createMerchant 1 1 ⟨5, "sandbox", "IDR", 100, "key"⟩ answers :: go 1 3 ++ [.ledger 0 .accept] ++ go 1 3 ++
    draw 1 11 ++ .relay 2 .pending [11] :: submit 2 sandboxVendor 1 .failed ++ go 2 4 ++ draw 2 12 ++
    .relay 3 .pending [12] :: go 3 2

end Sample

set_option maxRecDepth 20000 in
/-- Without a rule for another vendor the rejected request stays in the sandbox. -/
theorem sandbox_dispatch_rejected :
    Along (World.step Sample.env) (NoOtherRoute Sample.env) (Sample.world [] fun _ => none)
      Sample.sandboxRejected ∧
      (run (World.step Sample.env) (Sample.world [] fun _ => none) Sample.sandboxRejected).sent =
        [(sandboxVendor, 1)] ∧
      ∀ x ∈ (run (World.step Sample.env) (Sample.world [] fun _ => none) Sample.sandboxRejected).sent,
        (run (World.step Sample.env) (Sample.world [] fun _ => none) Sample.sandboxRejected).InSandbox x.2 →
          x.1 = sandboxVendor := by
  have h : Along (World.step Sample.env) (NoOtherRoute Sample.env) (Sample.world [] fun _ => none)
      Sample.sandboxRejected := by
    decide +kernel
  exact ⟨h, by decide +kernel, sandbox_dispatch Sample.env _ _ _ _ Sample.sandboxRejected h⟩

set_option maxRecDepth 20000 in
/-- **A rejected sandbox request is submitted to the vendor of a rule.** -/
theorem sandbox_leaves :
    (run (World.step Sample.env) (Sample.world ["zeta"] fun _ => none) Sample.sandboxRejected).InSandbox 1 ∧
      (run (World.step Sample.env) (Sample.world ["zeta"] fun _ => none) Sample.sandboxRejected).sent =
        [(sandboxVendor, 1), ("zeta", 1)] := by
  decide +kernel

end Seev.Payout
