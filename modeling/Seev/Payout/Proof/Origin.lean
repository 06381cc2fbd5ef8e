import Seev.Payout.Proof.Step

/-!
# Where requests come from

A create call draws a request id, checks and routes, and then inserts the row. Until it
does, no row has the id and no other session works with it (`Fresh`).
-/

namespace Seev.Payout

open Lib
open Ledger (UUID Decimal Currency FeeQuote)

variable {E : Env} {w : World} {e : Event} {sid : SessionID} {s s' : Session} {n : Next} {now : ℕ} {id : UUID}
  {p p' : Phase} {r : PayoutRequest} {origins : UUID → Option Origin}

/-- The request id of a create call that has not inserted its row yet. -/
def Phase.draws : Phase → Option UUID
  | .route id .. | .routeMerchant id _ => some id
  | .insert req _ | .insertMerchant req => some req.id
  | _ => none

theorem Inserts.draws (h : Inserts now p r) : p.draws = some r.id := by
  cases h <;> rfl

theorem Job.draws_advance {job : Job} (h : job.advance.getLeft? = some s') : s'.phase.draws = none := by
  have hall : job.All fun p => p.draws = none := by
    cases job with
    | single => trivial
    | relay rest => exact fun c _ => rfl
    | resume stage cutoff rest n m =>
      intro r _
      cases stage <;> rfl
  exact (hall.advance rfl h).1

theorem Phase.draws_of_inert (h : p.inert = true) : p.draws = none := by
  cases p <;> first | rfl | cases h

theorem Phase.draws_of_waits (h : p.waits = true) : p.draws = none := by
  cases p <;> first | rfl | cases h

/-- A call hands its drawn id on up to the insert. -/
theorem Flow.draws (h : Flow E w e p p') (now : ℕ) (hd : p'.draws = some id) :
    p.draws = some id ∧ ∀ r, ¬ Inserts now p r := by
  cases h with
  | routed | routedMerchant => exact ⟨hd, fun r hr => by cases hr⟩
  | stays h =>
    rw [Phase.draws_of_waits h] at hd
    cases hd
  | inert h =>
    rw [Phase.draws_of_inert h] at hd
    cases hd
  | _ => cases hd

/-- Where a session got the id it works with before the insert. -/
theorem draws_step (h : (w.step E e).sessions sid = some s') (hd : s'.phase.draws = some id) :
    (∃ s, w.sessions sid = some s ∧ s.phase.draws = some id ∧
      (e.actor = some sid → (∃ r, Inserts w.now s.phase r) → (w.step E e).tables = w.tables)) ∨
    (e.draws = some (sid, id) ∧ w.origins id = none) := by
  cases step_sessions h with
  | stays h hq => exact .inl ⟨s', h, hd, fun ha _ => hq ha⟩
  | starts hf =>
    cases hf with
    | create he hfresh =>
      cases hd
      exact .inr ⟨by rw [he]; rfl, hfresh⟩
    | createMerchant he hfresh =>
      cases hd
      exact .inr ⟨by rw [he]; rfl, hfresh⟩
    | _ => cases hd
  | claims _ _ heq =>
    subst heq
    cases hd
  | @moves s n hs hleads hflow =>
    cases n with
    | goto p =>
      cases hleads
      obtain ⟨hds, hno⟩ := (hflow p rfl).draws w.now hd
      exact .inl ⟨s, hs, hds, fun _ ⟨r, hr⟩ => absurd hr (hno r)⟩
    | «return» r => cases hleads
    | task | listed =>
      rw [Job.draws_advance hleads] at hd
      cases hd

/-! ## The call that drew an id -/

/-- The origin that a create call has on record for its id. A sandbox tenant's request is
routed to the sandbox vendor. -/
def Phase.Originated (origins : UUID → Option Origin) : Phase → Prop
  | .route id req _ => origins id = some (.user req.quoteID)
  | .insert req quoteID => origins req.id = some (.user quoteID)
  | .routeMerchant id req => origins id = some (.merchant req.environment)
  | .insertMerchant req =>
    ∃ env, origins req.id = some (.merchant env) ∧ (env = "sandbox" → req.vendor = sandboxVendor)
  | _ => True

theorem Phase.Originated.isSome (h : p.Originated origins) (hd : p.draws = some id) :
    (origins id).isSome = true := by
  cases p <;> cases hd
  case insertMerchant =>
    obtain ⟨env, ho, -⟩ := h
    rw [ho]
    rfl
  all_goals
    rw [show origins _ = _ from h]
    rfl

theorem Phase.Originated.of_draws (h : p.draws = none) :
    p.Originated origins := by
  cases p <;> trivial

theorem Phase.Originated.step (h : p.Originated w.origins) : p.Originated (w.step E e).origins := by
  cases p with
  | route | insert | routeMerchant => exact origins_step h
  | insertMerchant req =>
    obtain ⟨env, ho, hv⟩ := h
    exact ⟨env, origins_step ho, hv⟩
  | _ => trivial

theorem resolveMerchantVendor_sandbox {db : Db} {allow : String → Bool} {currency : Currency} {amount : Decimal}
    {vendor : String} (h : resolveMerchantVendor E db allow "sandbox" currency amount = .ok vendor) :
    vendor = sandboxVendor := by
  unfold resolveMerchantVendor at h
  rw [if_pos rfl] at h
  split at h
  · cases h
  · split at h <;> cases h
    rfl

theorem Flow.originated (h : Flow E w e p p') (ho : p.Originated (w.step E e).origins) :
    p'.Originated (w.step E e).origins := by
  cases h with
  | routed | stays => exact ho
  | routedMerchant hroute =>
    refine ⟨_, ho, fun henv => ?_⟩
    rw [henv] at hroute
    exact resolveMerchantVendor_sandbox hroute
  | inert h => exact .of_draws (Phase.draws_of_inert h)
  | _ => trivial

/-! ## Fresh ids -/

/-- Ids that are drawn and not inserted yet, and the rows. -/
structure Fresh (w : World) : Prop where
  drawn : ∀ sid s, w.sessions sid = some s → s.Sat (Phase.Originated w.origins)
  alone : ∀ sid sid' s s' id, w.sessions sid = some s → w.sessions sid' = some s' →
    s.phase.draws = some id → s'.phase.draws = some id → sid = sid'
  absent : ∀ sid s, w.sessions sid = some s → ∀ r ∈ w.tables.db.requests.1, s.phase.draws ≠ some r.id
  known : ∀ r ∈ w.tables.db.requests.1, (w.origins r.id).isSome = true

theorem Fresh.idle (rules : List RoutingRule) (gateways : String → Option String)
    (quotes : UUID → Option FeeQuote) (now : ℕ) : Fresh (World.idle rules gateways quotes now) where
  drawn := fun sid s h => by simp [World.idle] at h
  alone := fun sid sid' s s' id h => by simp [World.idle] at h
  absent := fun sid s h => by simp [World.idle] at h
  known := fun r h => by simp [World.idle] at h

section Step

variable (hI : Fresh w)

include hI

theorem Fresh.drawn_step (h : (w.step E e).sessions sid = some s') :
    s'.Sat (Phase.Originated (w.step E e).origins) := by
  have created : ∀ {id : UUID} {o : Origin} {first : Except Result Session}, w.origins id = none →
      w.sessions sid = none → (w.startNew sid id o first).origins id = some o := by
    intro id o first hfresh hfree
    simp [World.startNew, hfresh, hfree]
  refine (step_sessions h).sat (fun s hs => (hI.drawn sid s hs).mono fun p => Phase.Originated.step)
    (fun s hf => ?_) (fun _ _ => trivial) (fun stage _ _ r _ _ _ => .of_draws (by cases stage <;> rfl)) trivial
    (fun p p' job _ hflow ho => hflow.originated ho)
  cases hf with
  | create he hfresh hfree =>
    subst he
    exact ⟨created hfresh hfree, trivial⟩
  | createMerchant he hfresh hfree =>
    subst he
    exact ⟨created hfresh hfree, trivial⟩
  | resume => exact ⟨trivial, fun r hr => absurd hr List.not_mem_nil⟩
  | _ => exact ⟨trivial, trivial⟩

theorem Fresh.known_step (h : r ∈ (w.step E e).tables.db.requests.1) :
    ((w.step E e).origins r.id).isSome = true := by
  have kept : ∀ {id : UUID}, (w.origins id).isSome = true → ((w.step E e).origins id).isSome = true := by
    intro id hid
    obtain ⟨o, ho⟩ := Option.isSome_iff_exists.1 hid
    rw [origins_step ho]
    rfl
  rcases step_rows h with h | ⟨sid, s, -, hs, ⟨r0, hr0, hrw⟩ | hins⟩
  · exact kept (hI.known r h)
  · rw [hrw.id_eq]
    exact kept (hI.known r0 hr0)
  · exact kept ((hI.drawn sid s hs).1.isSome hins.draws)

theorem Fresh.alone_step {sid' : SessionID} {t : Session} (h : (w.step E e).sessions sid = some s')
    (h' : (w.step E e).sessions sid' = some t) (hd : s'.phase.draws = some id) (hd' : t.phase.draws = some id) :
    sid = sid' := by
  have old : ∀ {sid : SessionID} {s : Session}, w.sessions sid = some s → s.phase.draws = some id →
      w.origins id ≠ none := by
    intro sid s hs hds ho
    have hsome := (hI.drawn sid s hs).1.isSome hds
    rw [ho] at hsome
    cases hsome
  rcases draws_step h hd with ⟨s, hs, hds, -⟩ | ⟨he, ho⟩ <;>
    rcases draws_step h' hd' with ⟨u, hu, hdu, -⟩ | ⟨he', ho'⟩
  · exact hI.alone sid sid' s u id hs hu hds hdu
  · exact absurd ho' (old hs hds)
  · exact absurd ho (old hu hdu)
  · rw [he] at he'
    exact congrArg Prod.fst (Option.some.inj he')

theorem Fresh.absent_step (h : (w.step E e).sessions sid = some s')
    (hr : r ∈ (w.step E e).tables.db.requests.1) : s'.phase.draws ≠ some r.id := by
  intro hd
  rcases draws_step h hd with ⟨s, hs, hds, hquiet⟩ | ⟨-, ho⟩
  · -- the row is new, and its insert was the session's own statement
    rcases step_rows hr with hold | ⟨sid', u, ha, hu, ⟨r0, hr0, hrw⟩ | hins⟩
    · exact hI.absent sid s hs r hold hds
    · exact hI.absent sid s hs r0 hr0 (hrw.id_eq ▸ hds)
    · cases hI.alone sid sid' s u r.id hs hu hds hins.draws
      rw [hs] at hu
      cases hu
      rw [hquiet ha ⟨r, hins⟩] at hr
      exact hI.absent sid s hs r hr hds
  · rcases step_rows hr with hold | ⟨sid', u, -, hu, ⟨r0, hr0, hrw⟩ | hins⟩
    · have := hI.known r hold
      rw [ho] at this
      cases this
    · have := hI.known r0 hr0
      rw [← hrw.id_eq, ho] at this
      cases this
    · have := (hI.drawn sid' u hu).1.isSome hins.draws
      rw [ho] at this
      cases this

/-- **Fresh ids stay fresh until they are inserted.** -/
theorem Fresh.step : Fresh (w.step E e) where
  drawn := fun _ _ h => hI.drawn_step h
  alone := fun _ _ _ _ _ h h' hd hd' => hI.alone_step h h' hd hd'
  absent := fun _ _ h _ hr => hI.absent_step h hr
  known := fun _ h => hI.known_step h

end Step

end Seev.Payout
