import Seev.Ledger.Interest
import Seev.Lib.Result

/-!
# One interest for a day

Neither engine looks at the registrations of the other. An account is paid by one of them for a day as long as
whoever registers it looks: it is not enrolled while it has an enabled legacy config, nor from a date that the
legacy engine has paid, and it gets no enabled config once it is enrolled.

* `Kept`: what `RunDaily` leaves as it is, and that each accrual stays within its enrolment.
* `runDue_posted`: what `RunDue` posts.
* `once_of_separate`: no account earns twice for a day, in every run of such registrations.
* `earns_twice`: a run without them.
-/

namespace Seev.Ledger.Interest

open Lib

variable {w w' w'' : World} {e : Enrollment} {date : ℤ} {a : Answers} {balance : UUID → Option Decimal}

/-- The account has a posted legacy accrual and a completed product accrual on a positive balance. -/
def EarnsTwice (w : World) (accountID : UUID) (date : ℤ) : Prop :=
  (accountID, date) ∈ w.posted ∧ ∃ r ∈ w.accruals, r.accountID = accountID ∧ r.date = date ∧
    (r.status = .completedZero ∨ r.status = .completedPosted) ∧ ∃ c ∈ r.calculation, 0 < c.eligibleBalance

/-- What of an enrolment never changes. -/
def Enrollment.terms (e : Enrollment) : UUID × UUID × ℤ := (e.id, e.accountID, e.effectiveFrom)

def World.terms (w : World) : List (UUID × UUID × ℤ) := w.enrollments.map Enrollment.terms

/-- Every accrual is of an enrolment of its account, and not before the enrolment begins. -/
def Rooted (w : World) : Prop :=
  ∀ r ∈ w.accruals, ∃ x ∈ w.terms, x.1 = r.enrollmentID ∧ x.2.1 = r.accountID ∧ x.2.2 ≤ r.date

/-! ## The product engine -/

structure Kept (w w' : World) : Prop where
  configs : w'.configs = w.configs
  posted : w'.posted = w.posted
  terms : w'.terms = w.terms
  rooted : Rooted w → Rooted w'

theorem Kept.refl (w : World) : Kept w w := ⟨rfl, rfl, rfl, id⟩

theorem Kept.trans (h : Kept w w') (h' : Kept w' w'') : Kept w w'' :=
  ⟨h'.configs.trans h.configs, h'.posted.trans h.posted, h'.terms.trans h.terms, h'.rooted ∘ h.rooted⟩

theorem kept_update {id : UUID} {f : Accrual → Accrual}
    (hf : ∀ r, (f r).enrollmentID = r.enrollmentID ∧ (f r).accountID = r.accountID ∧ (f r).date = r.date) :
    Kept w (w.update id date f) := by
  refine ⟨rfl, rfl, rfl, fun h r' hr' => ?_⟩
  obtain ⟨r, hr, rfl⟩ := List.mem_map.1 hr'
  obtain ⟨x, hx, hid, haccount, hfrom⟩ := h r hr
  refine ⟨x, hx, ?_⟩
  split
  · obtain ⟨h1, h2, h3⟩ := hf r
    rw [h1, h2, h3]
    exact ⟨hid, haccount, hfrom⟩
  · exact ⟨hid, haccount, hfrom⟩

theorem kept_fail {id : UUID} {status : AccrualStatus} : Kept w (w.fail id date status a) := by
  unfold World.fail
  split
  · exact .refl w
  · exact kept_update fun _ => ⟨rfl, rfl, rfl⟩

theorem kept_complete {id : UUID} {status : AccrualStatus} {carry : ℤ} :
    Kept w (w.complete id date status carry a) := by
  unfold World.complete
  split
  · exact .refl w
  have hrow : Kept w (w.update id date fun r => { r with status := status }) :=
    kept_update fun _ => ⟨rfl, rfl, rfl⟩
  have hterms : (w.enrollments.map fun e =>
      if e.id = id then { e with carryNumerator := carry, carryDenominator := dailyDenominator } else e).map
        Enrollment.terms = w.terms := by
    rw [List.map_map]
    refine List.map_congr_left fun e _ => ?_
    simp only [Function.comp_apply]
    split <;> rfl
  refine ⟨rfl, rfl, hterms, fun h r hr => ?_⟩
  have hx := hrow.rooted h r hr
  rwa [hrow.terms, ← hterms] at hx

theorem kept_process {minimum : ℤ} : Kept w (w.process e minimum date a) := by
  unfold World.process
  split
  · exact kept_fail
  rename_i c _
  split
  · exact .refl w
  have hsave : Kept w (w.update e.id date fun r => { r with calculation := some c }) :=
    kept_update fun _ => ⟨rfl, rfl, rfl⟩
  dsimp only
  split
  · exact hsave.trans kept_complete
  split
  · exact hsave.trans kept_fail
  split
  · exact hsave.trans kept_fail
  · exact hsave.trans kept_complete

theorem kept_claim {r : Accrual} : Kept w (w.claim r) := kept_update fun _ => ⟨rfl, rfl, rfl⟩

/-- A new row is of an enrolment that has begun. -/
theorem kept_create {reach : Reach} (he : e.terms ∈ w.terms) (hfrom : e.effectiveFrom ≤ date) :
    Kept w (w.create e date reach) := by
  unfold World.create
  split
  · refine ⟨rfl, rfl, rfl, fun h r hr => ?_⟩
    rcases List.mem_append.1 hr with hr | hr
    · exact h r hr
    · cases List.mem_singleton.1 hr
      exact ⟨e.terms, he, rfl, rfl, hfrom⟩
  · exact .refl w

theorem kept_accrueOne {reach : Reach} (he : e.terms ∈ w.terms) (hfrom : e.effectiveFrom ≤ date) :
    Kept w (w.accrueOne e date reach a) := by
  unfold World.accrueOne
  split
  · exact .refl w
  have hcreate : Kept w (w.create e date reach) := kept_create he hfrom
  dsimp only
  split
  · exact hcreate
  split
  · exact hcreate.trans (kept_claim.trans kept_process)
  · exact hcreate

theorem kept_recoverOne (item : UUID × ℤ × Reach × Answers) : Kept w (w.recoverOne item) := by
  unfold World.recoverOne
  split
  · exact .refl w
  split
  · exact .refl w
  split
  · exact kept_claim.trans kept_process
  · exact kept_claim.trans kept_fail

/-- **What `RunDaily` leaves as it is.** -/
theorem kept_runDaily {eligible : Enrollment → Bool} {reach : UUID → Reach} {answers : UUID → Answers}
    {recovered : List (UUID × ℤ × Reach × Answers)} :
      Kept w (w.runDaily date eligible reach answers recovered) := by
  have hown : ∀ (l : List Enrollment) (w : World), (∀ e ∈ l, e.terms ∈ w.terms ∧ e.effectiveFrom ≤ date) →
      Kept w (l.foldl (fun w e => w.accrueOne e date (reach e.id) (answers e.id)) w) := by
    intro l
    induction l with
    | nil => exact fun w _ => .refl w
    | cons e l ih =>
      intro w hl
      obtain ⟨he, hfrom⟩ := hl e List.mem_cons_self
      have hstep : Kept w (w.accrueOne e date (reach e.id) (answers e.id)) := kept_accrueOne he hfrom
      refine hstep.trans (ih _ fun e' he' => ?_)
      rw [hstep.terms]
      exact hl e' (List.mem_cons_of_mem e he')
  have hrecover : ∀ (l : List (UUID × ℤ × Reach × Answers)) (w : World), Kept w (l.foldl World.recoverOne w) := by
    intro l
    induction l with
    | nil => exact fun w => .refl w
    | cons item l ih => exact fun w => (kept_recoverOne item).trans (ih _)
  refine (hown _ w fun e he => ?_).trans (hrecover recovered _)
  obtain ⟨hmem, hactive⟩ := List.mem_filter.1 he
  simp only [Bool.decide_and, Bool.and_eq_true, decide_eq_true_eq] at hactive
  exact ⟨List.mem_map_of_mem hmem, hactive.2.2.1⟩

/-! ## The legacy engine -/

/-- `w'` is `w` with posts for accounts that have an enabled config. -/
structure Posts (w w' : World) : Prop where
  configs : w'.configs = w.configs
  enrollments : w'.enrollments = w.enrollments
  accruals : w'.accruals = w.accruals
  posted : ∀ p ∈ w'.posted, p ∈ w.posted ∨ ∃ cfg ∈ w.configs, cfg.enabled = true ∧ p.1 = cfg.accountID

theorem Posts.post {cfg : SavingsConfig} (h : Posts w w') (hcfg : cfg ∈ w.configs) (hen : cfg.enabled = true) :
    Posts w (w'.post (cfg.accountID, date)) := by
  unfold World.post
  split
  · exact h
  refine ⟨h.configs, h.enrollments, h.accruals, fun p hp => ?_⟩
  rcases List.mem_append.1 hp with hp | hp
  · exact h.posted p hp
  · cases List.mem_singleton.1 hp
    exact .inr ⟨cfg, hcfg, hen, rfl⟩

theorem Posts.runOne {asOf : ℤ} {posting : UUID → Posting} {acc : World × ℕ × ℕ}
    {cfg : SavingsConfig} (h : Posts w acc.1) (hcfg : cfg ∈ w.configs) (hen : cfg.enabled = true) :
    Posts w (World.runOne asOf balance posting acc cfg).1 := by
  unfold World.runOne
  split
  · exact h
  split
  · exact h
  split
  · exact h.post hcfg hen
  · exact h
  · exact h.post hcfg hen

/-- **What `RunDue` posts.** -/
theorem runDue_posted {asOf : ℤ} {posting : UUID → Posting} :
    Posts w (w.runDue asOf balance posting).1 := by
  have hall : ∀ (l : List SavingsConfig) (acc : World × ℕ × ℕ),
    (∀ cfg ∈ l, cfg ∈ w.configs ∧ cfg.enabled = true) →
      Posts w acc.1 → Posts w (l.foldl (World.runOne asOf balance posting) acc).1 := by
    intro l
    induction l with
    | nil => exact fun acc _ h => h
    | cons cfg l ih =>
      intro acc hl h
      obtain ⟨hcfg, hen⟩ := hl cfg List.mem_cons_self
      exact ih _ (fun c hc => hl c (List.mem_cons_of_mem cfg hc)) (h.runOne hcfg hen)
  exact hall _ (w, 0, 0) (fun cfg hcfg => List.mem_filter.1 hcfg) ⟨rfl, rfl, rfl, fun _ hp => .inl hp⟩

/-! ## Registrations -/

theorem enroll_ok {r : Request} {product : Except String Product} {account : Option (String × Currency)}
    (h : w.enroll r product account = .ok w') : ∃ e : Enrollment, e.accountID = r.accountID ∧
      r.effectiveFrom = some e.effectiveFrom ∧ w' = { w with enrollments := w.enrollments ++ [e] } := by
  unfold World.enroll at h
  obtain ⟨-, h⟩ := guard_eq_ok.1 h
  obtain ⟨p, -, h⟩ := bind_eq_ok.1 h
  obtain ⟨-, h⟩ := guard_eq_ok.1 h
  cases hfrom : r.effectiveFrom with
  | none =>
    rw [hfrom] at h
    cases h
  | some start =>
    rw [hfrom] at h
    obtain ⟨-, h⟩ := guard_eq_ok.1 h
    cases account with
    | none => cases h
    | some account =>
      obtain ⟨-, h⟩ := guard_eq_ok.1 h
      obtain ⟨-, h⟩ := guard_eq_ok.1 h
      obtain ⟨-, h⟩ := guard_eq_ok.1 h
      obtain ⟨-, h⟩ := guard_eq_ok.1 h
      cases h
      exact ⟨_, rfl, rfl, rfl⟩

/-- Whoever registers an account looks at the other engine. -/
def World.Separate (w : World) : Event → Prop
  | .setConfig accountID _ enabled => enabled = true → ∀ e ∈ w.enrollments, e.accountID ≠ accountID
  | .enroll r _ _ => (∀ cfg ∈ w.configs, cfg.accountID = r.accountID → cfg.enabled = false) ∧
      ∀ p ∈ w.posted, p.1 = r.accountID → ∀ start ∈ r.effectiveFrom, p.2 < start
  | _ => True

structure Good (w : World) : Prop where
  apart : ∀ cfg ∈ w.configs, cfg.enabled = true → ∀ x ∈ w.terms, x.2.1 ≠ cfg.accountID
  before : ∀ p ∈ w.posted, ∀ x ∈ w.terms, x.2.1 = p.1 → p.2 < x.2.2
  rooted : Rooted w

/-- An enrolment of an account without an enabled config, from a date after its last legacy interest. -/
theorem Good.enroll (h : Good w) (hoff : ∀ cfg ∈ w.configs, cfg.accountID = e.accountID → cfg.enabled = false)
    (hbefore : ∀ p ∈ w.posted, p.1 = e.accountID → p.2 < e.effectiveFrom) :
    Good { w with enrollments := w.enrollments ++ [e] } := by
  have hterms : World.terms { w with enrollments := w.enrollments ++ [e] } = w.terms ++ [e.terms] :=
    List.map_append
  refine ⟨fun cfg hcfg hen x hx => ?_, fun p hp x hx hxa => ?_, fun r hr => ?_⟩
  · rw [hterms, List.mem_append, List.mem_singleton] at hx
    rcases hx with hx | rfl
    · exact h.apart cfg hcfg hen x hx
    · intro heq
      rw [hoff cfg hcfg heq.symm] at hen
      cases hen
  · rw [hterms, List.mem_append, List.mem_singleton] at hx
    rcases hx with hx | rfl
    · exact h.before p hp x hx hxa
    · exact hbefore p hp hxa.symm
  · obtain ⟨x, hx, hrest⟩ := h.rooted r hr
    exact ⟨x, by rw [hterms]; exact List.mem_append_left _ hx, hrest⟩

theorem Good.step {ev : Event} (h : Good w) (hev : w.Separate ev) : Good (w.step ev) := by
  cases ev with
  | setConfig accountID annualRateBps enabled =>
    simp only [World.step, World.setConfig]
    split
    · exact h
    split
    · exact h
    refine ⟨fun cfg hcfg hen x hx => ?_, h.before, h.rooted⟩
    rcases List.mem_append.1 hcfg with hcfg | hcfg
    · exact h.apart cfg (List.mem_filter.1 hcfg).1 hen x hx
    · cases List.mem_singleton.1 hcfg
      obtain ⟨e, he, rfl⟩ := List.mem_map.1 hx
      exact hev hen e he
  | enroll r product account =>
    simp only [World.step]
    cases hok : w.enroll r product account with
    | error msg => exact h
    | ok w' =>
      obtain ⟨e, haccount, hfrom, rfl⟩ := enroll_ok hok
      refine h.enroll (fun cfg hcfg heq => hev.1 cfg hcfg (heq.trans haccount)) fun p hp heq => ?_
      exact hev.2 p hp (heq.trans haccount) e.effectiveFrom hfrom
  | runDue asOf balance posting =>
    have hposts : Posts w (w.runDue asOf balance posting).1 := runDue_posted
    have hterms : (w.runDue asOf balance posting).1.terms = w.terms := by
      rw [World.terms, hposts.enrollments, World.terms]
    refine ⟨fun cfg hcfg hen x hx => ?_, fun p hp x hx hxa => ?_, fun r hr => ?_⟩
    · exact h.apart cfg (hposts.configs ▸ hcfg) hen x (hterms ▸ hx)
    · rcases hposts.posted p hp with hold | ⟨cfg, hcfg, hen, hpa⟩
      · exact h.before p hold x (hterms ▸ hx) hxa
      · -- an account with an enabled config is not enrolled
        exact absurd (hxa.trans hpa) (h.apart cfg hcfg hen x (hterms ▸ hx))
    · obtain ⟨x, hx, hrest⟩ := h.rooted r (hposts.accruals ▸ hr)
      exact ⟨x, hterms ▸ hx, hrest⟩
  | runDaily date eligible reach answers recovered =>
    have hkept : Kept w (w.runDaily date eligible reach answers recovered) := kept_runDaily
    refine ⟨fun cfg hcfg hen x hx => ?_, fun p hp x hx hxa => ?_, hkept.rooted h.rooted⟩
    · exact h.apart cfg (hkept.configs ▸ hcfg) hen x (hkept.terms ▸ hx)
    · exact h.before p (hkept.posted ▸ hp) x (hkept.terms ▸ hx) hxa

/-- **An account earns interest for a day at most once**, in every run in which whoever registers an account
looks at the other engine. -/
theorem once_of_separate (es : List Event) (hes : Along World.step World.Separate .empty es) (accountID : UUID)
    (date : ℤ) : ¬EarnsTwice (run World.step .empty es) accountID date := by
  have hempty : Good .empty := by
    refine ⟨?_, ?_, ?_⟩ <;> intro _ h <;> cases h
  have h : Good (run World.step .empty es) := run_inv_of_along (fun _ _ h hev => h.step hev) hempty hes
  rintro ⟨hposted, r, hr, rfl, rfl, -⟩
  obtain ⟨x, hx, -, haccount, hfrom⟩ := h.rooted r hr
  have hbefore := h.before _ hposted x hx haccount
  dsimp only at hbefore
  omega

namespace Sample

/-- Account 1 is enrolled in product 5 from a day on. -/
def enroll (day : ℤ) : Event :=
  .enroll ⟨7, 5, 1, 2, "ops", none, "", some day, none⟩ (.ok ⟨true, "IDR", ["cash"], 0⟩) (some ("cash", "IDR"))

def runDue (day : ℤ) : Event := .runDue day (fun _ => some 1000000) fun _ => .posts

def runDaily (day : ℤ) : Event :=
  .runDaily day (fun _ => true) (fun _ => ⟨some 0, true, true⟩)
    (fun _ => ⟨.ok (some 1000000), some 500, .ok none, true, .ok (), true, true, true, false⟩) []

/-- The legacy engine pays up to day 9 and is switched off; the product begins on day 10. -/
def handover : List Event :=
  [.setConfig 1 500 true, runDue 9, .setConfig 1 500 false, enroll 10, runDue 10, runDaily 10]

end Sample

theorem once_of_separate_handover :
    (run World.step .empty Sample.handover).posted = [(1, 9)] ∧
      (run World.step .empty Sample.handover).accruals.map (fun r => (r.accountID, r.date, r.status)) =
        [(1, 10, .completedPosted)] ∧
      ¬EarnsTwice (run World.step .empty Sample.handover) 1 10 := by
  refine ⟨by decide +kernel, by decide +kernel, once_of_separate Sample.handover ?_ 1 10⟩
  refine ⟨?_, trivial, ?_, ⟨?_, ?_⟩, trivial, trivial, trivial⟩
  · intro _ e he
    cases he
  · intro h
    cases h
  · decide +kernel
  · decide +kernel

/-- The account is registered with both engines, and both pay for day 10. -/
theorem earns_twice :
    EarnsTwice (run World.step .empty
      [.setConfig 1 500 true, Sample.enroll 10, Sample.runDue 10, Sample.runDaily 10]) 1 10 := by
  unfold EarnsTwice
  decide +kernel

end Seev.Ledger.Interest
