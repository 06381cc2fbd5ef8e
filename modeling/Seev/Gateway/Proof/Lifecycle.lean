import Seev.Gateway.Tenant
import Seev.Lib.Rows

/-!
# Two people open a merchant, and closing is final

A status is written without a look at the one it replaces, by a checker's approval and by a
maker's suspension alike, and an approval is recorded before it is applied.

* `two_people_open`: in every run whose steps are `Careful`, a live tenant authenticates only
  after an activation by two people, closed is final, and every recorded approval is applied
  or about to be.
* `suspended_reopened_lost`: the runs without that.
-/

namespace Seev.Gateway

open Lib

variable {E : Env} {T T' : Tables} {w : World} {approvedBy : String} {s : Session} {next : Option Session}
  {req : LifecycleRequest} {sid : SessionID}

/-! ## The tables -/

/-- An activation of the tenant by two people was applied. -/
def ActivationApplied (T : Tables) (tenantID : UUID) : Prop :=
  ∃ r ∈ T.requests, r.1.tenantID = tenantID ∧ r.1.action = .activate ∧ r.1.status = .approved ∧
    (∃ actor, r.1.approvedBy = some actor ∧ actor ≠ r.1.requestedBy) ∧ r.1.id ∈ T.applied

structure TablesOK (T : Tables) : Prop where
  ids : (T.requests.map fun r => r.1.id).Nodup
  /-- the foreign key of a request -/
  tenant : ∀ r ∈ T.requests, (T.tenants r.1.tenantID).isSome
  /-- an approved request names who approved it -/
  approver : ∀ r ∈ T.requests, r.1.status = .approved → r.1.approvedBy.isSome
  opened : ∀ id t, T.tenants id = some t → t.environment = .live → t.status = .active ∨ t.status = .suspended →
    ActivationApplied T id

theorem empty_ok (now : ℕ) : TablesOK (.empty now) where
  ids := List.nodup_nil
  tenant _ hr := nomatch hr
  approver _ hr := nomatch hr
  opened _ _ ht := nomatch ht

/-- What a decided request keeps. -/
structure RowLater (r r' : LifecycleRequest) : Prop where
  id : r'.id = r.id
  tenantID : r'.tenantID = r.tenantID
  action : r'.action = r.action
  requestedBy : r'.requestedBy = r.requestedBy
  decided : r.status ≠ .pending → r' = r

theorem RowLater.refl (r : LifecycleRequest) : RowLater r r := ⟨rfl, rfl, rfl, rfl, fun _ => rfl⟩

/-- The requests stay, and decisions are final. -/
structure Grows (T T' : Tables) : Prop where
  requests : ∀ r ∈ T.requests, ∃ r' ∈ T'.requests, RowLater r.1 r'.1
  applied : T.applied ⊆ T'.applied

theorem Grows.refl (T : Tables) : Grows T T := ⟨fun r hr => ⟨r, hr, .refl r.1⟩, List.Subset.refl _⟩

theorem ActivationApplied.grows {id : UUID} (h : ActivationApplied T id) (hg : Grows T T') :
    ActivationApplied T' id := by
  obtain ⟨r, hr, htenant, haction, hstatus, happroved, happlied⟩ := h
  obtain ⟨r', hr', hl⟩ := hg.requests r hr
  have hsame : r'.1 = r.1 := hl.decided (by rw [hstatus]; decide)
  refine ⟨r', hr', ?_⟩
  rw [hsame]
  exact ⟨htenant, haction, hstatus, happroved, hg.applied happlied⟩

/-- A step that changes neither tenants nor requests. -/
theorem TablesOK.of_eq (h : TablesOK T) (ht : T'.tenants = T.tenants) (hr : T'.requests = T.requests)
    (ha : T'.applied = T.applied) : TablesOK T' where
  ids := hr ▸ h.ids
  tenant r hmem := ht ▸ h.tenant r (hr ▸ hmem)
  approver r hmem := h.approver r (hr ▸ hmem)
  opened id t hid hlive hstatus := by
    have hg : Grows T T' := ⟨fun r hmem => ⟨r, hr ▸ hmem, .refl r.1⟩, fun _ hmem => ha ▸ hmem⟩
    exact (h.opened id t (ht ▸ hid) hlive hstatus).grows hg

theorem Grows.of_eq (hr : T'.requests = T.requests) (ha : T'.applied = T.applied) : Grows T T' :=
  ⟨fun r hmem => ⟨r, hr ▸ hmem, .refl r.1⟩, fun _ hmem => ha ▸ hmem⟩

theorem createTenant_ok (h : TablesOK T) {id : UUID} {t : Tenant} (ht : t.environment = .live → t.status = .draft)
    (hT : T.createTenant id t = some T') : TablesOK T' ∧ Grows T T' ∧
      (∀ i, (T.tenants i).isSome → T'.tenants i = T.tenants i) := by
  unfold Tables.createTenant at hT
  split at hT
  · cases hT
  rename_i hnew
  cases hT
  have hold : ∀ i, (T.tenants i).isSome → Function.update T.tenants id (some t) i = T.tenants i := by
    intro i hi
    have hne : i ≠ id := fun heq => hnew (heq ▸ hi)
    rw [Function.update_of_ne hne]
  have hg : Grows T { T with tenants := Function.update T.tenants id (some t) } := .of_eq rfl rfl
  refine ⟨⟨h.ids, fun r hr => ?_, h.approver, fun i t' hi hlive hstatus => ?_⟩, hg, hold⟩
  · show (Function.update T.tenants id (some t) r.1.tenantID).isSome
    rw [hold _ (h.tenant r hr)]
    exact h.tenant r hr
  · by_cases hid : i = id
    · -- a new live tenant is a draft
      subst hid
      have hi : some t = some t' := by simpa using hi
      cases hi
      rw [ht hlive] at hstatus
      rcases hstatus with hs | hs <;> cases hs
    · have hi : T.tenants i = some t' := by simpa [hid] using hi
      exact (h.opened i t' hi hlive hstatus).grows hg

/-- A write of a status, to an opened tenant unless it closes. -/
theorem updateStatus_ok (h : TablesOK T) {id : UUID} {status : TenantStatus} {actor : String}
    (hopen : ∀ t, T.tenants id = some t → t.environment = .live →
      status = .active ∨ status = .suspended → ActivationApplied T id)
    (hT : T.updateStatus id status actor = some T') : TablesOK T' ∧ Grows T T' ∧
      (∀ i, T'.status i = if i = id then some status else T.status i) := by
  unfold Tables.updateStatus at hT
  split at hT
  · cases hT
  rename_i t ht
  cases hT
  have henv : (Tables.withStatus t status actor).environment = t.environment := by
    cases status <;> rfl
  have hstatus : (Tables.withStatus t status actor).status = status := by
    cases status <;> rfl
  have hg : Grows T { T with tenants := Function.update T.tenants id (some (Tables.withStatus t status actor))
      } :=
    .of_eq rfl rfl
  refine ⟨⟨h.ids, fun r hr => ?_, h.approver, fun i t' hi hlive hopened => ?_⟩, hg, fun i => ?_⟩
  · show (Function.update T.tenants id _ r.1.tenantID).isSome
    by_cases hid : r.1.tenantID = id
    · rw [hid, Function.update_self]
      rfl
    · rw [Function.update_of_ne hid]
      exact h.tenant r hr
  · by_cases hid : i = id
    · subst hid
      have hi : some (Tables.withStatus t status actor) = some t' := by simpa using hi
      cases hi
      rw [henv] at hlive
      rw [hstatus] at hopened
      exact (hopen t ht hlive hopened).grows hg
    · have hi : T.tenants i = some t' := by simpa [hid] using hi
      exact (h.opened i t' hi hlive hopened).grows hg
  · by_cases hid : i = id
    · subst hid
      simp [Tables.status, hstatus]
    · simp [Tables.status, hid]

theorem createRequest_ok (h : TablesOK T) {id tenantID : UUID} {action : Action} {requestedBy reason : String}
    {created : Bool} (hT : T.createRequest id tenantID action requestedBy reason = some (T', created)) :
    TablesOK T' ∧ Grows T T' ∧ T'.tenants = T.tenants ∧
      (∀ r ∈ T'.requests, r ∈ T.requests ∨ r.1.status = .pending) := by
  unfold Tables.createRequest at hT
  split at hT
  · cases hT
  rename_i hfresh
  obtain ⟨htenant, hid⟩ := not_or.1 hfresh
  split at hT
  · cases hT
    exact ⟨h, .refl T, rfl, fun r hr => .inl hr⟩
  cases hT
  have hg : Grows T { T with requests := T.requests ++
      [⟨⟨id, tenantID, action, requestedBy, none, reason, .pending⟩, fun _ h => by cases h⟩] } :=
    ⟨fun r hr => ⟨r, List.mem_append_left _ hr, .refl r.1⟩, List.Subset.refl _⟩
  refine ⟨⟨?_, fun r hr => ?_, fun r hr hap => ?_, fun i t hi hlive hs => (h.opened i t hi hlive hs).grows hg⟩,
    hg, rfl, fun r hr => ?_⟩
  · exact nodup_concat_id h.ids (notMem_ids hid)
  · rcases List.mem_append.1 hr with hr | hr
    · exact h.tenant r hr
    · cases List.mem_singleton.1 hr
      exact Option.isSome_iff_ne_none.2 (by simpa using htenant)
  · rcases List.mem_append.1 hr with hr | hr
    · exact h.approver r hr hap
    · cases List.mem_singleton.1 hr
      cases hap
  · rcases List.mem_append.1 hr with hr | hr
    · exact .inl hr
    · cases List.mem_singleton.1 hr
      exact .inr rfl

/-- **A decision** changes one pending request. -/
theorem decide_ok (h : TablesOK T) {id : UUID} {status : RequestStatus} {matched : Bool}
    (hT : T.decide id status approvedBy = some (T', matched)) :
    TablesOK T' ∧ Grows T T' ∧ T'.tenants = T.tenants ∧
      (∀ r ∈ T'.requests, r ∈ T.requests ∨ r.1.id = id ∧ r.1.status = status ∧ matched = true) ∧
      (matched = true → ∃ r ∈ T.requests, r.1.id = id ∧ r.1.status = .pending ∧
        ∃ r' ∈ T'.requests, RowLater r.1 r'.1 ∧ r'.1.status = status) := by
  unfold Tables.decide at hT
  split at hT
  · cases hT
    exact ⟨h, .refl T, rfl, fun r hr => .inl hr, fun hm => nomatch hm⟩
  rename_i row hfind
  have hrow : row ∈ T.requests := List.mem_of_find?_eq_some hfind
  have hkeys : row.1.id = id ∧ row.1.status = .pending := by
    have hp := List.find?_some hfind
    simpa using hp
  split at hT
  · cases hT
  rename_i row' hdecide
  cases hT
  unfold Tables.decideRow at hdecide
  split at hdecide
  swap
  · cases hdecide
  rename_i hdistinct
  cases hdecide
  -- the rows with this id are the one that was found
  have hlater : ∀ r ∈ T.requests, RowLater r.1 (if r.1.id = id then
      (⟨{ row.1 with status := status, approvedBy := some approvedBy }, hdistinct⟩ : RequestRow) else r).1 := by
    intro r hr
    split
    · rename_i heq
      have hsame : r = row := eq_of_id (k := fun r : RequestRow => r.1.id) h.ids hr hrow (heq.trans hkeys.1.symm)
      subst hsame
      exact ⟨rfl, rfl, rfl, rfl, fun hne => absurd hkeys.2 hne⟩
    · exact .refl r.1
  have hg : Grows T { T with requests := T.requests.map fun r => if r.1.id = id then
      (⟨{ row.1 with status := status, approvedBy := some approvedBy }, hdistinct⟩ : RequestRow) else r } :=
    ⟨fun r hr => ⟨_, List.mem_map_of_mem hr, hlater r hr⟩, List.Subset.refl _⟩
  refine ⟨⟨?_, fun r' hr' => ?_, fun r' hr' hap => ?_, fun i t hi hlive hs =>
    (h.opened i t hi hlive hs).grows hg⟩,
    hg, rfl, fun r' hr' => ?_, fun _ =>
      ⟨row, hrow, hkeys.1, hkeys.2, _, List.mem_map_of_mem hrow, hlater row hrow, ?_⟩⟩
  · show ((T.requests.map _).map fun r : RequestRow => r.1.id).Nodup
    rw [map_id_map fun r hr => (hlater r hr).id]
    exact h.ids
  · obtain ⟨r, hr, rfl⟩ := List.mem_map.1 hr'
    rw [(hlater r hr).tenantID]
    exact h.tenant r hr
  · obtain ⟨r, hr, rfl⟩ := List.mem_map.1 hr'
    by_cases heq : r.1.id = id
    · rw [if_pos heq]
      rfl
    · rw [if_neg heq] at hap ⊢
      exact h.approver r hr hap
  · obtain ⟨r, hr, rfl⟩ := List.mem_map.1 hr'
    by_cases heq : r.1.id = id
    · rw [if_pos heq]
      exact .inr ⟨hkeys.1, rfl, rfl⟩
    · rw [if_neg heq]
      exact .inl hr
  · rw [if_pos hkeys.1]

/-! ## Sessions -/

/-- What a session has read is in the table. -/
def SessionOK (T : Tables) : Session → Prop
  | .approveDecide req _ =>
    ∃ r ∈ T.requests, r.1.id = req.id ∧ r.1.tenantID = req.tenantID ∧ r.1.action = req.action
  | .approveApply req _ =>
    ∃ r ∈ T.requests, (r.1.id = req.id ∧ r.1.tenantID = req.tenantID ∧ r.1.action = req.action) ∧
      r.1.status = .approved
  | _ => True

theorem SessionOK.grows (h : SessionOK T s) (hg : Grows T T') : SessionOK T' s := by
  cases s with
  | approveDecide req approvedBy =>
    obtain ⟨r, hr, hid, htenant, haction⟩ := h
    obtain ⟨r', hr', hl⟩ := hg.requests r hr
    exact ⟨r', hr', hl.id.trans hid, hl.tenantID.trans htenant, hl.action.trans haction⟩
  | approveApply req approvedBy =>
    obtain ⟨r, hr, hreq, happroved⟩ := h
    obtain ⟨r', hr', hl⟩ := hg.requests r hr
    have hsame : r'.1 = r.1 := hl.decided (by rw [happroved]; decide)
    exact ⟨r', hr', hsame ▸ hreq, hsame ▸ happroved⟩
  | _ => trivial

/-- A suspension is of a tenant that was opened and is not closed, and an activation is applied
to a tenant that is not closed. -/
def Proper (T : Tables) : Session → Prop
  | .suspend tenantID _ => T.status tenantID ≠ some .draft ∧ T.status tenantID ≠ some .closed
  | .approveApply req _ => req.action = .activate → T.status req.tenantID ≠ some .closed
  | _ => True

/-- What one statement leaves: the tables, and the session it goes on as. -/
structure Executed (T : Tables) (x : Tables × Option Session) : Prop where
  ok : TablesOK x.1
  grows : Grows T x.1
  session : ∀ s', x.2 = some s' → SessionOK x.1 s'
  closed : ∀ id, T.status id = some .closed → x.1.status id = some .closed
  /-- an approval is recorded by the session that is to apply it -/
  approved : ∀ r ∈ x.1.requests, r.1.status = .approved → r ∈ T.requests ∨
    ∃ req approvedBy, x.2 = some (.approveApply req approvedBy) ∧ req.id = r.1.id

theorem status_eq (h : T'.tenants = T.tenants) (id : UUID) : T'.status id = T.status id := by
  rw [Tables.status, Tables.status, h]

/-- A statement that leaves the tenants and approves no request. -/
theorem Executed.kept (hok : TablesOK T') (hg : Grows T T') (htenants : T'.tenants = T.tenants)
    (happroved : ∀ r ∈ T'.requests, r.1.status = .approved → r ∈ T.requests)
    (hnext : ∀ s', next = some s' → SessionOK T' s') : Executed T (T', next) :=
  ⟨hok, hg, hnext, fun id hc => by rwa [status_eq htenants], fun r hr hap => .inl (happroved r hr hap)⟩

/-- A statement that only reads. -/
theorem Executed.read (h : TablesOK T) (hnext : ∀ s', next = some s' → SessionOK T s') : Executed T (T, next) :=
  .kept h (.refl T) rfl (fun _ hr _ => hr) hnext

theorem Executed.refused (h : TablesOK T) : Executed T (T, none) := .read h fun _ hn => nomatch hn

/-- The row a lookup returns. -/
theorem getRequest_some {id : UUID} (h : T.getRequest id = some req) :
    ∃ r ∈ T.requests, r.1 = req := by
  obtain ⟨r, hfind, hval⟩ := Option.map_eq_some_iff.1 h
  exact ⟨r, List.mem_of_find?_eq_some hfind, hval⟩

theorem exec_decide (h : TablesOK T) (d : Draw) (hs : SessionOK T (.approveDecide req approvedBy)) :
    Executed T (T.exec E d (.approveDecide req approvedBy)) := by
  simp only [Tables.exec]
  split
  swap
  · exact .refused h
  rename_i T' hT
  obtain ⟨hok, hg, htenants, hrows, hmatched⟩ := decide_ok h hT
  obtain ⟨r, hr, hid, hpending, r', hr', hl, hstatus⟩ := hmatched rfl
  refine ⟨hok, hg, ?_, fun id hc => by rwa [status_eq htenants], ?_⟩
  · rintro s' ⟨⟩
    obtain ⟨r₀, hr₀, hid₀, htenant, haction⟩ := hs
    have hsame : r₀ = r := eq_of_id (k := fun r : RequestRow => r.1.id) h.ids hr₀ hr (hid₀.trans hid.symm)
    subst hsame
    exact ⟨r', hr', ⟨hl.id.trans hid, hl.tenantID.trans htenant, hl.action.trans haction⟩, hstatus⟩
  · intro r hr happroved
    rcases hrows r hr with hold | ⟨hid, -, -⟩
    · exact .inl hold
    · exact .inr ⟨req, approvedBy, rfl, hid.symm⟩

/-- The approved request, applied. -/
theorem exec_apply (h : TablesOK T) (d : Draw)
    (hs : SessionOK T (.approveApply req approvedBy)) (hproper : Proper T (.approveApply req approvedBy)) :
    Executed T (T.exec E d (.approveApply req approvedBy)) ∧
      req.id ∈ (T.exec E d (.approveApply req approvedBy)).1.applied := by
  obtain ⟨r, hr, ⟨hid, htenant, haction⟩, happroved⟩ := hs
  obtain ⟨t, ht⟩ := Option.isSome_iff_exists.1 (h.tenant r hr)
  rw [htenant] at ht
  -- the status is written to the tables in which the request counts as applied
  set T₁ : Tables := { T with applied := T.applied ++ [req.id] } with hT₁
  have hmem : req.id ∈ T₁.applied := List.mem_append_right _ List.mem_cons_self
  have hg₁ : Grows T T₁ := ⟨fun r hr => ⟨r, hr, .refl r.1⟩, List.subset_append_left ..⟩
  have hok₁ : TablesOK T₁ := { h with opened := fun i t hi hlive hst => (h.opened i t hi hlive hst).grows hg₁ }
  have hexec : T.exec E d (.approveApply req approvedBy) =
      ((T₁.updateStatus req.tenantID req.action.targetStatus approvedBy).getD T₁, none) := by
    simp only [Tables.exec, Tables.updateStatus, ht, hT₁]
    rfl
  obtain ⟨T', hT'⟩ : ∃ T', T₁.updateStatus req.tenantID req.action.targetStatus approvedBy = some T' := by
    simp only [Tables.updateStatus, hT₁, ht]
    exact ⟨_, rfl⟩
  have hopen : ∀ t, T₁.tenants req.tenantID = some t → t.environment = .live →
      req.action.targetStatus = .active ∨ req.action.targetStatus = .suspended →
      ActivationApplied T₁ req.tenantID := by
    intro t _ _ hst
    have hactivate : req.action = .activate := by
      cases ha : req.action with
      | activate => rfl
      | close =>
        rw [ha] at hst
        rcases hst with hst | hst <;> cases hst
    obtain ⟨actor, hactor⟩ := Option.isSome_iff_exists.1 (h.approver r hr happroved)
    exact ⟨r, hr, htenant, haction.trans hactivate, happroved, ⟨actor, hactor, r.2 actor hactor⟩, hid ▸ hmem⟩
  obtain ⟨hok', hg', hstatus⟩ := updateStatus_ok hok₁ hopen hT'
  have hrequests : T'.requests = T.requests := by
    simp only [Tables.updateStatus, hT₁, ht] at hT'
    cases hT'
    rfl
  rw [hexec, hT']
  refine ⟨⟨hok', ⟨fun r hr => ?_, List.Subset.trans (List.subset_append_left ..) hg'.applied⟩,
    (fun _ hn => nomatch hn), fun id hc => ?_, fun r hr _ => .inl (hrequests ▸ hr)⟩, hg'.applied hmem⟩
  · exact ⟨r, hrequests.symm ▸ hr, .refl r.1⟩
  · show T'.status id = some .closed
    rw [hstatus]
    split
    · -- an activation would reopen the tenant, and is not applied to a closed one
      rename_i heq
      subst heq
      cases ha : req.action with
      | close => rfl
      | activate => exact absurd hc (hproper ha)
    · exact hc

theorem exec_create (h : TablesOK T) (d : Draw) {environment : Environment} {createdBy : String} :
    Executed T (T.exec E d (.create environment createdBy)) := by
  simp only [Tables.exec]
  cases hT : T.createTenant d.id
      ⟨environment, if environment = .sandbox then .active else .draft, createdBy, none, none⟩ with
  | none => exact .refused h
  | some T' =>
    obtain ⟨hok, hg, hold⟩ := createTenant_ok h (fun hlive => by
      have hlive : environment = .live := hlive
      subst hlive
      rfl) hT
    refine ⟨hok, hg, (fun _ hn => nomatch hn), fun id hc => ?_, ?_⟩
    · have hsome : (T.tenants id).isSome := by
        obtain ⟨t, ht, -⟩ := Option.map_eq_some_iff.1 hc
        rw [ht]
        rfl
      show (T'.tenants id).map Tenant.status = _
      rw [hold id hsome]
      exact hc
    · intro r hr _
      unfold Tables.createTenant at hT
      split at hT <;> cases hT
      exact .inl hr

theorem exec_proposeCreate (h : TablesOK T) (d : Draw) {tenantID : UUID} {action : Action}
    {requestedBy reason : String} :
    Executed T (T.exec E d (.proposeCreate tenantID action requestedBy reason)) := by
  simp only [Tables.exec]
  cases hT : T.createRequest d.id tenantID action requestedBy reason with
  | none => exact .refused h
  | some p =>
    obtain ⟨T', created⟩ := p
    obtain ⟨hok, hg, htenants, hrows⟩ := createRequest_ok h hT
    have happroved : ∀ r ∈ T'.requests, r.1.status = .approved → r ∈ T.requests := fun r hr hap =>
      (hrows r hr).resolve_right (by rw [hap]; decide)
    cases created with
    | true => exact .kept hok hg htenants happroved fun _ hn => nomatch hn
    | false =>
      refine .kept hok hg htenants happroved ?_
      rintro s' ⟨⟩
      trivial

theorem exec_approveGet (h : TablesOK T) (d : Draw) {id : UUID} :
    Executed T (T.exec E d (.approveGet id approvedBy)) := by
  simp only [Tables.exec]
  split
  · exact .refused h
  rename_i req hreq
  obtain ⟨r, hr, hval⟩ := getRequest_some hreq
  split
  · exact .refused h
  · refine .read h ?_
    rintro s' ⟨⟩
    exact ⟨r, hr, by rw [hval], by rw [hval], by rw [hval]⟩

theorem exec_rejectDecide (h : TablesOK T) (d : Draw) {id : UUID} :
    Executed T (T.exec E d (.rejectDecide id approvedBy)) := by
  simp only [Tables.exec]
  split
  swap
  · exact .refused h
  rename_i T' matched hT
  obtain ⟨hok, hg, htenants, hrows, -⟩ := decide_ok h hT
  refine .kept hok hg htenants (fun r hr hap => (hrows r hr).resolve_right fun hr => ?_) fun _ hn => nomatch hn
  rw [hap] at hr
  cases hr.2.1

theorem exec_suspend (h : TablesOK T) (d : Draw) {tenantID : UUID} {actor : String}
    (hproper : Proper T (.suspend tenantID actor)) :
    Executed T (T.exec E d (.suspend tenantID actor)) := by
  simp only [Tables.exec]
  cases hT : T.updateStatus tenantID .suspended actor with
  | none => exact .refused h
  | some T' =>
    obtain ⟨hdraft, hclosed⟩ := hproper
    have hopen : ∀ t, T.tenants tenantID = some t → t.environment = .live →
        TenantStatus.suspended = .active ∨ TenantStatus.suspended = .suspended →
          ActivationApplied T tenantID := by
      intro t ht hlive _
      refine h.opened tenantID t ht hlive ?_
      simp only [Tables.status, ht, Option.map_some, ne_eq, Option.some.injEq] at hdraft hclosed
      cases hst : t.status with
      | draft => exact absurd hst hdraft
      | active => exact .inl rfl
      | suspended => exact .inr rfl
      | closed => exact absurd hst hclosed
    obtain ⟨hok, hg, hstatus⟩ := updateStatus_ok h hopen hT
    refine ⟨hok, hg, (fun _ hn => nomatch hn), fun id hc => ?_, fun r hr _ => ?_⟩
    · show T'.status id = some .closed
      rw [hstatus]
      split
      · rename_i heq
        subst heq
        exact absurd hc hclosed
      · exact hc
    · unfold Tables.updateStatus at hT
      split at hT <;> cases hT
      exact .inl hr

theorem exec_keyCreate (h : TablesOK T) (d : Draw) {tenantID : UUID} {environment : Environment}
    {oldKeyID : Option UUID} :
    Executed T (T.exec E d (.keyCreate tenantID environment oldKeyID)) := by
  simp only [Tables.exec]
  generalize (⟨d.id, tenantID, _, _, environment, .active, none⟩ : APIKey) = key
  cases hT : T.createKey key with
  | none => exact .refused h
  | some T' =>
    unfold Tables.createKey at hT
    split at hT <;> cases hT
    refine .kept (h.of_eq rfl rfl rfl) (.of_eq rfl rfl) rfl (fun _ hr _ => hr) fun s' hs' => ?_
    obtain ⟨id, -, rfl⟩ := Option.map_eq_some_iff.1 hs'
    trivial

/-- **One statement**, of a session that is proper. -/
theorem exec_executed (h : TablesOK T) (d : Draw) (hs : SessionOK T s) (hproper : Proper T s) :
    Executed T (T.exec E d s) := by
  cases s with
  | create => exact exec_create h d
  | proposeCreate => exact exec_proposeCreate h d
  | approveGet => exact exec_approveGet h d
  | approveDecide => exact exec_decide h d hs
  | approveApply => exact (exec_apply h d hs hproper).1
  | rejectDecide => exact exec_rejectDecide h d
  | suspend => exact exec_suspend h d hproper
  | keyCreate => exact exec_keyCreate h d
  | keyRevoke tenantID id =>
    exact .kept (h.of_eq rfl rfl rfl) (.of_eq rfl rfl) rfl (fun _ hr _ => hr) fun _ hn => nomatch hn
  | proposePending | authTenant => exact .refused h
  | proposeTenant | keyTenant | keyList | rejectGet | authKey =>
    -- these only read, and the session they lead to has read nothing that must stay
    simp only [Tables.exec]
    repeat' split
    all_goals
      refine .read h ?_
      rintro s' ⟨⟩
    all_goals trivial

/-! ## Runs -/

/-- The session is about to record an approval: the request is still pending. -/
def Approving (T : Tables) : Session → Prop
  | .approveDecide req _ => ∃ r ∈ T.requests, r.1.id = req.id ∧ r.1.status = .pending
  | _ => False

/-- The session recorded an approval and is about to apply it. -/
def Applying : Session → Prop
  | .approveApply _ _ => True
  | _ => False

instance (T : Tables) (s : Session) : Decidable (Proper T s) := by
  unfold Proper
  split <;> infer_instance

instance (T : Tables) (s : Session) : Decidable (Approving T s) := by
  unfold Approving
  split <;> infer_instance

instance (s : Session) : Decidable (Applying s) := by
  unfold Applying
  split <;> infer_instance

/-- Statements are proper, and no session is lost between an approval and its application. -/
def Careful (w : World) : Event → Prop
  | .advance sid _ => ∀ s ∈ w.sessions sid, Proper w.tables s
  | .fault sid _ true => ∀ s ∈ w.sessions sid, Proper w.tables s ∧ ¬ Approving w.tables s
  | .fault sid _ false => ∀ s ∈ w.sessions sid, ¬ Applying s
  | .crash sid => ∀ s ∈ w.sessions sid, ¬ Applying s
  | _ => True

instance (w : World) (e : Event) : Decidable (Careful w e) := by
  unfold Careful
  split <;> infer_instance

/-- The approval of the request is being applied. -/
def InProgress (w : World) (id : UUID) : Prop :=
  ∃ sid req approvedBy, w.sessions sid = some (.approveApply req approvedBy) ∧ req.id = id

structure WorldOK (w : World) : Prop where
  tables : TablesOK w.tables
  sessions : ∀ sid s, w.sessions sid = some s → SessionOK w.tables s
  approved : ∀ r ∈ w.tables.requests, r.1.status = .approved → r.1.id ∈ w.tables.applied ∨ InProgress w r.1.id

theorem idle_ok (now : ℕ) : WorldOK (.idle now) :=
  ⟨empty_ok now, (fun _ _ hs => nomatch hs), (fun _ hr => nomatch hr)⟩

/-- The only statement behind which an approval is applied is the one that records it. -/
theorem exec_applying (h : TablesOK T) {d : Draw}
    (hnext : (T.exec E d s).2 = some (.approveApply req approvedBy)) : Approving T s := by
  cases s with
  | approveDecide req₀ approvedBy₀ =>
    simp only [Tables.exec] at hnext
    split at hnext
    swap
    · cases hnext
    rename_i T' hT
    obtain ⟨-, -, -, -, hmatched⟩ := decide_ok h hT
    obtain ⟨r, hr, hid, hpending, -⟩ := hmatched rfl
    exact ⟨r, hr, hid, hpending⟩
  | keyCreate =>
    simp only [Tables.exec] at hnext
    split at hnext
    · cases hnext
    · obtain ⟨id, -, hrevoke⟩ := Option.map_eq_some_iff.1 hnext
      cases hrevoke
  | _ =>
    simp only [Tables.exec] at hnext
    repeat' split at hnext
    all_goals cases hnext

/-- A session that ends while it is not applying an approval. -/
theorem WorldOK.drop (h : WorldOK w) (hs : ∀ s ∈ w.sessions sid, ¬ Applying s) :
    WorldOK (w.set sid none) := by
  refine ⟨h.tables, fun sid' s hs' => ?_, fun r hr hap => ?_⟩
  · simp only [World.set, Function.update_apply] at hs'
    split at hs'
    · cases hs'
    · exact h.sessions sid' s hs'
  · rcases h.approved r hr hap with happlied | ⟨sid', req, approvedBy, hsid, hid⟩
    · exact .inl happlied
    · refine .inr ⟨sid', req, approvedBy, ?_, hid⟩
      have hne : sid' ≠ sid := by
        rintro rfl
        exact hs _ hsid trivial
      simp only [World.set, Function.update_apply, if_neg hne, hsid]

/-- A session that takes a statement. `next'` is what the caller sees of how it goes on. -/
theorem WorldOK.executed (h : WorldOK w) (hsid : w.sessions sid = some s)
    {next' : Option Session} (hx : Executed w.tables (T', next))
    (happlies : ∀ req approvedBy, s = .approveApply req approvedBy → req.id ∈ T'.applied)
    (hnext : next' = next ∨ next' = none ∧ ∀ req approvedBy, next ≠ some (.approveApply req approvedBy)) :
    WorldOK { w.set sid next' with tables := T' } := by
  refine ⟨hx.ok, fun sid' s' hs' => ?_, fun r hr hap => ?_⟩
  · simp only [World.set, Function.update_apply] at hs'
    split at hs'
    · rcases hnext with rfl | ⟨rfl, -⟩
      · exact hx.session s' hs'
      · cases hs'
    · exact (h.sessions sid' s' hs').grows hx.grows
  · rcases hx.approved r hr hap with hold | ⟨req, approvedBy, hreq, hid⟩
    · rcases h.approved r hold hap with happlied | ⟨sid', req, approvedBy, hsid', hid⟩
      · exact .inl (hx.grows.applied happlied)
      by_cases hsame : sid' = sid
      · -- the session that was applying it has applied it
        subst hsame
        rw [hsid] at hsid'
        cases hsid'
        exact .inl (hid ▸ happlies req approvedBy rfl)
      · refine .inr ⟨sid', req, approvedBy, ?_, hid⟩
        simp only [World.set, Function.update_apply, if_neg hsame, hsid']
    · rcases hnext with rfl | ⟨-, hne⟩
      · refine .inr ⟨sid, req, approvedBy, ?_, hid⟩
        simp only [World.set, Function.update_self]
        exact hreq
      · exact absurd hreq (hne req approvedBy)

theorem Call.session_ok (T : Tables) {c : Call} (h : c.session = some s) : SessionOK T s := by
  cases c <;> simp only [Call.session] at h <;> split at h <;> cases h <;> trivial

/-- **One step** of a careful run. -/
theorem step_ok (e : Event) (h : WorldOK w) (hc : Careful w e) : WorldOK (w.step E e) := by
  cases e with
  | start sid c =>
    simp only [World.step]
    split
    · rename_i hnone
      refine ⟨h.tables, fun sid' s hs' => ?_, fun r hr hap => ?_⟩
      · simp only [World.set, Function.update_apply] at hs'
        split at hs'
        · exact Call.session_ok _ hs'
        · exact h.sessions sid' s hs'
      · refine (h.approved r hr hap).imp_right ?_
        rintro ⟨sid', req, approvedBy, hsid, hid⟩
        have hne : sid' ≠ sid := by
          rintro rfl
          rw [hnone] at hsid
          cases hsid
        refine ⟨sid', req, approvedBy, ?_, hid⟩
        simp only [World.set, Function.update_apply, if_neg hne, hsid]
    · exact h
  | advance sid d =>
    simp only [World.step]
    split
    · exact h
    · rename_i s hs
      have hok := h.sessions sid s hs
      refine h.executed hs (exec_executed h.tables d hok (hc s hs)) ?_ (.inl rfl)
      rintro req approvedBy rfl
      exact (exec_apply h.tables d hok (hc _ hs)).2
  | fault sid d took =>
    simp only [World.step]
    split
    · exact h
    rename_i s hs
    cases took with
    | true =>
      obtain ⟨hproper, happroving⟩ := hc s hs
      have hok := h.sessions sid s hs
      refine h.executed hs (exec_executed h.tables d hok hproper) ?_ (.inr ⟨rfl, ?_⟩)
      · rintro req approvedBy rfl
        exact (exec_apply h.tables d hok hproper).2
      · intro req approvedBy hnext
        exact happroving (exec_applying h.tables hnext)
    | false => exact h.drop hc
  | crash sid => exact h.drop hc
  | tick d =>
    exact ⟨h.tables.of_eq rfl rfl rfl, fun sid s hs => (h.sessions sid s hs).grows (.of_eq rfl rfl), h.approved⟩

theorem step_closed (e : Event) (h : WorldOK w) (hc : Careful w e) {id : UUID}
    (hclosed : w.tables.status id = some .closed) : (w.step E e).tables.status id = some .closed := by
  cases e with
  | start sid c =>
    simp only [World.step]
    split <;> exact hclosed
  | advance sid d =>
    simp only [World.step]
    split
    · exact hclosed
    · rename_i s hs
      exact (exec_executed h.tables d (h.sessions sid s hs) (hc s hs)).closed id hclosed
  | fault sid d took =>
    simp only [World.step]
    split
    · exact hclosed
    rename_i s hs
    cases took with
    | true => exact (exec_executed h.tables d (h.sessions sid s hs) (hc s hs).1).closed id hclosed
    | false => exact hclosed
  | crash | tick => exact hclosed

/-- The tenant of a principal. -/
theorem admitted_tenant {e : Event} {p : Principal} (hp : w.admitted e = some p) :
    ∃ t, w.tables.tenants p.tenantID = some t ∧ t.environment = p.environment ∧
      (t.status = .active ∨ t.status = .suspended) := by
  unfold World.admitted at hp
  split at hp
  swap
  · cases hp
  split at hp
  swap
  · cases hp
  rename_i key _
  unfold principal at hp
  split at hp
  · cases hp
  rename_i t ht
  split at hp
  · cases hp
  rename_i henv
  split at hp
  · cases hp
  rename_i hst
  cases hp
  refine ⟨t, ht, ?_, ?_⟩
  · exact (not_not.1 henv).symm
  · by_contra hnot
    push Not at hnot
    exact hst hnot

/-- What a step must respect. -/
structure Lawful (E : Env) (w : World) (e : Event) : Prop where
  /-- two people opened a live tenant that authenticates -/
  opened : ∀ p, w.admitted e = some p → p.environment = .live → ActivationApplied w.tables p.tenantID
  /-- a closed tenant does not authenticate -/
  shut : ∀ p, w.admitted e = some p → w.tables.status p.tenantID ≠ some .closed
  /-- a closed tenant stays closed -/
  final : ∀ id, w.tables.status id = some .closed → (w.step E e).tables.status id = some .closed

/-- **Two people open a merchant, and closing is final**, in every run whose steps are careful:
every step is lawful, and every request recorded as approved is applied or being applied. -/
theorem two_people_open (E : Env) (now : ℕ) (es : List Event)
    (hes : Along (World.step E) Careful (.idle now) es) :
    Along (World.step E) (Lawful E) (.idle now) es ∧
      ∀ r ∈ (run (World.step E) (.idle now) es).tables.requests, r.1.status = .approved →
        r.1.id ∈ (run (World.step E) (.idle now) es).tables.applied ∨
          InProgress (run (World.step E) (.idle now) es) r.1.id := by
  have hstep : ∀ w e, WorldOK w → Careful w e → WorldOK (w.step E e) := fun w e h hc => step_ok e h hc
  refine ⟨Along.of_inv hstep (fun w e h hc => ⟨?_, ?_, fun id => step_closed e h hc⟩) (idle_ok now) hes,
    (run_inv_of_along hstep (idle_ok now) hes).approved⟩
  · intro p hp hlive
    obtain ⟨t, ht, henv, hst⟩ := admitted_tenant hp
    exact h.tables.opened p.tenantID t ht (henv.trans hlive) hst
  · intro p hp hclosed
    obtain ⟨t, ht, -, hst⟩ := admitted_tenant hp
    simp only [Tables.status, ht, Option.map_some, Option.some.injEq] at hclosed
    rw [hclosed] at hst
    rcases hst with hst | hst <;> cases hst

instance (T : Tables) (id : UUID) : Decidable (ActivationApplied T id) :=
  inferInstanceAs (Decidable (∃ r ∈ T.requests, _ ∧ _ ∧ _ ∧ (∃ actor ∈ r.1.approvedBy, _) ∧ _))

/-! ## Runs that show it, and runs without it -/

namespace Sample

def env : Env := ⟨String.ofList⟩

def maker : Claims := ⟨.adminMaker, "maker", ""⟩

def checker : Claims := ⟨.adminChecker, "checker", ""⟩

def draw (id : UUID) : Draw := ⟨id, List.replicate encodedPrefixLen 'a', ['s']⟩

/-- A live tenant, and a key of it. -/
def created : List Event :=
  [.start 0 (.create maker .live), .advance 0 (draw 1), .start 1 (.createKey maker 1 .live), .advance 1 (draw 2),
    .advance 1 (draw 2), .advance 1 (draw 2)]

def proposed (id : UUID) (action : Action) : List Event :=
  [.start 0 (.propose maker 1 action "requested"), .advance 0 (draw id), .advance 0 (draw id)]

def decided (id : UUID) : List Event :=
  [.start 0 (.approve checker id), .advance 0 (draw 0), .advance 0 (draw 0)]

def applied : List Event := [.advance 0 (draw 0)]

def suspended : List Event := [.start 0 (.suspend maker 1), .advance 0 (draw 0)]

/-- A request with the key, up to the statement that admits it. -/
def requested : List Event :=
  [.start 0 (.request (generateKey .live (draw 2).encoded (draw 2).secret).1), .advance 0 (draw 0)]

/-- A tenant that two people open, a request of it, and its suspension and closing. -/
def lifetime : List Event :=
  created ++ proposed 3 .activate ++ decided 3 ++ applied ++ requested ++ [.advance 0 (draw 0)] ++ suspended ++
    proposed 4 .close ++ decided 4 ++ applied

def after (es : List Event) : World := run (World.step env) (.idle 0) es

theorem lifetime_careful : Along (World.step env) Careful (.idle 0) lifetime := by
  decide +kernel

end Sample

open Sample in
set_option maxRecDepth 20000 in
theorem two_people_open_closed : (after lifetime).tables.status 1 = some .closed ∧
    Along (World.step env) (Lawful env) (.idle 0) lifetime ∧
    ∀ r ∈ (after lifetime).tables.requests, r.1.status = .approved →
      r.1.id ∈ (after lifetime).tables.applied ∨ InProgress (after lifetime) r.1.id :=
  ⟨by decide +kernel, two_people_open env 0 lifetime lifetime_careful⟩

/-- The session an event is about. -/
def Event.session : Event → Option SessionID
  | start sid _ | advance sid _ | fault sid _ _ | crash sid => some sid
  | tick _ => none

theorem step_sessions_of_ne {e : Event} (h : e.session ≠ some sid) :
    (w.step E e).sessions sid = w.sessions sid := by
  cases e with
  | tick d => rfl
  | crash sid' =>
    have hne : sid ≠ sid' := fun heq => h (congrArg some heq.symm)
    exact Function.update_of_ne hne ..
  | start sid' c | advance sid' d | fault sid' d took =>
    have hne : sid ≠ sid' := fun heq => h (congrArg some heq.symm)
    simp only [World.step]
    split
    · first | rfl | exact Function.update_of_ne hne ..
    · first | rfl | exact Function.update_of_ne hne ..

theorem run_sessions_of_ne {es : List Event} (h : ∀ e ∈ es, e.session ≠ some sid) :
    (run (World.step E) w es).sessions sid = w.sessions sid := by
  induction es generalizing w with
  | nil => rfl
  | cons e es ih =>
    rw [run_cons, ih fun e' he' => h e' (List.mem_cons_of_mem _ he')]
    exact step_sessions_of_ne (h e List.mem_cons_self)

open Sample in
set_option maxRecDepth 20000 in
/-- **Three ways around it.** A draft is suspended, and its key authenticates although no
activation was ever requested. An activation that was pending when the tenant was closed is
approved, and the key of the tenant authenticates again. A crash between the approval and its
application leaves a request that is approved and that nobody applies. -/
theorem suspended_reopened_lost :
    (∃ es e p, (after es).admitted e = some p ∧ p.environment = .live ∧
      ¬ ActivationApplied (after es).tables p.tenantID) ∧
    (∃ es es' e p, (after es).tables.status p.tenantID = some .closed ∧ (after (es ++ es')).admitted e = some p) ∧
    ∃ es, (∀ sid, (after es).sessions sid = none) ∧
      ∃ r ∈ (after es).tables.requests, r.1.status = .approved ∧ r.1.id ∉ (after es).tables.applied := by
  refine ⟨⟨created ++ suspended ++ requested, .advance 0 (draw 0), ⟨1, 2, .live, true⟩, ?_⟩,
    ⟨created ++ proposed 3 .activate ++ proposed 4 .close ++ decided 4 ++ applied,
      decided 3 ++ applied ++ requested, .advance 0 (draw 0), ⟨1, 2, .live, false⟩, ?_⟩,
    created ++ proposed 3 .activate ++ decided 3 ++ [.crash 0], fun sid => ?_, ?_⟩
  · decide +kernel
  · decide +kernel
  · by_cases h : sid = 0 ∨ sid = 1
    · rcases h with rfl | rfl <;> decide +kernel
    · refine run_sessions_of_ne fun e he heq => h ?_
      have hall : ∀ e ∈ created ++ proposed 3 .activate ++ decided 3 ++ [Event.crash 0],
          e.session = some 0 ∨ e.session = some 1 := by decide +kernel
      rcases hall e he with h0 | h1
      · exact .inl (Option.some.inj (heq.symm.trans h0))
      · exact .inr (Option.some.inj (heq.symm.trans h1))
  · decide +kernel

end Seev.Gateway
