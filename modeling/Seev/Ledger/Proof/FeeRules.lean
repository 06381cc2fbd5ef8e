import Seev.Ledger.FeeRules
import Seev.Lib.Rows

/-!
# The price in force

Two approvals of one rule are kept apart only by the trigger, and the trigger looks at one scope. So the price
in force is the one approved version as long as the approvals of a rule that are open at the same time are for
one scope.

* `Consistent`: the tables, with one approved version for each rule and each scope.
* `Holds`: what an open approval knows, by the statement it is at.
* `Holds.frame`: it is kept while others go on.
* `in_force_of_calm`: the property of every run in which no approval starts beside one of the same rule and
  another scope.
* `approved_twice`: two approvals of one rule for two scopes.
-/

namespace Seev.Ledger.FeeRules

open Lib

variable {E : Env} {w w' : World} {sid sid' : SessionID} {t t' : Approval} {u v : Version}
  {versions : List Version}
  {rules : List Rule} {keys : List LockKey} {result : Version}

/-- **The price in force is the one approved version.** -/
structure InForce (versions : List Version) (rules : List Rule) : Prop where
  one : ∀ u ∈ versions, ∀ v ∈ versions, u.status = .approved → v.status = .approved → u.ruleID = v.ruleID → u = v
  checked : ∀ v ∈ versions, v.status = .approved → ∃ checker, v.approvedBy = some checker ∧ checker ≠ v.createdBy
  row : ∀ v ∈ versions, v.status = .approved → v.rule ∈ rules ∧ ∀ r ∈ rules, r.id = v.ruleID → r = v.rule
  scopes : ∀ r ∈ rules, ∀ r' ∈ rules, r.scope = r'.scope → r = r'

/-- The tables as the migration leaves them and the calls keep them. -/
structure Consistent (versions : List Version) (rules : List Rule) : Prop where
  ids : (versions.map Version.id).Nodup
  ends : ∀ v ∈ versions, v.status ≠ .retired → v.effectiveUntil = none
  checked : ∀ v ∈ versions, v.status = .approved → ∃ checker, v.approvedBy = some checker ∧ checker ≠ v.createdBy
  rule : ∀ u ∈ versions, ∀ v ∈ versions, u.status = .approved → v.status = .approved → u.ruleID = v.ruleID → u = v
  scope : ∀ u ∈ versions, ∀ v ∈ versions, u.status = .approved → v.status = .approved → u.scope = v.scope → u = v
  priced : ∀ v ∈ versions, v.status = .approved → v.rule ∈ rules
  approved : ∀ r ∈ rules, ∃ v ∈ versions, v.status = .approved ∧ r = v.rule

theorem Consistent.inForce (h : Consistent versions rules) : InForce versions rules where
  one := h.rule
  checked := h.checked
  row v hv ha := by
    refine ⟨h.priced v hv ha, fun r hr hid => ?_⟩
    obtain ⟨u, hu, hua, rfl⟩ := h.approved r hr
    rw [h.rule u hu v hv hua ha hid]
  scopes r hr r' hr' hs := by
    obtain ⟨u, hu, hua, rfl⟩ := h.approved r hr
    obtain ⟨v, hv, hva, rfl⟩ := h.approved r' hr'
    rw [h.scope u hu v hv hua hva hs]

/-- The tables after a change that leaves the approved versions as they are. -/
theorem Consistent.of_approved {versions' : List Version} (h : Consistent versions rules)
    (hids : (versions'.map Version.id).Nodup)
    (hends : ∀ v ∈ versions', v.status ≠ .retired → v.effectiveUntil = none)
    (hsame : ∀ v, v.status = .approved → (v ∈ versions' ↔ v ∈ versions)) : Consistent versions' rules where
  ids := hids
  ends := hends
  checked v hv ha := h.checked v ((hsame v ha).1 hv) ha
  rule u hu v hv hua hva := h.rule u ((hsame u hua).1 hu) v ((hsame v hva).1 hv) hua hva
  scope u hu v hv hua hva := h.scope u ((hsame u hua).1 hu) v ((hsame v hva).1 hv) hua hva
  priced v hv ha := h.priced v ((hsame v ha).1 hv) ha
  approved r hr := by
    obtain ⟨v, hv, ha, hrule⟩ := h.approved r hr
    exact ⟨v, (hsame v ha).2 hv, ha, hrule⟩

/-! ## An open approval -/

/-- Every approved version of the rule is still to be retired, retired, or in the scope the trigger looks at. -/
def Covered (w : World) (t : Approval) (targets : List UUID) : Prop :=
  ∀ v ∈ w.versions, v.status = .approved → v.ruleID = t.row.ruleID →
    v.id ∈ targets ∨ v.id ∈ t.retired ∨ v.scope = t.row.scope

/-- The trigger let it pass: whatever is approved of its rule or in its scope is retired by it. -/
structure Approves (E : Env) (w : World) (sid : SessionID) (t : Approval) (result : Version) : Prop where
  result : result = { t.row with status := .approved, approvedBy := some t.checker }
  checker : t.row.createdBy ≠ t.checker
  lock : w.locks (E.activation t.row.scope) = some sid
  retired : ∀ v ∈ w.versions, v.status = .approved → v.ruleID = t.row.ruleID ∨ v.scope = t.row.scope →
    v.id ∈ t.retired

def AtPhase (E : Env) (w : World) (sid : SessionID) (t : Approval) : Phase → Prop
  | .retire => True
  | .retiring targets => Covered w t targets
  | .approve => Covered w t []
  | .upsert result => Approves E w sid t result
  | .commit result => Approves E w sid t result

/-- **What an open approval knows.** -/
structure Holds (E : Env) (w : World) (sid : SessionID) (t : Approval) : Prop where
  row : t.row ∈ w.versions
  submitted : t.row.status = .submitted
  lock : w.locks (.version t.row.id) = some sid
  retired : ∀ id ∈ t.retired, w.locks (.version id) = some sid ∧
    ∃ v ∈ w.versions, v.id = id ∧ v.status = .approved ∧ v.ruleID = t.row.ruleID
  phase : AtPhase E w sid t t.phase

structure Good (E : Env) (w : World) : Prop where
  tables : Consistent w.versions w.rules
  approvals : ∀ sid t, w.approvals sid = some t → Holds E w sid t
  /-- the open approvals of one rule are for one scope -/
  pair : ∀ sid t sid' t', w.approvals sid = some t → w.approvals sid' = some t' → t.row.ruleID = t'.row.ruleID →
    t.row.scope = t'.row.scope

/-! ## Others -/

/-- What may happen around `sid`: its locks stay, the rows behind them too, and what is approved was approved by a
commit. -/
structure Frame (sid : SessionID) (w w' : World) : Prop where
  locks : ∀ k, w.locks k = some sid → w'.locks k = some sid
  rows : ∀ v ∈ w.versions, v.status ≠ .draft → w.locks (.version v.id) = some sid → v ∈ w'.versions
  approved : ∀ v ∈ w'.versions, v.status = .approved → v ∈ w.versions ∨
    ∃ sid' t', sid' ≠ sid ∧ w.approvals sid' = some t' ∧ t'.phase = .commit v

/-- A version another approval commits is for another rule and another scope, once this one is past the
trigger. -/
theorem Approves.disjoint {r r' : Version} (hgood : Good E w) (hs : w.approvals sid = some t)
    (hs' : w.approvals sid' = some t') (hne : sid' ≠ sid) (h : Approves E w sid t r)
    (h' : Approves E w sid' t' r') :
    r'.ruleID ≠ t.row.ruleID ∧ r'.scope ≠ t.row.scope := by
  have hscope : t'.row.scope ≠ t.row.scope := by
    intro heq
    have hlock := h'.lock
    rw [heq] at hlock
    exact hne (Locks.holder_unique hlock h.lock)
  rw [h'.result]
  exact ⟨fun hrule => hscope (hgood.pair sid' t' sid t hs' hs hrule), hscope⟩

/-- **An approval keeps what it knows while others go on.** -/
theorem Holds.frame (hgood : Good E w) (hs : w.approvals sid = some t) (hf : Frame sid w w') :
    Holds E w' sid t := by
  have h := hgood.approvals sid t hs
  have hkept : ∀ v ∈ w'.versions, v.status = .approved → v ∈ w.versions ∨
      ∃ sid' t', sid' ≠ sid ∧ w.approvals sid' = some t' ∧ Approves E w sid' t' v := by
    intro v hv ha
    refine (hf.approved v hv ha).imp_right ?_
    rintro ⟨sid', t', hne, hs', hp⟩
    have hphase := (hgood.approvals sid' t' hs').phase
    rw [hp] at hphase
    exact ⟨sid', t', hne, hs', hphase⟩
  have hcovered : ∀ targets, Covered w t targets → Covered w' t targets := by
    intro targets hc v hv ha hrule
    rcases hkept v hv ha with hold | ⟨sid', t', -, hs', happ⟩
    · exact hc v hold ha hrule
    · rw [happ.result] at hrule ⊢
      exact .inr (.inr (hgood.pair sid' t' sid t hs' hs hrule))
  have happroves : ∀ result, Approves E w sid t result → Approves E w' sid t result := by
    intro result ha
    refine ⟨ha.result, ha.checker, hf.locks _ ha.lock, fun v hv hva hsame => ?_⟩
    rcases hkept v hv hva with hold | ⟨sid', t', hne, hs', happ⟩
    · exact ha.retired v hold hva hsame
    · have hdisj := ha.disjoint hgood hs hs' hne happ
      exact absurd hsame (not_or.2 hdisj)
  refine ⟨hf.rows _ h.row (by rw [h.submitted]; decide) h.lock, h.submitted, hf.locks _ h.lock, fun id hid => ?_,
    ?_⟩
  · obtain ⟨hlock, v, hv, rfl, ha, hrule⟩ := h.retired id hid
    exact ⟨hf.locks _ hlock, v, hf.rows v hv (by rw [ha]; decide) hlock, rfl, ha, hrule⟩
  · have hphase := h.phase
    cases hp : t.phase with
    | retire => trivial
    | retiring targets => rw [hp] at hphase; exact hcovered targets hphase
    | approve => rw [hp] at hphase; exact hcovered [] hphase
    | upsert result => rw [hp] at hphase; exact happroves result hphase
    | commit result => rw [hp] at hphase; exact happroves result hphase

theorem frame_hold (hne : sid' ≠ sid) (hfree : ∀ k ∈ keys, w.locks.available sid k = true) :
    Frame sid' w (w.hold sid keys t) where
  locks _ hk := Locks.acquire_other hfree hne hk
  rows _ hv _ _ := hv
  approved _ hv _ := .inl hv

theorem frame_own : Frame sid w (w.hold sid keys t) where
  locks _ hk := Locks.acquire_own hk
  rows _ hv _ _ := hv
  approved _ hv _ := .inl hv

theorem frame_end (hne : sid' ≠ sid) : Frame sid' w (w.endApproval sid) where
  locks _ hk := Locks.release_other hne hk
  rows _ hv _ _ := hv
  approved _ hv _ := .inl hv

/-! ## Statements of an approval -/

/-- A statement that leaves the tables, of an approval that starts or goes on. -/
theorem Good.hold (h : Good E w) (hfree : ∀ k ∈ keys, w.locks.available sid k = true)
    (hown : Holds E (w.hold sid keys t) sid t)
    (hpair : ∀ sid' t', sid' ≠ sid → w.approvals sid' = some t' → t'.row.ruleID = t.row.ruleID →
      t'.row.scope = t.row.scope) : Good E (w.hold sid keys t) := by
  have hcases : ∀ {sid' t'}, (w.hold sid keys t).approvals sid' = some t' →
      (sid' = sid ∧ t' = t) ∨ (sid' ≠ sid ∧ w.approvals sid' = some t') := by
    intro sid' t' hs
    by_cases hne : sid' = sid
    · subst hne
      exact .inl ⟨rfl, by simpa [World.hold] using hs.symm⟩
    · exact .inr ⟨hne, by simpa [World.hold, Function.update_of_ne hne] using hs⟩
  refine ⟨h.tables, fun sid' t' hs => ?_, fun sid₁ t₁ sid₂ t₂ hs₁ hs₂ hrule => ?_⟩
  · rcases hcases hs with ⟨rfl, rfl⟩ | ⟨hne, hs⟩
    · exact hown
    · exact .frame h hs (frame_hold hne hfree)
  · rcases hcases hs₁ with ⟨-, rfl⟩ | ⟨hne₁, hopen₁⟩
    · rcases hcases hs₂ with ⟨-, rfl⟩ | ⟨hne₂, hopen₂⟩
      · rfl
      · exact (hpair sid₂ t₂ hne₂ hopen₂ hrule.symm).symm
    · rcases hcases hs₂ with ⟨-, rfl⟩ | ⟨-, hopen₂⟩
      · exact hpair sid₁ t₁ hne₁ hopen₁ hrule
      · exact h.pair sid₁ t₁ sid₂ t₂ hopen₁ hopen₂ hrule

theorem end_approvals (hs : (w.endApproval sid).approvals sid' = some t) :
    sid' ≠ sid ∧ w.approvals sid' = some t := by
  have hne : sid' ≠ sid := fun heq => by simp [World.endApproval, heq] at hs
  exact ⟨hne, by simpa [World.endApproval, Function.update_of_ne hne] using hs⟩

theorem Good.endApproval (h : Good E w) (sid : SessionID) : Good E (w.endApproval sid) where
  tables := h.tables
  approvals _ _ hs := .frame h (end_approvals hs).2 (frame_end (end_approvals hs).1)
  pair _ _ _ _ hs hs' := h.pair _ _ _ _ (end_approvals hs).2 (end_approvals hs').2

/-- An approval that goes on. -/
theorem Good.next (h : Good E w) (hs : w.approvals sid = some t)
    (hfree : ∀ k ∈ keys, w.locks.available sid k = true) (hrow : t'.row = t.row)
    (hown : Holds E (w.hold sid keys t') sid t') : Good E (w.hold sid keys t') :=
  h.hold hfree hown fun sid₂ t₂ _ hs₂ hrule => by
    rw [hrow] at hrule ⊢
    exact h.pair sid₂ t₂ sid t hs₂ hs hrule

/-! ## The rows of a commit -/

/-- A row after the commit. -/
def Approval.write (t : Approval) (result v : Version) : Version :=
  if v.id = t.row.id then result
  else if v.id ∈ t.retired then { v with status := .retired, effectiveUntil := some t.now }
  else v

theorem write_cases (t : Approval) (result v : Version) : (v.id = t.row.id ∧ t.write result v = result) ∨
    (v.id ≠ t.row.id ∧ v.id ∈ t.retired ∧
      t.write result v = { v with status := .retired, effectiveUntil := some t.now }) ∨
    (v.id ≠ t.row.id ∧ v.id ∉ t.retired ∧ t.write result v = v) := by
  unfold Approval.write
  by_cases hrow : v.id = t.row.id
  · exact .inl ⟨hrow, if_pos hrow⟩
  · by_cases hret : v.id ∈ t.retired
    · exact .inr (.inl ⟨hrow, hret, by rw [if_neg hrow, if_pos hret]⟩)
    · exact .inr (.inr ⟨hrow, hret, by rw [if_neg hrow, if_neg hret]⟩)

theorem mem_upsert {r x : Rule} : x ∈ World.upsert rules r ↔ x = r ∨ (x ∈ rules ∧ x.id ≠ r.id) := by
  unfold World.upsert
  split
  · rename_i hany
    obtain ⟨y, hy, hid⟩ := List.any_eq_true.1 hany
    have hid : y.id = r.id := by simpa using hid
    rw [List.mem_map]
    constructor
    · rintro ⟨z, hz, rfl⟩
      split
      · exact .inl rfl
      · exact .inr ⟨hz, ‹_›⟩
    · rintro (rfl | ⟨hx, hne⟩)
      · exact ⟨y, hy, if_pos hid⟩
      · exact ⟨x, hx, if_neg hne⟩
  · rename_i hany
    have hall : ∀ y ∈ rules, y.id ≠ r.id := by simpa using hany
    rw [List.mem_append, List.mem_singleton, or_comm]
    exact or_congr_right ⟨fun hx => ⟨hx, hall x hx⟩, And.left⟩

/-! ## What an open approval knows -/

section Open

variable (h : Holds E w sid t) (htables : Consistent w.versions w.rules)

include h htables

/-- Its own row is not approved. -/
theorem Holds.id_ne (hv : v ∈ w.versions) (ha : v.status = .approved) : v.id ≠ t.row.id := by
  intro hid
  have heq := eq_of_id htables.ids hv h.row hid
  rw [heq, h.submitted] at ha
  cases ha

theorem covered_targets :
    Covered w t ((w.versions.filter t.Retires).map Version.id) := by
  intro v hv ha hrule
  have hends : v.effectiveUntil = none := htables.ends v hv (by rw [ha]; decide)
  have hretires : t.Retires v := ⟨hrule, ha, h.id_ne htables hv ha, hends⟩
  exact .inl (List.mem_map_of_mem (List.mem_filter.2 ⟨hv, by simpa using hretires⟩))

/-- The row was changed before it could be retired. -/
theorem covered_skip {id : UUID} {ids : List UUID} (hc : Covered w t (id :: ids))
    (hnone : w.versions.find? (fun v => v.id = id ∧ t.Retires v) = none) :
    Covered w t ids := by
  intro v hv ha hrule
  rcases hc v hv ha hrule with hmem | hrest
  · rcases List.mem_cons.1 hmem with rfl | hmem
    · have hends : v.effectiveUntil = none := htables.ends v hv (by rw [ha]; decide)
      have hretires : t.Retires v := ⟨hrule, ha, h.id_ne htables hv ha, hends⟩
      exact absurd (List.find?_eq_none.1 hnone v hv) (by simpa using hretires)
    · exact .inl hmem
  · exact .inr hrest

/-- What the trigger lets pass. -/
theorem approves_of_trigger (hc : Covered w t [])
    (hany : w.versions.any (fun u => u.id ∉ t.retired ∧ u.status = .approved ∧ u.id ≠ t.row.id ∧
      u.scope = t.row.scope ∧ u.Overlaps t.row) = false) :
    ∀ v ∈ w.versions, v.status = .approved → v.ruleID = t.row.ruleID ∨ v.scope = t.row.scope →
      v.id ∈ t.retired := by
  have hscope : ∀ v ∈ w.versions, v.status = .approved → v.scope = t.row.scope → v.id ∈ t.retired := by
    intro v hv ha hs
    have hends : v.effectiveUntil = none := htables.ends v hv (by rw [ha]; decide)
    have hrow : t.row.effectiveUntil = none := htables.ends _ h.row (by rw [h.submitted]; decide)
    have hoverlaps : v.Overlaps t.row := by simp [Version.Overlaps, hends, hrow]
    by_contra hnot
    have htrue : w.versions.any (fun u => u.id ∉ t.retired ∧ u.status = .approved ∧ u.id ≠ t.row.id ∧
        u.scope = t.row.scope ∧ u.Overlaps t.row) = true :=
      List.any_eq_true.2 ⟨v, hv, by simpa using ⟨hnot, ha, h.id_ne htables hv ha, hs, hoverlaps⟩⟩
    rw [hany] at htrue
    cases htrue
  intro v hv ha hsame
  rcases hsame with hrule | hs
  · rcases hc v hv ha hrule with hmem | hret | hs
    · cases hmem
    · exact hret
    · exact hscope v hv ha hs
  · exact hscope v hv ha hs

/-! ## The commit -/

/-- A version an approval has retired is of its rule. -/
theorem Holds.rule_of_retired (hv : v ∈ w.versions) (hret : v.id ∈ t.retired) : v.ruleID = t.row.ruleID := by
  obtain ⟨-, u, hu, hid, -, hrule⟩ := h.retired v.id hret
  rwa [eq_of_id htables.ids hu hv hid] at hrule

/-- What is approved after the commit. -/
theorem mem_commit (ha : Approves E w sid t result) (hva : v.status = .approved) :
    v ∈ (w.commit sid t result).versions ↔ v = result ∨ (v ∈ w.versions ∧ v.ruleID ≠ t.row.ruleID) := by
  change v ∈ w.versions.map (t.write result) ↔ _
  rw [List.mem_map]
  constructor
  · rintro ⟨x, hx, rfl⟩
    rcases write_cases t result x with ⟨-, heq⟩ | ⟨-, -, heq⟩ | ⟨-, hret, heq⟩
    · exact .inl heq
    · rw [heq] at hva
      cases hva
    · rw [heq] at hva ⊢
      exact .inr ⟨hx, fun hrule => hret (ha.retired x hx hva (.inl hrule))⟩
  · rintro (rfl | ⟨hv, hrule⟩)
    · exact ⟨t.row, h.row, if_pos rfl⟩
    · refine ⟨v, hv, ?_⟩
      rcases write_cases t result v with ⟨hid, -⟩ | ⟨-, hret, -⟩ | ⟨-, -, heq⟩
      · exact absurd hid (h.id_ne htables hv hva)
      · exact absurd (h.rule_of_retired htables hv hret) hrule
      · exact heq

theorem commit_tables (ha : Approves E w sid t result) :
    Consistent (w.commit sid t result).versions (w.commit sid t result).rules := by
  have hmem : ∀ v, v.status = .approved → v ∈ (w.commit sid t result).versions →
      v = result ∨ (v ∈ w.versions ∧ v.ruleID ≠ t.row.ruleID ∧ v.scope ≠ t.row.scope) := by
    intro v hva hv
    refine ((mem_commit h htables ha hva).1 hv).imp_right fun hold => ⟨hold.1, hold.2, fun hs => ?_⟩
    exact hold.2 (h.rule_of_retired htables hold.1 (ha.retired v hold.1 hva (.inr hs)))
  have hid : result.id = t.row.id ∧ result.ruleID = t.row.ruleID ∧ result.scope = t.row.scope ∧
      result.status = .approved ∧ result.approvedBy = some t.checker ∧ result.createdBy = t.row.createdBy ∧
        result.effectiveUntil = t.row.effectiveUntil := by
    rw [ha.result]
    exact ⟨rfl, rfl, rfl, rfl, rfl, rfl, rfl⟩
  obtain ⟨hid, hrule, hscope, hstatus, happroved, hcreated, huntil⟩ := hid
  refine ⟨?_, fun v hv hst => ?_, fun v hv hva => ?_, fun u hu v hv hua hva hsame => ?_,
    fun u hu v hv hua hva hsame => ?_, fun v hv hva => ?_, fun r hr => ?_⟩
  · change ((w.versions.map (t.write result)).map Version.id).Nodup
    rw [map_id_map fun v _ => ?_]
    · exact htables.ids
    · rcases write_cases t result v with ⟨hv, heq⟩ | ⟨-, -, heq⟩ | ⟨-, -, heq⟩
      · rw [heq, hid, hv]
      · rw [heq]
      · rw [heq]
  · obtain ⟨x, hx, rfl⟩ := List.mem_map.1 hv
    change (t.write result x).effectiveUntil = none
    change (t.write result x).status ≠ .retired at hst
    rcases write_cases t result x with ⟨-, heq⟩ | ⟨-, -, heq⟩ | ⟨-, -, heq⟩
    · rw [heq, huntil]
      exact htables.ends _ h.row (by rw [h.submitted]; decide)
    · rw [heq] at hst
      exact absurd rfl hst
    · rw [heq] at hst ⊢
      exact htables.ends x hx hst
  · rcases hmem v hva hv with rfl | ⟨hv, -⟩
    · exact ⟨t.checker, happroved, by rw [hcreated]; exact ha.checker.symm⟩
    · exact htables.checked v hv hva
  · rcases hmem u hua hu with rfl | ⟨hu, hur, -⟩ <;> rcases hmem v hva hv with rfl | ⟨hv, hvr, -⟩
    · rfl
    · exact absurd (hsame.symm.trans hrule) hvr
    · exact absurd (hsame.trans hrule) hur
    · exact htables.rule u hu v hv hua hva hsame
  · rcases hmem u hua hu with rfl | ⟨hu, -, hus⟩ <;> rcases hmem v hva hv with rfl | ⟨hv, -, hvs⟩
    · rfl
    · exact absurd (hsame.symm.trans hscope) hvs
    · exact absurd (hsame.trans hscope) hus
    · exact htables.scope u hu v hv hua hva hsame
  · change v.rule ∈ World.upsert w.rules result.rule
    rcases hmem v hva hv with rfl | ⟨hv, hvr, -⟩
    · exact mem_upsert.2 (.inl rfl)
    · exact mem_upsert.2 (.inr ⟨htables.priced v hv hva, fun h => hvr (h.trans hrule)⟩)
  · rcases mem_upsert.1 hr with rfl | ⟨hr, hne⟩
    · exact ⟨result, (mem_commit h htables ha hstatus).2 (.inl rfl), hstatus, rfl⟩
    · obtain ⟨v, hv, hva, rfl⟩ := htables.approved r hr
      exact ⟨v, (mem_commit h htables ha hva).2 (.inr ⟨hv, fun hvr => hne (hvr.trans hrule.symm)⟩), hva, rfl⟩

end Open

theorem Good.commit (hgood : Good E w) (hs : w.approvals sid = some t)
    (hp : t.phase = .commit result) : Good E (w.commit sid t result) := by
  have h := hgood.approvals sid t hs
  have ha : Approves E w sid t result := by
    have hphase := h.phase
    rwa [hp] at hphase
  refine ⟨commit_tables h hgood.tables ha, fun sid' t' hs' => ?_, fun sid₁ t₁ sid₂ t₂ h₁ h₂ => ?_⟩
  · obtain ⟨hne, hs'⟩ := end_approvals hs'
    refine .frame hgood hs' ⟨fun k hk => Locks.release_other hne hk, fun v hv _ hlock => ?_, fun v hv hva => ?_⟩
    · -- the rows of another approval are not written
      refine List.mem_map.2 ⟨v, hv, ?_⟩
      rcases write_cases t result v with ⟨hid, -⟩ | ⟨-, hret, -⟩ | ⟨-, -, heq⟩
      · rw [hid] at hlock
        exact absurd (Locks.holder_unique hlock h.lock) hne
      · exact absurd (Locks.holder_unique hlock (h.retired v.id hret).1) hne
      · exact heq
    · rcases (mem_commit h hgood.tables ha hva).1 hv with rfl | ⟨hv, -⟩
      · exact .inr ⟨sid, t, hne.symm, hs, hp⟩
      · exact .inl hv
  · exact hgood.pair sid₁ t₁ sid₂ t₂ (end_approvals h₁).2 (end_approvals h₂).2

/-- **One statement of an approval.** -/
theorem Good.advance (h : Good E w) (hs : w.approvals sid = some t) : Good E (w.advance E sid t) := by
  have hown := h.approvals sid t hs
  have hphase := hown.phase
  have hkeep : ∀ {keys t'}, Holds E (w.hold sid keys t') sid t := .frame h hs frame_own
  have hnil : ∀ k ∈ ([] : List LockKey), w.locks.available sid k = true := fun _ hk => nomatch hk
  unfold World.advance
  split
  case h_1 =>
    have htargets := covered_targets hown h.tables
    exact h.next hs hnil rfl ⟨hkeep.row, hown.submitted, hkeep.lock, hkeep.retired, htargets⟩
  case h_2 hp =>
    rw [hp] at hphase
    exact h.next hs hnil rfl ⟨hkeep.row, hown.submitted, hkeep.lock, hkeep.retired, hphase⟩
  case h_3 id ids hp =>
    rw [hp] at hphase
    split
    · exact h
    rename_i hfree
    split
    · rename_i hnone
      have hskip := covered_skip hown h.tables hphase hnone
      exact h.next hs hnil rfl ⟨hkeep.row, hown.submitted, hkeep.lock, hkeep.retired, hskip⟩
    rename_i v hfind
    split
    · exact h.endApproval sid
    have hv : v.id = id ∧ t.Retires v := by simpa using List.find?_some hfind
    refine h.next hs (by simpa using hfree) rfl
      ⟨hkeep.row, hown.submitted, hkeep.lock, fun id' hid' => ?_, fun u hu hua hrule => ?_⟩
    · rcases List.mem_cons.1 hid' with rfl | hid'
      · exact ⟨Locks.acquire_of_mem (List.mem_singleton_self _), v, List.mem_of_find?_eq_some hfind, hv.1,
          hv.2.2.1, hv.2.1⟩
      · exact hkeep.retired id' hid'
    · rcases hphase u hu hua hrule with hmem | hret | hscope
      · rcases List.mem_cons.1 hmem with hid | hmem
        · exact .inr (.inl (List.mem_cons.2 (.inl hid)))
        · exact .inl hmem
      · exact .inr (.inl (List.mem_cons_of_mem _ hret))
      · exact .inr (.inr hscope)
  case h_4 hp =>
    rw [hp] at hphase
    split
    · exact h.endApproval sid
    rename_i v hfind
    split
    · exact h
    rename_i hfree
    split
    · exact h.endApproval sid
    rename_i hany
    have hv : v.id = t.row.id ∧ v.status = .submitted ∧ v.createdBy ≠ t.checker := by
      simpa using List.find?_some hfind
    obtain rfl : v = t.row := eq_of_id h.tables.ids (List.mem_of_find?_eq_some hfind) hown.row hv.1
    have hretired := approves_of_trigger hown h.tables hphase (by simpa using hany)
    exact h.next hs (by simpa using hfree) rfl ⟨hkeep.row, hown.submitted, hkeep.lock, hkeep.retired,
      rfl, hv.2.2, Locks.acquire_of_mem (List.mem_singleton_self _), hretired⟩
  case h_5 result hp =>
    rw [hp] at hphase
    split
    · exact h
    rename_i hfree
    split
    · exact h.endApproval sid
    exact h.next hs (by simpa using hfree) rfl ⟨hkeep.row, hown.submitted, hkeep.lock, hkeep.retired,
      hphase.result, hphase.checker, Locks.acquire_own hphase.lock, hphase.retired⟩
  case h_6 result hp => exact h.commit hs hp

/-! ## Single statements -/

theorem Good.draft (h : Good E w) (id fresh ruleID : UUID) (scope : Scope) (terms : Terms) (actor : String) :
    Good E (w.draft id fresh ruleID scope terms actor) := by
  unfold World.draft
  dsimp only
  split
  · exact h
  rename_i hnew
  push Not at hnew
  set v : Version := ⟨id, _, _, scope, terms, .draft, actor, none, w.now, none⟩ with hv
  have hsame : ∀ u : Version, u.status = .approved → (u ∈ w.versions ++ [v] ↔ u ∈ w.versions) := by
    intro u hu
    rw [List.mem_append, List.mem_singleton]
    refine or_iff_left ?_
    rintro rfl
    cases hu
  refine ⟨h.tables.of_approved ?_ (fun u hu hst => ?_) hsame, fun sid t hs => .frame h hs ?_, h.pair⟩
  · have hfresh : id ∉ w.versions.map Version.id := by
      intro hmem
      obtain ⟨u, hu, hid⟩ := List.mem_map.1 hmem
      exact hnew.1 (List.find?_isSome.2 ⟨u, hu, by simpa using hid⟩)
    exact nodup_concat_id h.tables.ids hfresh
  · rw [List.mem_append, List.mem_singleton] at hu
    rcases hu with hu | rfl
    · exact h.tables.ends u hu hst
    · rfl
  · exact ⟨fun _ hk => hk, fun u hu _ _ => List.mem_append_left _ hu, fun u hu hua => .inl ((hsame u hua).1 hu)⟩

/-- An update of one row that is neither approved nor retired, before or after, and that no approval has
unless it is a draft. -/
theorem Good.update {id : UUID} {p : Version → Bool} {f : Version → Version} (h : Good E w)
    (hbefore : ∀ v, p v = true → v.status ≠ .approved ∧ v.status ≠ .retired)
    (hafter : ∀ v, (f v).status ≠ .approved ∧ (f v).id = v.id ∧ (f v).effectiveUntil = v.effectiveUntil)
    (hlock : w.locks (.version id) = none ∨ ∀ v, p v = true → v.status = .draft) : Good E (w.update id p f) := by
  have hsame : ∀ u : Version, u.status = .approved → (u ∈ (w.update id p f).versions ↔ u ∈ w.versions) := by
    intro u hu
    simp only [World.update, List.mem_map]
    constructor
    · rintro ⟨v, hv, rfl⟩
      split at hu
      · exact absurd hu (hafter v).1
      · rwa [if_neg ‹_›]
    · intro hmem
      exact ⟨u, hmem, if_neg fun hp => (hbefore u hp.2).1 hu⟩
  refine ⟨h.tables.of_approved ?_ (fun u hu hst => ?_) hsame, fun sid t hs => .frame h hs ?_, h.pair⟩
  · simp only [World.update]
    rw [map_id_map fun v _ => ?_]
    · exact h.tables.ids
    · split
      · exact (hafter v).2.1
      · rfl
  · obtain ⟨v, hv, rfl⟩ := List.mem_map.1 hu
    split at hst
    · rename_i hp
      rw [if_pos hp, (hafter v).2.2]
      exact h.tables.ends v hv (hbefore v hp.2).2
    · rw [if_neg ‹_›]
      exact h.tables.ends v hv hst
  · refine ⟨fun _ hk => hk, fun u hu hst hk => List.mem_map.2 ⟨u, hu, if_neg fun hp => ?_⟩,
      fun u hu hua => .inl ((hsame u hua).1 hu)⟩
    rcases hlock with hnone | hdraft
    · rw [hp.1, hnone] at hk
      cases hk
    · exact hst (hdraft u hp.2)

/-! ## Runs -/

/-- No approval gets its version while one of the same rule and another scope is open. -/
def World.Calm (w : World) : Event → Prop
  | .approve _ id _ _ =>
    ∀ v ∈ w.versions, v.id = id → ∀ sid t, w.approvals sid = some t → t.row.ruleID = v.ruleID →
      t.row.scope = v.scope
  | _ => True

theorem Good.step {e : Event} (h : Good E w) (hcalm : w.Calm e) : Good E (w.step E e) := by
  cases e with
  | draft id fresh ruleID scope terms actor => exact h.draft id fresh ruleID scope terms actor
  | submit id =>
    have hdraft : ∀ v : Version, decide (v.status = .draft) = true → v.status = .draft :=
      fun v hv => by simpa using hv
    refine h.update (fun v hv => ?_) (fun v => ⟨by simp, rfl, rfl⟩) (.inr hdraft)
    rw [hdraft v hv]
    exact ⟨by decide, by decide⟩
  | reject id checker =>
    simp only [World.step]
    split
    · exact h
    rename_i hfree
    refine h.update (fun v hv => ?_) (fun v => ⟨by simp, rfl, rfl⟩) (.inl (by simpa using hfree))
    have hsubmitted : v.status = .submitted ∧ v.createdBy ≠ checker := by simpa using hv
    rw [hsubmitted.1]
    exact ⟨by decide, by decide⟩
  | approve sid id checker began =>
    simp only [World.step]
    split
    · rename_i v _ hfind
      split
      · rename_i hv
        have hmem : v ∈ w.versions := List.mem_of_find?_eq_some hfind
        have hid : v.id = id := by simpa using List.find?_some hfind
        refine h.hold (by simpa using hv.2) ⟨hmem, hv.1, ?_, fun _ hr => absurd hr List.not_mem_nil, trivial⟩
          fun sid' t' _ hs' hrule => ?_
        · exact Locks.acquire_of_mem (by rw [hid]; exact List.mem_singleton_self _)
        · exact hcalm v hmem hid sid' t' hs' hrule
      · exact h
    · exact h
  | advance sid =>
    simp only [World.step]
    split
    · exact h
    · rename_i t hs
      exact h.advance hs
  | fail sid => exact h.endApproval sid
  | tick d =>
    refine ⟨h.tables, fun sid t hs => .frame h hs ?_, h.pair⟩
    exact ⟨fun _ hk => hk, fun _ hv _ _ => hv, fun _ hv _ => .inl hv⟩

/-- The tables, with no approval open. -/
def World.idle (versions : List Version) (rules : List Rule) (now : ℕ) : World :=
  ⟨versions, rules, now, fun _ => none, fun _ => none⟩

theorem good_idle (h : Consistent versions rules) (now : ℕ) : Good E (.idle versions rules now) where
  tables := h
  approvals _ _ hs := nomatch hs
  pair _ _ _ _ hs := nomatch hs

/-- **The price in force is the one approved version**, in every run in which no approval gets its version
while one of the same rule and another scope is open. -/
theorem in_force_of_calm (E : Env) (versions : List Version) (rules : List Rule) (now : ℕ)
    (h : Consistent versions rules) (es : List Event)
    (hes : Along (World.step E) World.Calm (.idle versions rules now) es) :
    InForce (run (World.step E) (.idle versions rules now) es).versions
      (run (World.step E) (.idle versions rules now) es).rules := by
  exact (run_inv_of_along (I := Good E) (fun _ _ h hcalm => h.step hcalm) (good_idle h now) hes).tables.inForce

namespace Sample

def env : Env := ⟨fun s => s.length, fun _ => ""⟩

/-- Version `id` of rule 1, submitted by the maker, for one gateway. -/
def submitted (id : UUID) (gateway : String) : Version :=
  ⟨id, 1, id, ⟨"transfer_p2p", gateway, "IDR", none⟩, ⟨id, 0, "platform", true⟩, .submitted, "maker", none, 0,
    none⟩

/-- Two approvals of rule 1; the second begins to retire before the first commits. -/
def race : List Event :=
  .approve 1 11 "checker" 5 :: .approve 2 12 "checker" 5 :: .advance 2 ::
    (List.replicate 5 (.advance 1) ++ List.replicate 4 (.advance 2))

end Sample

/-- For one scope, the trigger stops the second. -/
theorem in_force_of_calm_race :
    let versions := [Sample.submitted 11 "bca", Sample.submitted 12 "bca"]
    let w := run (World.step Sample.env) (.idle versions [] 5) Sample.race
    w.versions.map Version.status = [.approved, .submitted] ∧ InForce w.versions w.rules := by
  intro versions w
  refine ⟨by decide +kernel, in_force_of_calm Sample.env versions [] 5 ?_ _ ⟨?_, ?_, trivial, ?_⟩⟩
  · refine ⟨by decide, by decide, ?_, ?_, ?_, ?_, ?_⟩ <;> simp [versions, Sample.submitted]
  · intro v _ _ sid t hs
    cases hs
  · intro v hv _ sid t hs _
    have hrow : t.row = Sample.submitted 11 "bca" := by
      by_cases hsid : sid = 1
      · subst hsid
        cases hs
        rfl
      · have hnone : (World.step Sample.env (.idle versions [] 5) (.approve 1 11 "checker" 5)).approvals
            sid = none :=
          Function.update_of_ne hsid _ _
        rw [hnone] at hs
        cases hs
    have hscope : ∀ v ∈ versions, v.scope = (Sample.submitted 11 "bca").scope := by decide
    rw [hrow]
    exact (hscope v hv).symm
  · exact .of_forall (fun e he _ => by
      rw [List.mem_append, List.mem_replicate, List.mem_replicate] at he
      rcases he with ⟨-, rfl⟩ | ⟨-, rfl⟩ <;> trivial) _

/-- For two scopes, it does not: both are approved, and `fee_rules` has the second. -/
theorem approved_twice :
    let versions := [Sample.submitted 11 "bca", Sample.submitted 12 "mandiri"]
    let w := run (World.step Sample.env) (.idle versions [] 5) Sample.race
    w.versions.map Version.status = [.approved, .approved] ∧ w.rules.map Rule.ruleVersion = [12] ∧
      ¬InForce w.versions w.rules := by
  intro versions w
  refine ⟨by decide +kernel, by decide +kernel, fun h => ?_⟩
  have htwo : ∃ u ∈ w.versions, ∃ v ∈ w.versions, u.status = .approved ∧ v.status = .approved ∧
    u.ruleID = v.ruleID ∧
      u ≠ v := by decide +kernel
  obtain ⟨u, hu, v, hv, hua, hva, hrule, hne⟩ := htwo
  exact hne (h.one u hu v hv hua hva hrule)

end Seev.Ledger.FeeRules
