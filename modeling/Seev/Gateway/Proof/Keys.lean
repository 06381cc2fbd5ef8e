import Seev.Gateway.Proof.Lifecycle

/-!
# The number of active API keys

`CreateKey` counts the active keys of a tenant in an environment with one statement and inserts the new
key with a later one. `RotateKey` does the same, and revokes the old key last.

* `at_most_two_active_keys`: two keys at most, while the calls that create a key for a tenant and an
  environment do not overlap between their count and their insert.
* `three_active_keys`: two overlapping calls leave three.
-/

namespace Seev.Gateway

open Lib

variable {E : Env} {T : Tables} {w : World} {t : UUID} {environment : Environment}

/-- The session is about to insert a key of the tenant in the environment. -/
def Session.Inserts (t : UUID) (environment : Environment) : Session → Prop
  | .keyCreate t' environment' _ => t' = t ∧ environment' = environment
  | _ => False

instance (t : UUID) (environment : Environment) (s : Session) : Decidable (s.Inserts t environment) := by
  unfold Session.Inserts
  split <;> infer_instance

/-- No other session inserts into what the session is about to count. -/
def Serial (w : World) : Event → Prop
  | .advance sid _ =>
    match w.sessions sid with
    | some (.keyList t environment _) => ∀ sid', ∀ s ∈ w.sessions sid', ¬ s.Inserts t environment
    | _ => True
  | _ => True

/-- The number of the active keys does not depend on the other tables. -/
theorem activeKeys_congr {T' : Tables} (h : T'.keys = T.keys) :
    T'.activeKeys t environment = T.activeKeys t environment := by
  rw [Tables.activeKeys, Tables.activeKeys, h]

theorem activeKeys_createKey {T' : Tables} {k : APIKey} (h : T.createKey k = some T') :
    T'.activeKeys t environment ≤
      T.activeKeys t environment + if k.tenantID = t ∧ k.environment = environment then 1 else 0 := by
  unfold Tables.createKey at h
  split at h
  · cases h
  cases h
  simp only [Tables.activeKeys, List.filter_append, List.length_append]
  refine Nat.add_le_add_left ?_ _
  by_cases hk : k.tenantID = t ∧ k.environment = environment
  · rw [if_pos hk]
    exact List.length_filter_le _ _
  · rw [if_neg hk, List.filter_cons_of_neg]
    · exact Nat.le_refl 0
    · simp only [decide_eq_true_eq]
      exact fun h => hk ⟨h.1, h.2.2⟩

theorem activeKeys_revokeKey (t' id : UUID) :
    (T.revokeKey t' id).activeKeys t environment ≤ T.activeKeys t environment := by
  simp only [Tables.activeKeys, Tables.revokeKey, List.filter_map, List.length_map]
  refine (List.monotone_filter_right _ fun k hk => ?_).length_le
  simp only [Function.comp, decide_eq_true_eq] at hk ⊢
  split at hk
  · simp at hk
  · exact hk

theorem decide_keys {T' : Tables} {id : UUID} {status : RequestStatus} {approvedBy : String} {matched : Bool}
    (h : T.decide id status approvedBy = some (T', matched)) : T'.keys = T.keys := by
  unfold Tables.decide at h
  split at h
  · cases h
    rfl
  split at h
  · cases h
  · cases h
    rfl

/-- A statement adds an active key only where the session was about to insert one. -/
theorem exec_activeKeys (T : Tables) (t : UUID) (environment : Environment) (d : Draw) (s : Session) :
    (T.exec E d s).1.activeKeys t environment ≤
      T.activeKeys t environment + if s.Inserts t environment then 1 else 0 := by
  cases s with
  | keyCreate t' environment' oldKeyID =>
    simp only [Tables.exec]
    generalize hk : (⟨d.id, t', _, _, environment', .active, none⟩ : APIKey) = key
    cases hT : T.createKey key with
    | none => exact Nat.le_add_right _ _
    | some T' =>
      subst hk
      exact activeKeys_createKey hT
  | keyRevoke t' id => exact activeKeys_revokeKey t' id
  | create environment' createdBy =>
    simp only [Tables.exec, Tables.createTenant]
    split <;> exact Nat.le_add_right _ _
  | proposeCreate t' action requestedBy reason =>
    simp only [Tables.exec, Tables.createRequest]
    split_ifs <;> exact Nat.le_add_right _ _
  | approveDecide | rejectDecide =>
    simp only [Tables.exec]
    split
    · next hT => exact Nat.le_of_eq (activeKeys_congr (decide_keys hT))
    · exact Nat.le_add_right _ _
  | approveApply req approvedBy =>
    simp only [Tables.exec, Tables.updateStatus]
    cases T.tenants req.tenantID <;> exact Nat.le_add_right _ _
  | suspend t' actor =>
    simp only [Tables.exec, Tables.updateStatus]
    cases T.tenants t' <;> exact Nat.le_add_right _ _
  | proposeTenant | proposePending | keyTenant | keyList | authTenant => exact Nat.le_add_right _ _
  | approveGet | rejectGet | authKey =>
    simp only [Tables.exec]
    split
    · exact Nat.le_add_right _ _
    · split <;> exact Nat.le_add_right _ _

/-- Only the count leads to an insert, and only below two. -/
theorem exec_inserts {d : Draw} {s s' : Session} (h : (T.exec E d s).2 = some s')
    (hs : s'.Inserts t environment) :
    ∃ oldKeyID, s = .keyList t environment oldKeyID ∧ T.activeKeys t environment < 2 := by
  cases s with
  | keyList t' environment' oldKeyID =>
    simp only [Tables.exec] at h
    split at h
    · cases h
    · next hlt =>
      cases h
      obtain ⟨rfl, rfl⟩ := hs
      exact ⟨oldKeyID, rfl, Nat.lt_of_not_le hlt⟩
  | create | proposePending | suspend | keyRevoke | authTenant => cases h
  | proposeTenant | keyTenant =>
    simp only [Tables.exec] at h
    split at h <;> cases h
    exact hs.elim
  | keyCreate t' environment' oldKeyID =>
    simp only [Tables.exec] at h
    split at h
    · cases h
    · obtain ⟨id, -, rfl⟩ := Option.map_eq_some_iff.1 h
      exact hs.elim
  | proposeCreate | approveDecide | approveApply | rejectDecide =>
    simp only [Tables.exec] at h
    split at h <;> cases h <;> exact hs.elim
  | approveGet | rejectGet =>
    simp only [Tables.exec] at h
    split at h
    · cases h
    · split at h <;> cases h
      exact hs.elim
  | authKey raw =>
    simp only [Tables.exec] at h
    split at h
    · cases h
    split at h
    · cases h
    · dsimp only at h
      split at h <;> cases h
      exact hs.elim

/-! ## Runs -/

/-- Nobody has more than two active keys, and whoever inserts is alone and found at most one. -/
structure KeysOK (w : World) : Prop where
  atMostTwo : ∀ t environment, w.tables.activeKeys t environment ≤ 2
  counted : ∀ sid, ∀ s ∈ w.sessions sid, ∀ t environment, s.Inserts t environment →
    w.tables.activeKeys t environment ≤ 1
  alone : ∀ sid, ∀ s ∈ w.sessions sid, ∀ sid', ∀ s' ∈ w.sessions sid', ∀ t environment,
    s.Inserts t environment → s'.Inserts t environment → sid' = sid

theorem Call.session_inserts {c : Call} {s : Session} (h : c.session = some s) : ¬ s.Inserts t environment := by
  intro hs
  cases c <;> simp only [Call.session] at h <;> split at h <;> cases h <;> exact hs

/-- A session ends or begins and inserts nothing. -/
theorem KeysOK.set (h : KeysOK w) {w' : World} {sid : SessionID} {next : Option Session}
    (htables : ∀ t environment, w'.tables.activeKeys t environment ≤ w.tables.activeKeys t environment)
    (hsessions : w'.sessions = Function.update w.sessions sid next)
    (hnext : ∀ s ∈ next, ∀ t environment, ¬ s.Inserts t environment) : KeysOK w' := by
  have hold {sid' : SessionID} {s : Session} (hs : s ∈ w'.sessions sid') {t : UUID} {environment : Environment}
      (hi : s.Inserts t environment) : s ∈ w.sessions sid' := by
    rw [hsessions] at hs
    rcases eq_or_ne sid' sid with rfl | hne
    · rw [Function.update_self] at hs
      exact absurd hi (hnext s hs t environment)
    · rwa [Function.update_of_ne hne] at hs
  exact ⟨fun t environment => Nat.le_trans (htables t environment) (h.atMostTwo t environment),
    fun sid' s hs t environment hi =>
      Nat.le_trans (htables t environment) (h.counted sid' s (hold hs hi) t environment hi),
    fun sid' s hs sid'' s' hs' t environment hi hi' =>
      h.alone sid' s (hold hs hi) sid'' s' (hold hs' hi') t environment hi hi'⟩

/-- A statement takes effect, and its session goes on or ends. -/
theorem KeysOK.executed (h : KeysOK w) {w' : World} {sid : SessionID} {d : Draw} {s : Session}
    {next : Option Session}
    (hsid : s ∈ w.sessions sid) (htables : w'.tables = (w.tables.exec E d s).1)
    (hsessions : w'.sessions = Function.update w.sessions sid next)
    (hnext : ∀ s' ∈ next, (w.tables.exec E d s).2 = some s')
    (hserial : next ≠ none → Serial w (.advance sid d)) : KeysOK w' := by
  have hself {sid' : SessionID} (heq : sid' = sid) {s' : Session} (hs' : s' ∈ w'.sessions sid') : s' ∈ next := by
    rwa [heq, hsessions, Function.update_self] at hs'
  have hother {sid' : SessionID} (hne : sid' ≠ sid) {s' : Session} (hs' : s' ∈ w'.sessions sid') :
      s' ∈ w.sessions sid' := by
    rwa [hsessions, Function.update_of_ne hne] at hs'
  have hkeys (t : UUID) (environment : Environment) := exec_activeKeys (E := E) w.tables t environment d s
  -- the session has counted: nobody else inserts
  have hcounted {s' : Session} (hs' : s' ∈ next) {t : UUID} {environment : Environment}
    (hi : s'.Inserts t environment) :
      ∃ oldKeyID, s = .keyList t environment oldKeyID ∧ w.tables.activeKeys t environment < 2 ∧
        ∀ sid', ∀ s' ∈ w.sessions sid', ¬ s'.Inserts t environment := by
    obtain ⟨oldKeyID, rfl, hlt⟩ := exec_inserts (hnext s' hs') hi
    refine ⟨oldKeyID, rfl, hlt, ?_⟩
    have := hserial fun hnone => by rw [hnone] at hs'; cases hs'
    simpa only [Serial, Option.mem_def.1 hsid] using this
  refine ⟨fun t environment => ?_, fun sid' s' hs' t environment hi => ?_,
    fun sid₁ s₁ hs₁ sid₂ s₂ hs₂ t environment hi₁ hi₂ => ?_⟩
  · rw [htables]
    refine Nat.le_trans (hkeys t environment) ?_
    split
    · next hi => exact Nat.succ_le_succ (h.counted sid s hsid t environment hi)
    · exact h.atMostTwo t environment
  · rw [htables]
    refine Nat.le_trans (hkeys t environment) ?_
    rcases eq_or_ne sid' sid with heq | hne
    · obtain ⟨oldKeyID, rfl, hlt, -⟩ := hcounted (hself heq hs') hi
      exact Nat.le_of_lt_succ hlt
    · rw [if_neg fun his => hne (h.alone sid s hsid sid' s' (hother hne hs') t environment his hi)]
      exact h.counted sid' s' (hother hne hs') t environment hi
  · rcases eq_or_ne sid₁ sid with heq₁ | hne₁ <;> rcases eq_or_ne sid₂ sid with heq₂ | hne₂
    · exact heq₂.trans heq₁.symm
    · obtain ⟨-, -, -, halone⟩ := hcounted (hself heq₁ hs₁) hi₁
      exact absurd hi₂ (halone sid₂ s₂ (hother hne₂ hs₂))
    · obtain ⟨-, -, -, halone⟩ := hcounted (hself heq₂ hs₂) hi₂
      exact absurd hi₁ (halone sid₁ s₁ (hother hne₁ hs₁))
    · exact h.alone sid₁ s₁ (hother hne₁ hs₁) sid₂ s₂ (hother hne₂ hs₂) t environment hi₁ hi₂

theorem step_keysOK {e : Event} (h : KeysOK w) (hserial : Serial w e) : KeysOK (w.step E e) := by
  cases e with
  | start sid c =>
    simp only [World.step]
    split
    · exact h.set (fun _ _ => Nat.le_refl _) rfl fun s hs t environment => Call.session_inserts hs
    · exact h
  | advance sid d =>
    simp only [World.step]
    cases hsid : w.sessions sid with
    | none => exact h
    | some s => exact h.executed hsid rfl rfl (fun _ hs' => hs') fun _ => hserial
  | fault sid d took =>
    simp only [World.step]
    cases hsid : w.sessions sid with
    | none => exact h
    | some s =>
      cases took with
      | false => exact h.set (fun _ _ => Nat.le_refl _) rfl fun _ hs => by cases hs
      | true =>
        have hsessions : (w.set sid none).sessions = Function.update w.sessions sid none := rfl
        exact h.executed (d := d) hsid rfl hsessions (fun _ hs' => by cases hs') fun hne => absurd rfl hne
  | crash sid => exact h.set (fun _ _ => Nat.le_refl _) rfl fun _ hs => by cases hs
  | tick d => exact ⟨h.atMostTwo, h.counted, h.alone⟩

/-- **At most two active keys.** In every run in which no two calls of `CreateKey` or `RotateKey` for one
tenant and one environment are between their count and their insert at the same time, every tenant has at
most two active keys in every environment. -/
theorem at_most_two_active_keys (E : Env) (now : ℕ) (es : List Event)
    (hes : Along (World.step E) Serial (.idle now) es) (t : UUID) (environment : Environment) :
    (run (World.step E) (.idle now) es).tables.activeKeys t environment ≤ 2 :=
  (run_inv_of_along (fun _ _ => step_keysOK)
    (⟨fun _ _ => Nat.zero_le _, (fun _ _ hs => nomatch hs), fun _ _ hs => nomatch hs⟩ :
      KeysOK (.idle now)) hes).atMostTwo
    t environment

/-- Calls that are made one after the other. -/
theorem serial_of_session {now : ℕ} {es : List Event} (sid : SessionID) (hes : ∀ e ∈ es, e.session = some sid) :
    Along (World.step E) Serial (.idle now) es := by
  refine Along.of_inv (I := fun w => ∀ sid' ≠ sid, w.sessions sid' = none) (C := fun _ e => e.session = some sid)
    (fun w e h he sid' hne => ?_) (fun w e h he => ?_) (fun _ _ => rfl) (.of_forall (fun e he _ => hes e he) _)
  · rw [step_sessions_of_ne fun heq => hne (Option.some.inj (heq.symm.trans he))]
    exact h sid' hne
  · cases e with
    | advance sid' d =>
      obtain rfl : sid' = sid := Option.some.inj he
      rw [Serial]
      split
      · next hlist =>
        intro sid'' s hs
        rcases eq_or_ne sid'' sid' with rfl | hne
        · rw [hlist] at hs
          cases hs
          exact id
        · rw [h sid'' hne] at hs
          cases hs
      · trivial
    | _ => trivial

namespace KeySample

open Sample (env maker)

def draw (id : UUID) (c : Char) : Draw := ⟨id, List.replicate encodedPrefixLen c, ['s']⟩

/-- A sandbox tenant with one key. -/
def opened : List Event :=
  [.start 0 (.create maker .sandbox), .advance 0 (draw 1 'a'), .start 0 (.createKey maker 1 .sandbox),
    .advance 0 (draw 2 'a'), .advance 0 (draw 2 'a'), .advance 0 (draw 2 'a')]

/-- The key is rotated. -/
def rotated : List Event :=
  opened ++ .start 0 (.rotateKey maker 1 2 .sandbox) :: List.replicate 4 (.advance 0 (draw 3 'b'))

end KeySample

open KeySample Sample in
theorem at_most_two_active_keys_rotated :
    (Sample.after rotated).tables.keys.map APIKey.status = [.revoked, .active] ∧
    (Sample.after rotated).tables.activeKeys 1 .sandbox ≤ 2 :=
  ⟨by decide +kernel, at_most_two_active_keys env 0 rotated (serial_of_session 0 (by decide +kernel)) 1 .sandbox⟩

open KeySample Sample in
/-- **Two calls overlap.** Each of them counts one key before the other has inserted its own. -/
theorem three_active_keys :
    (Sample.after (opened ++ [.start 0 (.createKey maker 1 .sandbox), .start 1 (.createKey maker 1 .sandbox),
      .advance 0 (KeySample.draw 3 'b'), .advance 0 (KeySample.draw 3 'b'), .advance 1 (KeySample.draw 4 'c'),
      .advance 1 (KeySample.draw 4 'c'), .advance 0 (KeySample.draw 3 'b'),
      .advance 1 (KeySample.draw 4 'c')])).tables.activeKeys 1 .sandbox = 3 := by
  decide +kernel

end Seev.Gateway
