import Seev.Auth.Token
import Seev.Lib.Rows

/-!
# A refresh token works once

The lookup, the issue of the next pair and the revocation of a `Refresh` are separate
statements, and the pair is returned even when the revocation lost. So two calls that
overlap both succeed with one token, and a pair that is issued after a replay response
survives it.

* `redeemed_once`: when no two `Refresh` calls of one user overlap, every token is redeemed
  at most once and none that a replay response was meant to end.
* `concurrent_refresh`: the runs without that.
-/

namespace Seev.Auth

open Lib

variable {E : Env} {w w' : World} {tokens tokens' : List RefreshToken} {users : UUID → Option UserStatus}
  {t : RefreshToken} {id userID : UUID}

/-! ## Rows -/

/-- Rows stay, with their user and expiry, and a revocation is final. -/
structure RowLater (t t' : RefreshToken) : Prop where
  id : t'.id = t.id
  userID : t'.userID = t.userID
  expiresAt : t'.expiresAt = t.expiresAt
  revoked : t.revokedAt.isSome → t'.revokedAt.isSome

def Later (tokens tokens' : List RefreshToken) : Prop := ∀ t ∈ tokens, ∃ t' ∈ tokens', RowLater t t'

theorem RowLater.refl (t : RefreshToken) : RowLater t t := ⟨rfl, rfl, rfl, fun h => h⟩

theorem Later.refl (tokens : List RefreshToken) : Later tokens tokens := fun t ht => ⟨t, ht, .refl t⟩

/-- An update of the rows in place. -/
theorem Later.map {f : RefreshToken → RefreshToken} (h : ∀ t, RowLater t (f t)) : Later tokens (tokens.map f) :=
  fun t ht => ⟨f t, List.mem_map_of_mem ht, h t⟩

theorem map_ids {f : RefreshToken → RefreshToken} (h : ∀ t, RowLater t (f t)) :
    (tokens.map f).map RefreshToken.id = tokens.map RefreshToken.id := by
  rw [List.map_map]
  exact List.map_congr_left fun t _ => (h t).id

theorem revokeAll_row (now : ℕ) (userID : UUID) (t : RefreshToken) : RowLater t
    (if t.userID = userID ∧ t.revokedAt = none ∧ now < t.expiresAt then { t with revokedAt := some now }
      else t) := by
  split
  · exact ⟨rfl, rfl, rfl, fun _ => rfl⟩
  · exact .refl t

theorem revoke_row (now : ℕ) (id replacedBy : UUID) (t : RefreshToken) : RowLater t
    (if t.id = id ∧ t.revokedAt = none then { t with revokedAt := some now, replacedBy := some replacedBy }
      else t) := by
  split
  · exact ⟨rfl, rfl, rfl, fun _ => rfl⟩
  · exact .refl t

/-- The tables after one of the repository's writes. -/
structure Written (tokens tokens' : List RefreshToken) : Prop where
  later : Later tokens tokens'
  nodup : (tokens.map RefreshToken.id).Nodup → (tokens'.map RefreshToken.id).Nodup

theorem Written.refl (tokens : List RefreshToken) : Written tokens tokens := ⟨.refl tokens, fun h => h⟩

theorem revokeAll_written (now : ℕ) (userID : UUID) : Written tokens (revokeAllForUser now tokens userID) :=
  ⟨.map (revokeAll_row now userID), fun h => by rwa [revokeAllForUser, map_ids (revokeAll_row now userID)]⟩

theorem revoke_written (now : ℕ) (id replacedBy : UUID) :
    Written tokens (revokeRefreshToken now tokens id replacedBy) :=
  ⟨.map (revoke_row now id replacedBy),
    fun h => by rwa [revokeRefreshToken, map_ids (revoke_row now id replacedBy)]⟩

theorem insert_written (h : insertRefreshToken users tokens t = some tokens') : Written tokens tokens' := by
  unfold insertRefreshToken at h
  split at h
  · cases h
  rename_i hfresh
  cases h
  refine ⟨fun t' ht' => ⟨t', List.mem_append_left _ ht', .refl t'⟩, fun hnodup => ?_⟩
  have hnew : t.id ∉ tokens.map (·.id) := by
    intro hmem
    obtain ⟨t', ht', heq⟩ := List.mem_map.1 hmem
    exact hfresh (.inl (List.any_eq_true.2 ⟨t', ht', by simp [heq]⟩))
  exact nodup_concat_id hnodup hnew

/-- After `RevokeRefreshToken` the row is revoked, whoever won. -/
theorem revoke_revokes {now : ℕ} {replacedBy : UUID} (ht : t ∈ tokens) (hid : t.id = id) :
    ∃ t' ∈ revokeRefreshToken now tokens id replacedBy, t'.id = id ∧ t'.revokedAt.isSome := by
  refine ⟨_, List.mem_map_of_mem ht, ?_, ?_⟩
  · rw [(revoke_row now id replacedBy t).id, hid]
  · by_cases hlive : t.revokedAt = none
    · simp [hid, hlive]
    · simp [hlive, Option.isSome_iff_ne_none]

/-- After `RevokeAllForUser` a row of the user is revoked or has expired, unless it expires now. -/
theorem revokeAll_ends {now : ℕ}
    (hnow : ∀ t ∈ tokens, t.userID = userID → t.revokedAt = none → t.expiresAt ≠ now) {t' : RefreshToken}
    (ht' : t' ∈ revokeAllForUser now tokens userID) (hu : t'.userID = userID) :
    t'.revokedAt.isSome ∨ t'.expiresAt < now := by
  obtain ⟨t, ht, rfl⟩ := List.mem_map.1 ht'
  rw [(revokeAll_row now userID t).userID] at hu
  by_cases hlive : t.revokedAt = none
  · by_cases hexp : now < t.expiresAt
    · left; simp [hu, hlive, hexp]
    · right
      have hne := hnow t ht hu hlive
      simp [hexp]
      omega
  · left
    simp [hlive, Option.isSome_iff_ne_none]

/-! ## Calls in progress -/

/-- The token a `Refresh` is redeeming. -/
def Session.token : Session → Option RefreshToken
  | .user t | .issue t | .revoke t _ | .respond t => some t
  | _ => none

theorem Session.refreshes_of_token {s : Session} (h : s.token = some t) :
    s.refreshes = some t.userID := by
  cases s <;> simp_all [Session.token, Session.refreshes]

/-- The row of a token, in whatever state. -/
def HasRow (tokens : List RefreshToken) (id : UUID) (P : RefreshToken → Prop) : Prop :=
  ∃ t ∈ tokens, t.id = id ∧ P t

structure OK (w : World) : Prop where
  ids : (w.tokens.map RefreshToken.id).Nodup
  /-- one call of `Refresh` for each user -/
  single : ∀ sid sid' s s' u, w.sessions.lookup sid = some s → w.sessions.lookup sid' = some s' →
    s.refreshes = some u → s'.refreshes = some u → sid = sid'
  row : ∀ sid s t, w.sessions.lookup sid = some s → s.token = some t →
    HasRow w.tokens t.id (·.userID = t.userID)
  live : ∀ sid s t, w.sessions.lookup sid = some s → s.token = some t → t.id ∉ w.redeemed ∧ t.id ∉ w.ended
  responds : ∀ sid t, w.sessions.lookup sid = some (.respond t) →
    HasRow w.tokens t.id (·.revokedAt.isSome = true)
  redeemed : ∀ id ∈ w.redeemed, HasRow w.tokens id (·.revokedAt.isSome = true)
  ended : ∀ id ∈ w.ended, HasRow w.tokens id fun t => t.revokedAt.isSome = true ∨ t.expiresAt < w.now
  nodup : w.redeemed.Nodup
  late : w.late = []

theorem HasRow.mono {P Q : RefreshToken → Prop} (h : HasRow tokens id P) (hl : Later tokens tokens')
    (hPQ : ∀ t t', RowLater t t' → P t → Q t') : HasRow tokens' id Q := by
  obtain ⟨t, ht, hid, hP⟩ := h
  obtain ⟨t', ht', hlater⟩ := hl t ht
  exact ⟨t', ht', hlater.id.trans hid, hPQ t t' hlater hP⟩

/-- Two facts about the row of one id are about one row. -/
theorem HasRow.unique (hids : (tokens.map RefreshToken.id).Nodup) {P Q : RefreshToken → Prop}
    (h : HasRow tokens id P) (h' : HasRow tokens id Q) : ∃ t, P t ∧ Q t := by
  obtain ⟨t, ht, hid, hP⟩ := h
  obtain ⟨t', ht', hid', hQ⟩ := h'
  have heq := List.inj_on_of_nodup_map hids ht ht' (hid.trans hid'.symm)
  exact ⟨t, hP, heq ▸ hQ⟩

/-! ## Steps -/

/-- What a statement leaves as it was. -/
structure Executes (w w' : World) : Prop where
  now : w'.now = w.now
  sessions : w'.sessions = w.sessions
  redeemed : w'.redeemed = w.redeemed
  ended : w.late = [] → w'.ended = w.ended
  late : w'.late = w.late
  written : Written w.tokens w'.tokens

theorem Executes.refl (w : World) : Executes w w := ⟨rfl, rfl, rfl, fun _ => rfl, rfl, .refl _⟩

theorem exec_executes (w : World) (sid : SessionID) (d : Draw) (s : Session) :
    Executes w (w.exec E sid d s).1 := by
  cases s with
  | loginUser | user | respond => exact .refl w
  | loginIssue userID =>
    simp only [World.exec]
    split
    · exact .refl w
    · rename_i tokens hins
      exact ⟨rfl, rfl, rfl, fun _ => rfl, rfl, insert_written hins⟩
  | lookup token =>
    simp only [World.exec]
    split
    · exact .refl w
    split
    · exact .refl w
    split <;> exact .refl w
  | revokeAll | closeRevoke => exact ⟨rfl, rfl, rfl, fun _ => rfl, rfl, revokeAll_written _ _⟩
  | issue t =>
    simp only [World.exec]
    split
    · exact .refl w
    · rename_i tokens hins
      exact ⟨rfl, rfl, rfl, fun hlate => by simp [hlate], rfl, insert_written hins⟩
  | revoke t newTokenID => exact ⟨rfl, rfl, rfl, fun _ => rfl, rfl, revoke_written _ _ _⟩
  | close userID =>
    simp only [World.exec]
    split
    · exact ⟨rfl, rfl, rfl, fun _ => rfl, rfl, .refl _⟩
    · exact .refl w

/-- A statement's tables keep what is known of the rows. -/
theorem OK.executes (h : OK w) (hx : Executes w w') : OK w' where
  ids := hx.written.nodup h.ids
  single := hx.sessions ▸ h.single
  row sid s t hs ht :=
    (h.row sid s t (hx.sessions ▸ hs) ht).mono hx.written.later fun _ _ hl hu => hl.userID.trans hu
  live := by
    rw [hx.sessions, hx.redeemed, hx.ended h.late]
    exact h.live
  responds sid t hs := (h.responds sid t (hx.sessions ▸ hs)).mono hx.written.later fun _ _ hl hr => hl.revoked hr
  redeemed id hid := (h.redeemed id (hx.redeemed ▸ hid)).mono hx.written.later fun _ _ hl hr => hl.revoked hr
  ended id hid := by
    refine (h.ended id (hx.ended h.late ▸ hid)).mono hx.written.later fun t t' hl hr => ?_
    rw [hl.expiresAt, hx.now]
    exact hr.imp_left hl.revoked
  nodup := hx.redeemed ▸ h.nodup
  late := hx.late.trans h.late

/-- A call ends. -/
theorem OK.drop (h : OK w) (sid : SessionID) : OK (w.set sid none) where
  ids := h.ids
  single sid₁ sid₂ s₁ s₂ u h₁ h₂ := by
    exact h.single sid₁ sid₂ s₁ s₂ u (lookup_of_erase h₁) (lookup_of_erase h₂)
  row sid' s t hs ht := h.row sid' s t (lookup_of_erase hs) ht
  live sid' s t hs ht := h.live sid' s t (lookup_of_erase hs) ht
  responds sid' t hs := h.responds sid' t (lookup_of_erase hs)
  redeemed := h.redeemed
  ended := h.ended
  nodup := h.nodup
  late := by simp [World.set, h.late]
where
  lookup_of_erase {sid' : SessionID} {s : Session} (hs : (w.sessions.erase sid).lookup sid' = some s) :
      w.sessions.lookup sid' = some s := by
    by_cases heq : sid' = sid
    · subst heq
      rw [AList.lookup_erase] at hs
      cases hs
    · rwa [AList.lookup_erase_ne heq] at hs

/-- A call goes on with a session that knows what it should. -/
theorem OK.put (h : OK w) {sid : SessionID} {s : Session}
    (hsingle : ∀ sid' s' u, sid' ≠ sid → w.sessions.lookup sid' = some s' → s.refreshes = some u →
      s'.refreshes ≠ some u)
    (htoken : ∀ t, s.token = some t →
      HasRow w.tokens t.id (·.userID = t.userID) ∧ t.id ∉ w.redeemed ∧ t.id ∉ w.ended)
    (hresp : ∀ t, s = .respond t → HasRow w.tokens t.id (·.revokedAt.isSome = true)) :
    OK (w.set sid (some s)) := by
  have hcases : ∀ sid' s', (w.sessions.insert sid s).lookup sid' = some s' →
      sid' = sid ∧ s' = s ∨ sid' ≠ sid ∧ w.sessions.lookup sid' = some s' := by
    intro sid' s' hs'
    by_cases heq : sid' = sid
    · subst heq
      rw [AList.lookup_insert] at hs'
      cases hs'
      exact .inl ⟨rfl, rfl⟩
    · rw [AList.lookup_insert_ne heq] at hs'
      exact .inr ⟨heq, hs'⟩
  exact {
    ids := h.ids
    single := fun sid₁ sid₂ s₁ s₂ u h₁ h₂ hu₁ hu₂ => by
      rcases hcases sid₁ s₁ h₁ with ⟨hsid₁, hs₁⟩ | ⟨hne₁, hold₁⟩
      · rcases hcases sid₂ s₂ h₂ with ⟨hsid₂, -⟩ | ⟨hne₂, hold₂⟩
        · exact hsid₁.trans hsid₂.symm
        · exact absurd hu₂ (hsingle sid₂ s₂ u hne₂ hold₂ (hs₁ ▸ hu₁))
      · rcases hcases sid₂ s₂ h₂ with ⟨-, hs₂⟩ | ⟨-, hold₂⟩
        · exact absurd hu₁ (hsingle sid₁ s₁ u hne₁ hold₁ (hs₂ ▸ hu₂))
        · exact h.single sid₁ sid₂ s₁ s₂ u hold₁ hold₂ hu₁ hu₂
    row := fun sid' s' t hs' ht => by
      rcases hcases sid' s' hs' with ⟨rfl, rfl⟩ | ⟨-, hs'⟩
      · exact (htoken t ht).1
      · exact h.row sid' s' t hs' ht
    live := fun sid' s' t hs' ht => by
      rcases hcases sid' s' hs' with ⟨rfl, rfl⟩ | ⟨-, hs'⟩
      · exact (htoken t ht).2
      · exact h.live sid' s' t hs' ht
    responds := fun sid' t hs' => by
      rcases hcases sid' _ hs' with ⟨rfl, heq⟩ | ⟨-, hs'⟩
      · exact hresp t heq.symm
      · exact h.responds sid' t hs'
    redeemed := h.redeemed
    ended := h.ended
    nodup := h.nodup
    late := h.late }

/-- How a call goes on: with the token it has, or with the one it looked up. -/
inductive Next (E : Env) (w : World) (s s' : Session) : Prop
  | same (refreshes : s'.refreshes = s.refreshes) (token : s'.token = s.token)
      (responds : ∀ t, s' = .respond t → ∃ n, s = .revoke t n)
  | found (token : String) (t : RefreshToken) (lookup : s = .lookup token)
      (row : getRefreshTokenByHash w.tokens (E.hashToken token) = some t)
        (refreshes : s'.refreshes = some t.userID)
      (live : ∀ t', s'.token = some t' → t' = t ∧ t.revokedAt = none ∧ ¬ t.expiresAt < w.now)
      (responds : ∀ t, s' ≠ .respond t)

theorem exec_next {sid : SessionID} {d : Draw} {s s' : Session} (h : (w.exec E sid d s).2 = some s') :
    Next E w s s' := by
  cases s with
  | loginUser | user | close =>
    simp only [World.exec] at h
    split at h
    · cases h; exact .same rfl rfl (by simp)
    · cases h
  | loginIssue userID =>
    simp only [World.exec] at h
    split at h <;> cases h
  | lookup token =>
    simp only [World.exec] at h
    split at h
    · cases h
    rename_i t hrow
    split at h
    · cases h
      exact .found token t rfl hrow rfl (by simp [Session.token]) (by simp)
    rename_i hlive
    split at h
    · cases h
    rename_i hexp
    cases h
    refine .found token t rfl hrow rfl (fun t' ht' => ?_) (by simp)
    cases ht'
    exact ⟨rfl, by simpa using hlive, hexp⟩
  | revokeAll | respond | closeRevoke => cases h
  | issue t =>
    simp only [World.exec] at h
    split at h
    · cases h
    · cases h; exact .same rfl rfl (by simp)
  | revoke t newTokenID =>
    cases h
    exact .same rfl rfl fun t' ht' => by cases ht'; exact ⟨newTokenID, rfl⟩

/-! ## The condition -/

/-- The condition on the next statement of a session. -/
def AloneAt (E : Env) (w : World) : Option Session → Prop
  | some (.lookup token) =>
    ∀ t ∈ getRefreshTokenByHash w.tokens (E.hashToken token), ∀ x ∈ w.sessions.entries,
      x.2.refreshes ≠ some t.userID
  | some (.revokeAll userID) => ∀ t ∈ w.tokens, t.userID = userID → t.revokedAt = none → t.expiresAt ≠ w.now
  | _ => True

/-- **No two `Refresh` calls of one user overlap**: at the lookup of one, no other has read a
token of the user and not returned. And a replay response does not meet a live token of the
user that expires at that very instant. -/
def Alone (E : Env) (w : World) : Event → Prop
  | .advance sid _ => AloneAt E w (w.sessions.lookup sid)
  | _ => True

instance (E : Env) (w : World) (s : Option Session) : Decidable (AloneAt E w s) := by
  unfold AloneAt
  split <;> infer_instance

instance (E : Env) (w : World) (e : Event) : Decidable (Alone E w e) := by
  unfold Alone
  split <;> infer_instance

/-- A step redeems at most a token that is not redeemed yet and that no replay response ended. -/
def Once (w w' : World) : Prop := ∀ id, w'.redeemed = w.redeemed ++ [id] → id ∉ w.redeemed ∧ id ∉ w.ended

theorem Once.of_same (h : w'.redeemed = w.redeemed) : Once w w' := fun id hid => by
  rw [h] at hid
  simp at hid

section

variable {sid : SessionID} {s : Session} {d : Draw}

/-- A call that goes on, with nothing to record. -/
theorem next_ok (h : OK w) (hs : w.sessions.lookup sid = some s) (ha : Alone E w (.advance sid d)) :
    OK ((w.exec E sid d s).1.set sid (w.exec E sid d s).2) := by
  have hx := exec_executes (E := E) w sid d s
  have hw := h.executes hx
  cases hn : (w.exec E sid d s).2 with
  | none => exact hw.drop sid
  | some s' =>
    cases exec_next hn with
    | same hrefreshes htoken hresp =>
      refine hw.put (fun sid' s₁ u hne hs₁ hu hu₁ => ?_) (fun t ht => ?_) fun t ht => ?_
      · rw [hx.sessions] at hs₁
        exact hne (h.single sid' sid s₁ s u hs₁ hs hu₁ (hrefreshes ▸ hu))
      · have hs' : (w.exec E sid d s).1.sessions.lookup sid = some s := hx.sessions ▸ hs
        exact ⟨hw.row sid s t hs' (htoken ▸ ht), hw.live sid s t hs' (htoken ▸ ht)⟩
      · -- the revocation has just been executed
        obtain ⟨n, rfl⟩ := hresp t ht
        obtain ⟨row, hmem, hid, -⟩ := h.row sid _ t hs rfl
        exact revoke_revokes hmem hid
    | found token t hlookup hrow hrefreshes hlive hresp =>
      subst hlookup
      have hmem : t ∈ w.tokens := List.mem_of_find?_eq_some hrow
      simp only [Alone, hs, AloneAt] at ha
      refine hw.put (fun sid' s₁ u hne hs₁ hu hu₁ => ?_) (fun t' ht' => ?_) fun t' ht' => absurd ht' (hresp t')
      · rw [hx.sessions] at hs₁
        cases hrefreshes.symm.trans hu
        exact ha t hrow ⟨sid', s₁⟩ (AList.mem_lookup_iff.1 hs₁) hu₁
      · obtain ⟨rfl, hnone, hexp⟩ := hlive t' ht'
        -- a row that is live and not expired is neither redeemed nor ended
        have hself : HasRow w.tokens t'.id (· = t') := ⟨t', hmem, rfl, rfl⟩
        refine ⟨?_, fun hred => ?_, fun hend => ?_⟩
        · exact HasRow.mono (P := (· = t')) hself hx.written.later fun a b hl hab => hab ▸ hl.userID
        · obtain ⟨_, rfl, hr⟩ := hself.unique h.ids (h.redeemed _ (hx.redeemed ▸ hred))
          simp [hnone] at hr
        · obtain ⟨_, rfl, hr⟩ := hself.unique h.ids (h.ended _ (hx.ended h.late ▸ hend))
          simp [hnone, hexp] at hr

/-- The session that is left is another one. -/
theorem ne_of_lookup_erase {sid' : SessionID} {s' : Session} (h : (w.sessions.erase sid).lookup sid' = some s') :
    sid' ≠ sid ∧ w.sessions.lookup sid' = some s' := by
  by_cases heq : sid' = sid
  · subst heq
    rw [AList.lookup_erase] at h
    cases h
  · rw [AList.lookup_erase_ne heq] at h
    exact ⟨heq, h⟩

theorem respond_ok (h : OK w) (hs : w.sessions.lookup sid = some (.respond t)) :
    OK (World.set { w with redeemed := w.redeemed ++ [t.id] } sid none) := by
  obtain ⟨hred, -⟩ := h.live sid _ t hs rfl
  have hdrop := h.drop sid
  exact {
    ids := hdrop.ids
    single := hdrop.single
    row := hdrop.row
    live := fun sid' s' t' hs' ht' => by
      obtain ⟨hold, hend⟩ := hdrop.live sid' s' t' hs' ht'
      obtain ⟨hne, hlookup⟩ := ne_of_lookup_erase hs'
      refine ⟨fun hmem => ?_, hend⟩
      rcases List.mem_append.1 hmem with hmem | hmem
      · exact hold hmem
      · -- another call with this token would be one of the same user
        have hid : t'.id = t.id := by simpa using hmem
        obtain ⟨_, hu, hu'⟩ := (h.row sid _ t hs rfl).unique h.ids (hid ▸ h.row sid' s' t' hlookup ht')
        refine hne (h.single sid' sid s' _ t.userID hlookup hs ?_ rfl)
        rw [Session.refreshes_of_token ht', ← hu', hu]
    responds := hdrop.responds
    redeemed := fun id hid => by
      rcases List.mem_append.1 hid with hid | hid
      · exact hdrop.redeemed id hid
      · rw [List.mem_singleton.1 hid]
        exact h.responds sid t hs
    ended := hdrop.ended
    nodup := List.nodup_append_comm.1 (List.nodup_cons.2 ⟨hred, h.nodup⟩)
    late := hdrop.late }

theorem revokeAll_ok (h : OK w) (hs : w.sessions.lookup sid = some (.revokeAll userID))
    (hnow : ∀ t ∈ w.tokens, t.userID = userID → t.revokedAt = none → t.expiresAt ≠ w.now) :
    OK (World.set (World.record (w.exec E sid d (.revokeAll userID)).1 (.revokeAll userID)) sid none) := by
  have hx := exec_executes (E := E) w sid d (.revokeAll userID)
  have hdrop := (h.executes hx).drop sid
  exact {
    ids := hdrop.ids
    single := hdrop.single
    row := hdrop.row
    live := fun sid' s' t' hs' ht' => by
      obtain ⟨hred, hold⟩ := hdrop.live sid' s' t' hs' ht'
      obtain ⟨hne, hlookup⟩ := ne_of_lookup_erase hs'
      refine ⟨hred, fun hmem => ?_⟩
      rcases List.mem_append.1 hmem with hmem | hmem
      · exact hold hmem
      · -- another call with a token of the user would overlap this one
        obtain ⟨t, ht, hid⟩ := List.mem_map.1 hmem
        obtain ⟨htok, hu⟩ := List.mem_filter.1 ht
        have hu : t.userID = userID := by simpa using hu
        obtain ⟨_, heq, hu'⟩ := HasRow.unique (P := (· = t)) hdrop.ids ⟨t, htok, hid, rfl⟩
          (hdrop.row sid' s' t' hs' ht')
        refine hne (h.single sid' sid s' _ userID hlookup hs ?_ rfl)
        rw [Session.refreshes_of_token ht', ← hu', heq, hu]
    responds := hdrop.responds
    redeemed := hdrop.redeemed
    ended := fun id hid => by
      rcases List.mem_append.1 hid with hid | hid
      · exact hdrop.ended id hid
      · obtain ⟨t, ht, rfl⟩ := List.mem_map.1 hid
        obtain ⟨htok, hu⟩ := List.mem_filter.1 ht
        exact ⟨t, htok, rfl, revokeAll_ends hnow htok (by simpa using hu)⟩
    nodup := hdrop.nodup
    late := by
      simp only [World.set, World.record, World.exec, h.late, List.nil_append, List.filter_eq_nil_iff,
        World.inProgress]
      intro sid' hmem
      obtain ⟨x, hx, rfl⟩ := List.mem_map.1 hmem
      obtain ⟨hentry, hu⟩ := List.mem_filter.1 hx
      -- the only call of the user is this one
      have heq := h.single x.1 sid x.2 _ userID (AList.mem_lookup_iff.2 hentry) hs (by simpa using hu) rfl
      simp [heq] }

theorem advance_ok (h : OK w) (ha : Alone E w (.advance sid d)) :
    OK (w.step E (.advance sid d)) ∧ Once w (w.step E (.advance sid d)) := by
  simp only [World.step]
  split
  · exact ⟨h, .of_same rfl⟩
  rename_i s hs
  have hx := exec_executes (E := E) w sid d s
  have hsame : ∀ next, (World.set (w.exec E sid d s).1 sid next).redeemed = w.redeemed := by
    intro next
    cases next <;> exact hx.redeemed
  cases s with
  | respond t =>
    refine ⟨respond_ok h hs, fun id hid => ?_⟩
    have hid : t.id = id := by simpa [World.set, World.record, World.exec] using hid
    exact hid ▸ h.live sid _ t hs rfl
  | revokeAll userID =>
    simp only [Alone, hs, AloneAt] at ha
    exact ⟨revokeAll_ok h hs ha, .of_same (hsame none)⟩
  | _ => exact ⟨next_ok h hs ha, .of_same (hsame _)⟩

/-- **Every step keeps the invariant and redeems at most a token that may be.** -/
theorem step_ok (h : OK w) {e : Event} (ha : Alone E w e) :
    OK (w.step E e) ∧ Once w (w.step E e) := by
  cases e with
  | start sid c =>
    simp only [World.step]
    split
    · exact ⟨h, .of_same rfl⟩
    refine ⟨h.put ?_ ?_ ?_, .of_same rfl⟩ <;> cases c <;> simp [Call.session, Session.refreshes, Session.token]
  | advance sid d => exact advance_ok h ha
  | fault sid d took =>
    simp only [World.step]
    split
    · exact ⟨h, .of_same rfl⟩
    rename_i s hs
    have hx := exec_executes (E := E) w sid d s
    cases took with
    | false => exact ⟨h.drop sid, .of_same rfl⟩
    | true => exact ⟨(h.executes hx).drop sid, .of_same hx.redeemed⟩
  | crash sid => exact ⟨h.drop sid, .of_same rfl⟩
  | setStatus userID status =>
    exact ⟨h.executes ⟨rfl, rfl, rfl, fun _ => rfl, rfl, .refl _⟩, .of_same rfl⟩
  | tick d =>
    refine ⟨{ h with ended := fun id hid => ?_ }, .of_same rfl⟩
    refine (h.ended id hid).mono (.refl _) fun t t' hl ht => ?_
    rw [hl.expiresAt]
    exact ht.imp hl.revoked fun hexp => Nat.lt_add_right d hexp

end

theorem idle_ok {now : ℕ} (h : (tokens.map RefreshToken.id).Nodup) :
    OK (.idle now users tokens) where
  ids := h
  single _ _ _ _ _ hs := nomatch hs
  row _ _ _ hs := nomatch hs
  live _ _ _ hs := nomatch hs
  responds _ _ hs := nomatch hs
  redeemed _ hid := nomatch hid
  ended _ hid := nomatch hid
  nodup := .nil
  late := rfl

/-- **A refresh token works once and a replay ends the family**, in every run in which no two
`Refresh` calls of one user overlap and no replay response meets the expiry of a token. -/
theorem redeemed_once {now : ℕ} {users : UUID → Option UserStatus}
    (hids : (tokens.map RefreshToken.id).Nodup) {es : List Event}
    (hes : Along (World.step E) (Alone E) (.idle now users tokens) es) :
    (run (World.step E) (.idle now users tokens) es).redeemed.Nodup ∧
      Along (World.step E) (fun w e => Once w (w.step E e)) (.idle now users tokens) es :=
  ⟨(run_inv_of_along (I := OK) (fun _ _ hw ha => (step_ok hw ha).1) (idle_ok hids) hes).nodup,
    Along.of_inv (I := OK) (fun _ _ hw ha => (step_ok hw ha).1) (fun _ _ hw ha => (step_ok hw ha).2)
      (idle_ok hids) hes⟩

/-! ## Runs of one user -/

namespace Sample

/-- Tokens stand for themselves. -/
def env : Env := ⟨fun token => token, 100⟩

/-- User 1 with the token `a`. -/
def start : World :=
  .idle 0 (fun id => if id = 1 then some .active else none) [⟨1, 1, "a", 100, none, none⟩]

/-- A call of `Refresh` up to the issue of its next token. -/
def upToIssue (sid : SessionID) (token : String) : List Event :=
  [.start sid (.refresh token), .advance sid ⟨0, ""⟩, .advance sid ⟨0, ""⟩]

/-- The issue, the revocation and the answer. -/
def fromIssue (sid : SessionID) (d : Draw) : List Event := [.advance sid d, .advance sid d, .advance sid d]

end Sample

set_option maxRecDepth 20000 in
/-- One call after the other: the token, then its successor. -/
theorem redeemed_once_in_turn :
    (run (World.step Sample.env) Sample.start (Sample.upToIssue 0 "a" ++ Sample.fromIssue 0 ⟨2, "b"⟩ ++
      Sample.upToIssue 0 "b" ++ Sample.fromIssue 0 ⟨3, "c"⟩)).redeemed = [1, 2] ∧
    (run (World.step Sample.env) Sample.start (Sample.upToIssue 0 "a" ++ Sample.fromIssue 0 ⟨2, "b"⟩ ++
      Sample.upToIssue 0 "b" ++ Sample.fromIssue 0 ⟨3, "c"⟩)).redeemed.Nodup := by
  refine ⟨by decide +kernel, (redeemed_once (E := Sample.env) (by decide) ?_).1⟩
  decide +kernel

/-- Two calls with the token `a` that overlap. -/
def overlapping : List Event :=
  Sample.upToIssue 0 "a" ++ Sample.upToIssue 1 "a" ++ Sample.fromIssue 0 ⟨2, "b"⟩ ++ Sample.fromIssue 1 ⟨3, "c"⟩

/-- While the first call is about to issue its token, a second one redeems `a` and a third
one presents it again; only then the first goes on, and its new token is presented. -/
def outlived : List Event :=
  Sample.upToIssue 0 "a" ++ Sample.upToIssue 1 "a" ++ Sample.fromIssue 1 ⟨2, "b"⟩ ++ Sample.upToIssue 2 "a" ++
    Sample.fromIssue 0 ⟨3, "c"⟩ ++ Sample.upToIssue 3 "c" ++ [.advance 3 ⟨4, "d"⟩, .advance 3 ⟨4, "d"⟩]

set_option maxRecDepth 20000 in
/-- **Overlapping calls redeem one token twice, and a token issued during the replay response
is redeemed after it.** -/
theorem concurrent_refresh :
    (run (World.step Sample.env) Sample.start overlapping).redeemed = [1, 1] ∧
      (run (World.step Sample.env) Sample.start outlived).ended = [1, 2, 3] ∧
      (run (World.step Sample.env) Sample.start outlived).redeemed = [1, 1] ∧
      ((run (World.step Sample.env) Sample.start outlived).step Sample.env (.advance 3 ⟨4, "d"⟩)).redeemed =
        [1, 1, 3] := by
  decide +kernel

end Seev.Auth
