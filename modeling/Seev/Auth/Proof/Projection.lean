import Seev.Auth.Projection
import Seev.Lib.Slots

/-!
# The ledger follows the identity source

An operation that changes the user has to push the change before any other reads or pushes; the KYC decisions push
`active` whatever the user's status is, and the end of a closure pushes nothing.

* `Inv.work`: a statement of an operation keeps the pushes that are left up to date.
* `row_follows_user`: in every run whose changes are alone, KYC decisions are about active users, and no
  closure is finalized, the row equals the user whenever nothing is in flight.
-/

namespace Seev.Auth.Projection

open Lib

variable {w : World} {user : Subject} {row : Option Subject} {pc : Pc} {op : Operation} {k : ℕ} {ok : Bool}

def Pc.inFlight : Pc → Bool
  | .returned => false
  | _ => true

/-- The operations beside `Login`. -/
def Operation.changes : Operation → Bool
  | .login => false
  | _ => true

def Operation.decidesKYC : Operation → Bool
  | .approveSubmission _ _ | .syncApprovedKYCExecutionSubject _ | .downgradeKYC _ => true
  | .login | .requestClosure => false

/-- An operation that has not come to its last decision about the user. -/
def Pc.changing : Pc → Bool
  | .start op => op.changes
  | .downgradeKYCLevel _ | .insertClosure _ => true
  | .provisionUser _ | .setExecutionSubjectState _ _ | .returned => false

/-- Only the last push of an operation is left. -/
def Pc.pushing : Pc → Bool
  | .setExecutionSubjectState _ [] => true
  | _ => false

/-! ## One statement -/

/-- What an operation has read and decided is up to date. -/
def Pc.Fits (user : Subject) : Pc → Prop
  | .start op => op.decidesKYC = true → user.status = .active
  | .provisionUser u => u = user
  | .downgradeKYCLevel _ => user.status = .active
  | .insertClosure u => u = user
  | .setExecutionSubjectState s [] => s = user
  | .setExecutionSubjectState _ rest => rest = [user]
  | .returned => True

theorem exec_fits (h : pc.Fits user) : (exec ok user row pc).1.Fits (exec ok user row pc).2.1 := by
  cases pc with
  | start op =>
    cases op with
    | login | requestClosure =>
      simp only [exec]
      split
      · rfl
      · trivial
    | approveSubmission level validUntil =>
      have hst : user.status = .active := h rfl
      simp only [exec]
      split
      · simp [Pc.Fits, hst]
      · trivial
    | syncApprovedKYCExecutionSubject level =>
      have hst : user.status = .active := h rfl
      simp only [exec]
      split
      · trivial
      · rename_i hne
        obtain ⟨hlevel, -⟩ := not_or.1 hne
        rw [← not_not.1 hlevel, ← hst]
        rfl
    | downgradeKYC level =>
      have hst : user.status = .active := h rfl
      simp only [exec]
      split
      · exact hst
      · trivial
  | provisionUser u =>
    obtain rfl : u = user := h
    simp only [exec]
    split
    · rfl
    · rfl
  | downgradeKYCLevel level =>
    have hst : user.status = .active := h
    simp only [exec]
    split
    · simp [Pc.Fits, hst]
    · trivial
  | insertClosure u =>
    obtain rfl : u = user := h
    simp only [exec]
    split
    · rfl
    · trivial
  | setExecutionSubjectState s rest =>
    cases rest with
    | nil => trivial
    | cons next rest =>
      obtain ⟨rfl, rfl⟩ := List.cons.inj h
      rfl
  | returned => trivial

/-- Only an operation that has not decided yet changes the user. -/
theorem exec_user (h : pc.changing = false) : (exec ok user row pc).2.1 = user := by
  cases pc with
  | start op =>
    cases op with
    | login =>
      simp only [exec]
      split <;> rfl
    | _ => cases h
  | provisionUser u =>
    simp only [exec]
    split <;> rfl
  | downgradeKYCLevel _ | insertClosure _ => cases h
  | setExecutionSubjectState s rest => cases rest <;> rfl
  | returned => rfl

theorem exec_changing (h : (exec ok user row pc).1.changing = true) : pc.changing = true := by
  by_contra hc
  cases pc with
  | start op =>
    cases op with
    | login =>
      simp only [exec] at h
      split at h <;> cases h
    | _ => exact hc rfl
  | provisionUser u =>
    simp only [exec] at h
    split at h <;> cases h
  | downgradeKYCLevel _ | insertClosure _ => exact hc rfl
  | setExecutionSubjectState s rest => cases rest <;> cases h
  | returned => cases h

/-- Where an operation has no push left that it began, the row is up to date if it was before, or the push was its
last. -/
theorem exec_row (hfits : pc.Fits user) (h : pc.pushing = false → row = some user) :
    (exec ok user row pc).1.pushing = false → (exec ok user row pc).2.2 = some (exec ok user row pc).2.1 := by
  cases pc with
  | start op =>
    have hrow := h rfl
    cases op <;> simp only [exec] <;> split <;> intro hpush <;> first
      | exact hrow
      | cases hpush
  | provisionUser u =>
    have hrow := h rfl
    simp only [exec]
    split
    · simp [hrow]
    · intro hpush
      cases hpush
  | downgradeKYCLevel | insertClosure =>
    simp only [exec]
    split
    · intro hpush
      cases hpush
    · exact fun _ => h rfl
  | setExecutionSubjectState s rest =>
    cases rest with
    | nil =>
      obtain rfl : s = user := hfits
      exact fun _ => rfl
    | cons next rest =>
      obtain ⟨rfl, rfl⟩ := List.cons.inj hfits
      intro hpush
      cases hpush
  | returned => exact fun _ => h rfl

/-! ## Runs -/

/-- A KYC decision or a closure request starts while nothing is in flight, and a KYC decision about an active
user; a login starts while no such operation has still to decide; and no closure is finalized. -/
def Apart (w : World) : Event → Prop
  | .start op =>
    (op.changes = true → ∀ pc ∈ w.operations, pc.inFlight = false) ∧
      (∀ pc ∈ w.operations, pc.changing = false) ∧ (op.decidesKYC = true → w.user.status = .active)
  | .work _ _ => True
  | .closureStepFinalize => False

instance (w : World) (e : Event) : Decidable (Apart w e) :=
  match e with
  | .start _ => inferInstanceAs (Decidable (_ ∧ _ ∧ _))
  | .work _ _ => .isTrue trivial
  | .closureStepFinalize => .isFalse id

structure Inv (w : World) : Prop where
  fits : ∀ pc ∈ w.operations, pc.Fits w.user
  alone : ∀ (j k : ℕ) a b, w.operations[j]? = some a → w.operations[k]? = some b → a.changing = true →
    b.inFlight = true → j = k
  row : (∀ pc ∈ w.operations, pc.pushing = false) → w.row = some w.user

theorem Pc.not_inFlight (h : pc.inFlight = false) : pc = .returned := by
  cases pc <;> first | rfl | cases h

theorem Inv.start (h : Inv w) (he : Apart w (.start op)) : Inv (w.step (.start op)) := by
  obtain ⟨hnone, hchanging, hkyc⟩ := he
  refine ⟨forall_start h.fits hkyc, fun j k a b ha hb hca hfb => ?_, fun hpush => h.row fun pc hpc => ?_⟩
  · rcases slot_of_concat ha with ha | ⟨hj, rfl⟩
    · rw [hchanging a (List.mem_of_getElem? ha)] at hca
      cases hca
    · rcases slot_of_concat hb with hb | ⟨hk, -⟩
      · rw [hnone hca b (List.mem_of_getElem? hb)] at hfb
        cases hfb
      · rw [hj, hk]
  · exact hpush pc (List.mem_append_left _ hpc)

theorem exec_inFlight (h : (exec ok user row pc).1.inFlight = true) : pc.inFlight = true := by
  cases pc <;> first | rfl | cases h

theorem Inv.work (h : Inv w) (hk : w.operations[k]? = some pc) :
    Inv ⟨(exec ok w.user w.row pc).2.1, (exec ok w.user w.row pc).2.2,
      w.operations.set k (exec ok w.user w.row pc).1⟩ := by
  have hmem := List.mem_of_getElem? hk
  have hfits := h.fits pc hmem
  -- the other operations have returned, or the user stays as it is
  have hothers : ∀ (j : ℕ) a, w.operations[j]? = some a → j ≠ k → a.Fits (exec ok w.user w.row pc).2.1 := by
    intro j a ha hjk
    by_cases hc : pc.changing = true
    · have hret : a.inFlight = false := by
        by_contra hf
        exact hjk (h.alone k j pc a hk ha hc (by simpa using hf)).symm
      rw [Pc.not_inFlight hret]
      trivial
    · rw [exec_user (by simpa using hc)]
      exact h.fits a (List.mem_of_getElem? ha)
  refine ⟨fun a ha => ?_, fun i j a b ha hb hca hfb => ?_, fun hpush => ?_⟩
  · obtain ⟨j, hj⟩ := List.mem_iff_getElem?.mp ha
    rcases slot_of_set hj with ⟨-, rfl⟩ | ⟨hjk, hold⟩
    · exact exec_fits hfits
    · exact hothers j a hold hjk
  · have hold : ∀ {i : ℕ} {a : Pc}, (w.operations.set k (exec ok w.user w.row pc).1)[i]? = some a →
        ∃ a', w.operations[i]? = some a' ∧ (a.changing = true → a'.changing = true) ∧
          (a.inFlight = true → a'.inFlight = true) := by
      intro i a ha
      rcases slot_of_set ha with ⟨rfl, rfl⟩ | ⟨-, hold⟩
      · exact ⟨pc, hk, exec_changing, exec_inFlight⟩
      · exact ⟨a, hold, id, id⟩
    obtain ⟨a', ha', hca', -⟩ := hold ha
    obtain ⟨b', hb', -, hfb'⟩ := hold hb
    exact h.alone i j a' b' ha' hb' (hca' hca) (hfb' hfb)
  · refine exec_row hfits (fun hpc => h.row fun a ha => ?_) (hpush _ (mem_set_self hk))
    by_cases hne : a = pc
    · rw [hne, hpc]
    · exact hpush a (mem_set_of_ne hk ha hne)

/-- **The ledger's row equals the user whenever no operation is in flight**, in every run in which the
operations that change the user are apart from the others, KYC decisions are about active users, and no
closure is finalized. -/
theorem row_follows_user (user : Subject) (es : List Event) (hes : Along World.step Apart (.synced user) es) :
    let w := run World.step (.synced user) es
    (∀ pc ∈ w.operations, pc.inFlight = false) → w.row = some w.user := by
  intro w hquiet
  have hsynced : Inv (.synced user) :=
    ⟨fun pc hpc => absurd hpc List.not_mem_nil, fun j k a b ha => by simp [World.synced] at ha, fun _ => rfl⟩
  have hinv : Inv w := by
    refine run_inv_of_along (I := Inv) (fun w e hw he => ?_) hsynced hes
    cases e with
    | start op => exact hw.start he
    | work k ok =>
      simp only [World.step]
      cases hk : w.operations[k]? with
      | none => exact hw
      | some pc => exact hw.work hk
    | closureStepFinalize => exact absurd he id
  refine hinv.row fun pc hpc => ?_
  rw [Pc.not_inFlight (hquiet pc hpc)]
  rfl

/-! ## Rows that do not follow -/

namespace Sample

/-- The next `n` statements of the operation `k`. -/
def works (k n : ℕ) : List Event := List.replicate n (.work k true)

def verified : Subject := ⟨.active, 1, some 100⟩

/-- Two logins overlap, and then the user asks for closure. -/
def loginsThenClosure : List Event :=
  [.start .login, .start .login] ++ works 0 2 ++ works 1 4 ++ works 0 2 ++ [.start .requestClosure] ++ works 2 3

/-- The verification of a user who is closing expires. -/
def expiry : World :=
  run World.step (.synced verified)
    ([.start .requestClosure] ++ works 0 3 ++ [.start (.downgradeKYC 0)] ++ works 1 3)

/-- A login that has read the user pushes after the closure. -/
def overtaken : World :=
  run World.step (.synced verified)
    ([.start .login, .work 0 true, .start .requestClosure] ++ works 1 3 ++ works 0 3)

/-- A closure is finalized. -/
def finalized : World :=
  run World.step (.synced verified) ([.start .requestClosure] ++ works 0 3 ++ [.closureStepFinalize])

end Sample

theorem row_follows_user_closing :
    Along World.step Apart (.synced Sample.verified) Sample.loginsThenClosure ∧
      (run World.step (.synced Sample.verified) Sample.loginsThenClosure).row = some ⟨.closing, 1, some 100⟩ := by
  have hapart : Along World.step Apart (.synced Sample.verified) Sample.loginsThenClosure := by decide +kernel
  refine ⟨hapart, ?_⟩
  rw [row_follows_user Sample.verified Sample.loginsThenClosure hapart (by decide +kernel)]
  decide +kernel

/-- **A closing user is active in the ledger**, after an expiry and after a login that it overtook; and a
closed user is closing there. -/
theorem row_does_not_follow :
    (∀ w ∈ [Sample.expiry, Sample.overtaken, Sample.finalized], ∀ pc ∈ w.operations, pc.inFlight = false) ∧
      (Sample.expiry.user.status = .closing ∧ Sample.expiry.row = some ⟨.active, 0, none⟩) ∧
      (Sample.overtaken.user.status = .closing ∧ Sample.overtaken.row = some ⟨.active, 1, some 100⟩) ∧
      Sample.finalized.user.status = .closed ∧ Sample.finalized.row = some ⟨.closing, 1, some 100⟩ := by
  decide +kernel

end Seev.Auth.Projection
