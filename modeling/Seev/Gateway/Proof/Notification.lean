import Seev.Gateway.Notification
import Seev.Lib.Slots
import Seev.Lib.Result

/-!
# External deliveries end

A row that is not `processing` can be claimed again as soon as its times have passed, so that a delivery is
lost only where a worker leaves it `processing`. No statement reclaims such a row, and a worker that has
called the provider leaves it: the record of the attempt is refused.

* `never_delivered`: no run delivers.
* `delivery_settles`: with workers that never stop at a row they hold and a provider that accepts nothing, each
  delivery that no worker is at ends or is claimed again.
-/

namespace Seev.Gateway.Notification

open Lib

variable {w : World} {r : Row} {p : Worker} {k now : ℕ} {f : Findings} {result : ProviderResult} {owner : String}

/-! ## Rows -/

def Row.ended (r : Row) : Bool :=
  r.status = .delivered ∨ r.status = .suppressed ∨ r.status = .dead ∨ r.status = .blocked ∨ r.status = .cancelled

/-- The row is `processing` under the lease of `owner`. -/
def Row.HeldBy (r : Row) (owner : String) : Prop := r.status = .processing ∧ r.leaseOwner = some owner

instance : Decidable (r.HeldBy owner) := inferInstanceAs (Decidable (_ ∧ _))

/-- The only rows that are lost are those in `processing`. -/
theorem Row.claimed_later (hended : r.ended = false) (hst : r.status ≠ .processing) :
    ∃ t, ∀ t' ≥ t, r.claimDue t' = true := by
  refine ⟨r.nextAttemptAt.getD 0 + r.leaseExpiresAt.getD 0 + 1, fun t ht => ?_⟩
  have hnext : r.nextAttemptAt.all (· ≤ t) = true := by
    cases hn : r.nextAttemptAt with
    | none => rfl
    | some n =>
      rw [hn, Option.getD_some] at ht
      have hle : n ≤ t := by omega
      simpa using hle
  have hlease : r.leaseExpiresAt.all (· < t) = true := by
    cases hl : r.leaseExpiresAt with
    | none => rfl
    | some n =>
      rw [hl, Option.getD_some] at ht
      have hlt : n < t := by omega
      simpa using hlt
  have hstatus : r.status = .pendingRecipient ∨ r.status = .scheduled ∨ r.status = .retryWait := by
    cases hs : r.status <;> simp_all [Row.ended]
  unfold Row.claimDue
  exact decide_eq_true ⟨hstatus, hnext, hlease⟩

theorem Row.write_status (h : r.leaseOwner = some owner) (x : Write) :
    (r.write owner x).status ≠ .processing := by
  unfold Row.write
  rw [if_pos h]
  cases x <;> simp

theorem Row.write_other (h : r.leaseOwner ≠ some owner) (x : Write) : r.write owner x = r := if_neg h

theorem Row.snapshot_status (h : r.leaseOwner = some owner) :
    (r.setRecipientSnapshot now owner).status ≠ .processing := by
  unfold Row.setRecipientSnapshot
  rw [if_pos h]
  simp

theorem Row.snapshot_other (h : r.leaseOwner ≠ some owner) : r.setRecipientSnapshot now owner = r := if_neg h

/-- No statement of a pass makes a row `processing`, and one that leaves it so has not touched it. -/
theorem exec_row (h : (exec now r f result p).2.status = .processing) : (exec now r f result p).2 = r := by
  unfold exec at h ⊢
  cases hpc : p.pc with
  | setRecipientSnapshot =>
    simp only [hpc] at h ⊢
    by_cases hown : r.leaseOwner = some p.owner
    · exact absurd h (Row.snapshot_status hown)
    · exact Row.snapshot_other hown
  | write x =>
    simp only [hpc] at h ⊢
    by_cases hown : r.leaseOwner = some p.owner
    · exact absurd h (Row.write_status hown x)
    · exact Row.write_other hown x
  | _ => rfl

/-! ## Workers -/

/-- A worker that has statements left. -/
def Pc.active : Pc → Bool
  | .returned | .stopped => false
  | _ => true

def Pc.recording : Pc → Bool
  | .insertAttempt _ => true
  | _ => false

theorem Pc.next_active {pc : Pc} (h : pc.active = true) (c : Except Write Unit) : (pc.next c).active = true := by
  cases c with
  | ok _ => exact h
  | error _ => rfl

theorem prepare_active : (prepare now r f).active = true := by
  unfold prepare
  split
  · split
    · exact Pc.next_active rfl _
    · exact Pc.next_active rfl _
  · exact Pc.next_active rfl _

theorem exec_owner : (exec now r f result p).1.owner = p.owner := by
  unfold exec
  split <;> rfl

/-- A pass goes on while its row is `processing` under its lease, but for the record of the attempt. -/
theorem exec_active (hp : p.pc.active = true) (hrec : p.pc.recording = false) (hheld : r.HeldBy p.owner)
    (hst : (exec now r f result p).2.status = .processing) : (exec now r f result p).1.pc.active = true := by
  unfold exec at hst ⊢
  cases hpc : p.pc with
  | start => exact prepare_active
  | setRecipientSnapshot =>
    simp only [hpc] at hst
    exact absurd hst (Row.snapshot_status hheld.2)
  | send => rfl
  | insertAttempt answer =>
    rw [hpc] at hrec
    cases hrec
  | write x =>
    simp only [hpc] at hst
    exact absurd hst (Row.write_status hheld.2 x)
  | returned | stopped =>
    rw [hpc] at hp
    cases hp

/-- A pass has an accepted send only from the provider. -/
theorem exec_accepted (h : (exec now r f result p).1.accepted = true) :
    p.accepted = true ∨ p.pc = .send ∧ result.accepted = true := by
  unfold exec at h
  cases hpc : p.pc with
  | send =>
    simp only [hpc] at h
    exact .inr ⟨rfl, h⟩
  | _ =>
    simp only [hpc] at h
    exact .inl h

/-! ## Runs -/

/-- The provider accepts no send; and no worker that holds the row stops, or records an attempt. -/
def Unlost (w : World) : Event → Prop
  | .work k _ result => ∀ p ∈ w.workers[k]?, (p.pc = .send → result.accepted = false) ∧
      (p.pc.recording = true → ¬ w.row.HeldBy p.owner)
  | .stop k => ∀ p ∈ w.workers[k]?, p.pc.active = true → ¬ w.row.HeldBy p.owner
  | _ => True

instance (w : World) (e : Event) : Decidable (Unlost w e) :=
  match e with
  | .work _ _ _ => inferInstanceAs (Decidable (∀ p ∈ _, _))
  | .stop _ => inferInstanceAs (Decidable (∀ p ∈ _, _))
  | .tick _ | .claimDue _ _ | .replayDelivery _ | .erase => .isTrue trivial

/-- A delivery that no worker is at ends or is claimed again; and a pass whose send the provider accepted
delivers, with the last send of the delivery. -/
structure Settles (w : World) : Prop where
  claimed : (∀ p ∈ w.workers, p.pc.active = false) → w.row.ended = false → ∃ t, ∀ t' ≥ t, w.row.claimDue t' = true
  delivered : ∀ k p, w.workers[k]? = some p → p.accepted = true → p.pc = .returned →
    w.row.status = .delivered ∧ w.sends.getLast? = some k

structure Attended (w : World) : Prop where
  held : w.row.status = .processing → ∃ p ∈ w.workers, p.pc.active = true ∧ w.row.leaseOwner = some p.owner
  refused : ∀ p ∈ w.workers, p.accepted = false

theorem Attended.settles (h : Attended w) : Settles w where
  claimed hover hended := by
    refine Row.claimed_later hended fun hst => ?_
    obtain ⟨p, hp, hactive, -⟩ := h.held hst
    rw [hover p hp] at hactive
    cases hactive
  delivered k p hp haccepted _ := by
    rw [h.refused p (List.mem_of_getElem? hp)] at haccepted
    cases haccepted

/-- The row after another write keeps its worker. -/
theorem Attended.of_row (h : Attended w) {row : Row}
    (hrow : row.status = .processing → w.row.status = .processing ∧ row.leaseOwner = w.row.leaseOwner) :
    Attended { w with row } where
  held hst := by
    obtain ⟨hold, hlease⟩ := hrow hst
    obtain ⟨p, hp, hactive, hown⟩ := h.held hold
    exact ⟨p, hp, hactive, hlease.trans hown⟩
  refused := h.refused

theorem Attended.work (h : Attended w) (hp : w.workers[k]? = some p) (he : Unlost w (.work k f result)) :
    Attended (w.step (.work k f result)) := by
  obtain ⟨hsend, hrec⟩ := he p hp
  have hmem : p ∈ w.workers := List.mem_of_getElem? hp
  simp only [World.step, hp]
  constructor
  · intro hst
    have hsame : (exec w.now w.row f result p).2 = w.row := exec_row hst
    have hold : w.row.status = .processing := hsame ▸ hst
    obtain ⟨q, hq, hactive, hown⟩ := h.held hold
    simp only [hsame]
    by_cases hqown : w.row.leaseOwner = some p.owner ∧ p.pc.active = true
    · -- the worker of the step is one that holds the row, and goes on
      have hnot : p.pc.recording = false := by
        by_contra hc
        exact hrec (by simpa using hc) ⟨hold, hqown.1⟩
      refine ⟨_, mem_set_self hp, exec_active hqown.2 hnot ⟨hold, hqown.1⟩ hst, ?_⟩
      rw [exec_owner]
      exact hqown.1
    · have hne : q ≠ p := fun heq => hqown ⟨heq ▸ hown, heq ▸ hactive⟩
      exact ⟨q, mem_set_of_ne hp hq hne, hactive, hown⟩
  · refine forall_step h.refused ?_
    by_contra hc
    rcases exec_accepted (by simpa using hc) with hacc | ⟨hpc, hacc⟩
    · rw [h.refused p hmem] at hacc
      cases hacc
    · rw [hsend hpc] at hacc
      cases hacc

theorem Attended.stop (h : Attended w) (hp : w.workers[k]? = some p) (he : Unlost w (.stop k)) :
    Attended { w with workers := w.workers.set k { p with pc := .stopped } } := by
  constructor
  · intro hst
    obtain ⟨q, hq, hactive, hown⟩ := h.held hst
    have hne : q ≠ p := fun heq => he p hp (heq ▸ hactive) ⟨hst, heq ▸ hown⟩
    exact ⟨q, mem_set_of_ne hp hq hne, hactive, hown⟩
  · have hrefused := h.refused p (List.mem_of_getElem? hp)
    exact forall_step h.refused hrefused

theorem Attended.step (h : Attended w) (e : Event) (he : Unlost w e) : Attended (w.step e) := by
  cases e with
  | tick micros => exact ⟨h.held, h.refused⟩
  | claimDue owner lease =>
    simp only [World.step]
    split
    · exact ⟨fun _ => ⟨_, List.mem_append_right _ (List.mem_singleton.2 rfl), rfl, rfl⟩,
        forall_start h.refused rfl⟩
    · exact h
  | work k f result =>
    cases hp : w.workers[k]? with
    | none =>
      simp only [World.step, hp]
      exact h
    | some p => exact h.work hp he
  | stop k =>
    cases hp : w.workers[k]? with
    | none =>
      simp only [World.step, hp]
      exact h
    | some p =>
      simp only [World.step, hp]
      split
      · exact h
      · exact h.stop hp he
  | replayDelivery next =>
    refine h.of_row fun hst => ?_
    unfold Row.replayDelivery at hst ⊢
    split at hst
    · cases hst
    · rw [if_neg ‹_›]
      exact ⟨hst, rfl⟩
  | erase => exact h.of_row fun hst => ⟨hst, rfl⟩

theorem attended_planned {c : Channel} {n e b : Bool} {due : ℕ} : Attended (.planned now c n e b due) := by
  refine ⟨fun hst => ?_, fun p hp => by cases hp⟩
  cases b <;> cases c <;> cases hst

/-- **External deliveries end**, in every run in which the provider accepts nothing and no worker stops at a
row that is `processing` under its lease: a delivery that no worker is at has ended, or `ClaimDue` returns it
from some time on. -/
theorem delivery_settles (now : ℕ) (channel : Channel) (notificationID endpointID blocked : Bool) (due : ℕ)
    (es : List Event)
    (hes : Along World.step Unlost (.planned now channel notificationID endpointID blocked due) es) :
    Settles (run World.step (.planned now channel notificationID endpointID blocked due) es) :=
  (run_inv_of_along (I := Attended) (fun _ e h he => h.step e he) attended_planned hes).settles

/-! ## No run delivers -/

/-- The checks that may end a pass do not deliver. -/
def NoFinish (c : Except Write Unit) : Prop := c ≠ .error .finishDelivery

theorem NoFinish.bind {c d : Except Write Unit} (hc : NoFinish c) (hd : NoFinish d) : NoFinish (do c; d) := by
  cases c with
  | ok _ => exact hd
  | error x => exact hc

theorem NoFinish.throws {x : Write} (hx : x ≠ .finishDelivery) : NoFinish (throw x) :=
  fun h => hx (Except.error.inj h)

/-- A check with more after it. -/
theorem NoFinish.guard {c : Prop} [Decidable c] {x : Write} {g : PUnit → Except Write Unit}
    (hx : x ≠ .finishDelivery)
    (hg : NoFinish (g .unit)) : NoFinish (if c then (throw x : Except Write PUnit) >>= g else g .unit) := by
  split
  · exact NoFinish.throws hx
  · exact hg

/-- The last check. -/
theorem NoFinish.last {c : Prop} [Decidable c] {x : Write} (hx : x ≠ .finishDelivery) :
    NoFinish (if c then throw x else pure ()) := by
  split
  · exact NoFinish.throws hx
  · exact nofun

theorem NoFinish.next {c : Except Write Unit} {pc : Pc} (h : NoFinish c) (hpc : pc ≠ .write .finishDelivery) :
    pc.next c ≠ .write .finishDelivery := by
  cases c with
  | ok _ => exact hpc
  | error x =>
    intro heq
    obtain rfl : x = .finishDelivery := Pc.write.inj heq
    exact h rfl

theorem retryOrDead_ne {code : String} : retryOrDead now r code ≠ .finishDelivery := by
  unfold retryOrDead
  split <;> simp

theorem checkAllowed_noFinish : NoFinish (checkAllowed now r f) := by
  unfold checkAllowed
  by_cases hn : r.notificationID = true
  · rw [if_pos hn]
    refine .guard (by simp) (.guard (by simp) ?_)
    cases f.mode with
    | none => exact .throws retryOrDead_ne
    | some mode =>
      cases mode with
      | immediate =>
        refine .guard retryOrDead_ne ?_
        cases f.nextAllowedTime with
        | none => exact .throws (by simp)
        | some due => exact .last (by simp)
      | _ => exact .throws (by simp)
  · rw [if_neg hn]
    refine .guard retryOrDead_ne ?_
    cases f.nextAllowedTime with
    | none => exact .throws (by simp)
    | some due => exact .last (by simp)

theorem resolveRecipient_noFinish : NoFinish (resolveRecipient now r f) := by
  unfold resolveRecipient
  refine .guard retryOrDead_ne ?_
  cases f.contact with
  | none => exact .throws retryOrDead_ne
  | some ok => exact .guard (by simp) (.guard (by simp) (.last retryOrDead_ne))

theorem openRecipient_noFinish : NoFinish (openRecipient f) := by
  unfold openRecipient
  exact .guard (by simp) (.last (by simp))

theorem openToken_noFinish : NoFinish (openToken r f) := by
  unfold openToken
  exact .guard (by simp) (.guard (by simp) (.guard (by simp) (.last (by simp))))

theorem prepare_ne : prepare now r f ≠ .write .finishDelivery := by
  unfold prepare
  split
  · split
    · exact (checkAllowed_noFinish.bind openRecipient_noFinish).next (by simp)
    · exact (checkAllowed_noFinish.bind resolveRecipient_noFinish).next (by simp)
  · exact (checkAllowed_noFinish.bind openToken_noFinish).next (by simp)

/-- No worker comes to the statement that finishes a delivery. -/
structure Undelivered (w : World) : Prop where
  status : w.row.status ≠ .delivered
  workers : ∀ p ∈ w.workers, p.pc ≠ .write .finishDelivery

theorem exec_ne : (exec now r f result p).1.pc ≠ .write .finishDelivery := by
  unfold exec
  cases hpc : p.pc with
  | start => exact prepare_ne
  | setRecipientSnapshot => exact openRecipient_noFinish.next (by simp)
  | insertAttempt answer => simp [insertAttempt, attemptColumns, attemptValues]
  | send | write _ => simp
  | returned | stopped => simp [hpc]

theorem exec_status (hp : p.pc ≠ .write .finishDelivery) (hr : r.status ≠ .delivered) :
    (exec now r f result p).2.status ≠ .delivered := by
  unfold exec
  cases hpc : p.pc with
  | setRecipientSnapshot =>
    simp only [Row.setRecipientSnapshot]
    split
    · simp
    · exact hr
  | write x =>
    simp only [Row.write]
    split
    · cases x with
      | finishDelivery => exact absurd hpc hp
      | retryDelivery | suppressDelivery | deadDelivery => simp
    · exact hr
  | _ => exact hr

theorem Undelivered.step (h : Undelivered w) (e : Event) : Undelivered (w.step e) := by
  cases e with
  | tick | erase => exact ⟨h.status, h.workers⟩
  | claimDue owner lease =>
    simp only [World.step]
    split
    · exact ⟨by simp [Row.claim], forall_start h.workers (by simp)⟩
    · exact h
  | work k f result =>
    simp only [World.step]
    split
    · exact h
    · rename_i p hp
      have hpc := h.workers p (List.mem_of_getElem? hp)
      exact ⟨exec_status hpc h.status, forall_step h.workers exec_ne⟩
  | stop k =>
    simp only [World.step]
    split
    · exact h
    · split
      · exact h
      · exact ⟨h.status, forall_step h.workers (by simp)⟩
  | replayDelivery next =>
    refine ⟨?_, h.workers⟩
    simp only [World.step, Row.replayDelivery]
    split
    · simp
    · exact h.status

/-- **No run delivers**, whatever the provider accepts. -/
theorem never_delivered (now : ℕ) (channel : Channel) (notificationID endpointID blocked : Bool) (due : ℕ)
    (es : List Event) :
    (run World.step (.planned now channel notificationID endpointID blocked due) es).row.status ≠ .delivered := by
  have hplanned : Undelivered (.planned now channel notificationID endpointID blocked due) := by
    refine ⟨?_, fun p hp => by cases hp⟩
    cases blocked <;> cases channel <;> simp [World.planned]
  exact (run_inv (I := Undelivered) (fun _ e h => h.step e) hplanned es).status

/-! ## Lost deliveries -/

/-- What a pass finds that may send. -/
def Sample.findings : Findings where
  notification := true
  kind := true
  mode := some .immediate
  settings := true
  nextAllowedTime := some 0
  contactResolver := true
  contact := some true
  encryptionRing := true
  seals := true
  opens := true
  device := true

/-- The next `n` statements of the worker `k`, with a provider that accepts. -/
def Sample.works (k n : ℕ) : List Event := List.replicate n (.work k Sample.findings ⟨true, false, ""⟩)

/-- An e-mail that is sent, and sent again after its lease. -/
def Sample.sentTwice : List Event :=
  .claimDue "email-0" 120000000 :: Sample.works 0 4 ++ .tick 120000001 :: .claimDue "email-1" 120000000 ::
    Sample.works 1 3

/-- A push that waits for the end of the quiet hours. -/
def Sample.quiet : List Event :=
  let f := { Sample.findings with nextAllowedTime := some 7200000000 }
  [.claimDue "push-0" 120000000, .work 0 f ⟨false, false, ""⟩, .work 0 f ⟨false, false, ""⟩]

theorem delivery_settles_quiet :
    Along World.step Unlost (.planned 0 .push true true false 0) Sample.quiet ∧
      ∃ t, ∀ t' ≥ t, (run World.step (.planned 0 .push true true false 0) Sample.quiet).row.claimDue
        t' = true := by
  have hrun : Along World.step Unlost (.planned 0 .push true true false 0) Sample.quiet := by decide +kernel
  exact ⟨hrun, (delivery_settles 0 .push true true false 0 Sample.quiet hrun).claimed (by decide +kernel)
    (by decide +kernel)⟩

/-- **A delivery that is sent twice and lost**: both passes end after the provider has accepted their sends,
the row stays `processing`, and `ClaimDue` never returns it. -/
theorem accepted_twice_and_lost :
    let w := run World.step (.planned 0 .email true false false 0) Sample.sentTwice
    w.sends = [0, 1] ∧ (∀ p ∈ w.workers, p.accepted = true ∧ p.pc = .returned) ∧ w.row.status = .processing ∧
      ∀ t, w.row.claimDue t = false := by
  intro w
  have hst : w.row.status = .processing := by decide +kernel
  refine ⟨by decide +kernel, by decide +kernel, hst, fun t => ?_⟩
  simp [Row.claimDue, hst]

end Seev.Gateway.Notification
