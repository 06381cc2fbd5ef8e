import Seev.Payin.Proof.Orderly

/-!
# A top-up is credited once

The ledger posts one command for each idempotency key, and the key of a command is its
event's (`Built.key_eq`). So one event credits once, however often it is redelivered or
replayed. Two events of one intent have two keys: what keeps them apart is the status of
the intent alone, which is read without a lock, is written after the post on a best effort,
and is not read at all by a replay.

* `credited_once`: an intent is credited at most once in every run in which the calls under
  a reference take turns and none is cut off between its send and its updates.
* `second_event_credits_again`: the two ways in which a second event credits again.
-/

namespace Seev.Payin

open Lib
open Ledger (UUID)

variable {E : Env} {r : Request}

/-- The command credits the owner of the intent under the intent's reference. -/
def credits (i : TopupIntent) (r : Request) : Bool :=
  decide (r.cmd.metadata .externalRef = some (.str i.reference)) && decide (r.cmd.userID = i.userID) &&
    decide (r.cmd.merchantTenantID = i.merchantTenantID)

/-- A request that credits an intent is for an event under the intent's reference. -/
theorem Built.of_credits {i : TopupIntent} (h : Built E r) (hr : credits i r = true) :
    r.event.externalRef = i.reference := by
  simp only [credits, Bool.and_eq_true, decide_eq_true_eq, h.externalRef] at hr
  simpa using hr.1.1

/-- **A top-up intent is credited at most once**, in every run in which the calls under a
reference take turns, no call is cut off between its send and its updates, only events that
are neither failed nor blocked and have no rival are replayed, a vendor's event id keeps its
reference and the reference of a new intent is on no stored event. -/
theorem credited_once (E : Env) (db : Db) (now : ℕ) (es : List Event) (hdb : db.Keys)
    (h : Along (World.step E) InTurn (.idle db now) es) :
    ∀ i ∈ (run (World.step E) (.idle db now) es).db.intents,
      ((run (World.step E) (.idle db now) es).ledger.performed.filter (credits i.1)).length ≤ 1 := by
  intro i _
  obtain ⟨hb, hw⟩ := orderly_run E hdb h
  refine hb.sound.server.length_filter_le_one fun y hy z hz hcy hcz => ?_
  have hry := (hb.sound.built _ (hb.sound.server.done y hy)).of_credits hcy
  have hrz := (hb.sound.built _ (hb.sound.server.done z hz)).of_credits hcz
  -- both credits stand under the reference, so they are one command
  obtain ⟨m, hm⟩ := hb.stands hy
  obtain ⟨n, hn⟩ := hb.stands hz
  obtain rfl := hw.one m y n z hm hn (hry.trans hrz.symm)
  obtain ⟨⟨a, ha, -⟩, -⟩ := hm
  obtain ⟨⟨b, hb, -⟩, -⟩ := hn
  cases ha.symm.trans hb
  rfl

namespace Sample

/-- One event that is posted, settled and delivered again; then another event of the intent. -/
def redelivered : List Event :=
  upToSend 1 10 (callback "e1" "settled") ++ .ledger 0 .accept :: List.replicate 3 (.advance 1 0) ++
    .callback 2 (callback "e1" "settled") :: List.replicate 4 (.advance 2 11) ++
    .callback 3 (callback "e2" "settled") :: List.replicate 5 (.advance 3 12)

/-- Two events that read the intent before either is settled. -/
def concurrent : List Event :=
  upToSend 1 10 (callback "e1" "settled") ++ upToSend 2 11 (callback "e2" "settled") ++
    [.ledger 0 .accept, .ledger 1 .accept]

/-- The process ends between the post and the update of the intent, then a second event. -/
def afterCrash : List Event :=
  upToSend 1 10 (callback "e1" "settled") ++ [.ledger 0 .accept, .advance 1 0, .crash 1] ++
    upToSend 2 11 (callback "e2" "settled") ++ [.ledger 1 .accept]

end Sample

set_option maxRecDepth 20000 in
theorem redelivered_inTurn : Along (World.step Sample.env) InTurn (.idle Sample.db 0) Sample.redelivered :=
  InTurn.along [1, 2, 3] (by decide +kernel)

set_option maxRecDepth 20000 in
/-- Two deliveries of one event and one of another credit once. -/
theorem credited_once_redelivered :
    Along (World.step Sample.env) InTurn (.idle Sample.db 0) Sample.redelivered ∧
      (run (World.step Sample.env) (.idle Sample.db 0) Sample.redelivered).ledger.performed.length = 1 ∧
      ∀ i ∈ (run (World.step Sample.env) (.idle Sample.db 0) Sample.redelivered).db.intents,
        ((run (World.step Sample.env) (.idle Sample.db 0) Sample.redelivered).ledger.performed.filter
          (credits i.1)).length ≤ 1 :=
  ⟨redelivered_inTurn, by decide +kernel,
    credited_once Sample.env Sample.db 0 Sample.redelivered (.of_nil rfl) redelivered_inTurn⟩

set_option maxRecDepth 20000 in
/-- **A second event of an intent credits its owner again**: when both read the intent
before either settles it, and when the process ends after the first post. -/
theorem second_event_credits_again :
    ((run (World.step Sample.env) (.idle Sample.db 0) Sample.concurrent).ledger.performed.filter
        (credits Sample.intent)).length = 2 ∧
      ((run (World.step Sample.env) (.idle Sample.db 0) Sample.afterCrash).ledger.performed.filter
        (credits Sample.intent)).length = 2 := by
  decide +kernel

end Seev.Payin
