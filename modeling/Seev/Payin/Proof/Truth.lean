import Seev.Payin.Proof.Once

/-!
# What the status of an event says about the ledger

`MarkFailed` and `MarkBlocked` write whatever the status was, and none of their three
callers looks at the ledger: a callback that does not match its intent, a screening that
blocks, a business refusal. So a redelivery can mark an event failed that an earlier
delivery posted, and a replay can post an event that is marked failed.

* `status_tells_truth`: no failed or blocked event is posted, in every run in which the calls
  under a reference take turns and none is cut off between its send and its updates.
* `redelivery_fails_posted`: a lost `MarkPosted` and a redelivery.
-/

namespace Seev.Payin

open Lib
open Ledger (UUID)

/-- The key of the ledger transaction of an event, as `postAndFinalize` derives it. -/
def WebhookEvent.key (ev : WebhookEvent) : String × String :=
  ("payin:" ++ ev.vendor, "payin:" ++ ev.vendor ++ ":" ++ ev.vendorEventID)

theorem WebhookEvent.key_inj {a b : WebhookEvent} (h : a.key = b.key) : SameEvent a b := by
  simp only [key, Prod.mk.injEq] at h
  obtain ⟨hscope, hkey⟩ := h
  have hvendor : a.vendor = b.vendor := by simpa using hscope
  rw [hvendor] at hkey
  exact ⟨hvendor, by simpa using hkey⟩

/-- **The status of an event tells the truth about the ledger**: in every run in which the
calls under a reference take turns, no call is cut off between its send and its updates and
no failed or blocked event is replayed, no failed or blocked event has a posted transaction
under its key. -/
theorem status_tells_truth (E : Env) (db : Db) (now : ℕ) (es : List Event) (hdb : db.Keys)
    (h : Along (World.step E) InTurn (.idle db now) es) :
    ∀ r ∈ (run (World.step E) (.idle db now) es).db.events, r.1.status = .failed ∨ r.1.status = .blocked →
      ∀ q ∈ (run (World.step E) (.idle db now) es).ledger.performed, q.key ≠ r.1.key := by
  obtain ⟨hb, hw⟩ := orderly_run E hdb h
  intro r hr hrej q hq hkey
  have hdone := hb.sound.server.done q hq
  have hqkey : q.key = q.event.key := (hb.sound.built _ hdone).key_eq (hb.sound.sent_checks hdone)
  obtain ⟨i, hi⟩ := hb.stands hq
  exact hw.truth r hr hrej i q hi (WebhookEvent.key_inj (hkey.symm.trans hqkey))

namespace Sample

/-- `MarkPosted` is lost, the intent is settled, and the event is delivered again. -/
def redeliveredSettled : List Event :=
  upToSend 1 10 (callback "e1" "settled") ++
    [.ledger 0 .accept, .advance 1 0, .fail 1 false "timeout", .advance 1 0] ++
    .callback 2 (callback "e1" "settled") :: List.replicate 5 (.advance 2 11)

end Sample

set_option maxRecDepth 20000 in
/-- An event that is posted and delivered again, and one that comes too late and fails. -/
theorem status_tells_truth_redelivered :
    Along (World.step Sample.env) InTurn (.idle Sample.db 0) Sample.redelivered ∧
      (run (World.step Sample.env) (.idle Sample.db 0) Sample.redelivered).db.events.map (·.1.status) =
        [.posted, .failed] ∧
      ∀ r ∈ (run (World.step Sample.env) (.idle Sample.db 0) Sample.redelivered).db.events,
        r.1.status = .failed ∨ r.1.status = .blocked →
          ∀ q ∈ (run (World.step Sample.env) (.idle Sample.db 0) Sample.redelivered).ledger.performed,
            q.key ≠ r.1.key :=
  ⟨redelivered_inTurn, by decide +kernel,
    status_tells_truth Sample.env Sample.db 0 Sample.redelivered (.of_nil rfl) redelivered_inTurn⟩

set_option maxRecDepth 20000 in
/-- **A redelivery marks a posted event failed**: its intent is settled by the very post, so
the callback no longer matches. -/
theorem redelivery_fails_posted :
    ∃ r ∈ (run (World.step Sample.env) (.idle Sample.db 0) Sample.redeliveredSettled).db.events,
      r.1.status = .failed ∧ r.1.errorMessage = "payin intent is not pending: settled" ∧
        ∃ q ∈ (run (World.step Sample.env) (.idle Sample.db 0) Sample.redeliveredSettled).ledger.performed,
          q.key = r.1.key := by
  decide +kernel

end Seev.Payin
