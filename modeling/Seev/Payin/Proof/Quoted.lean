import Seev.Ledger.Proof.Topup
import Seev.Payin.Proof.Command

/-!
# Quoted top-ups and the ledger

The two services together: the command payin builds for a quoted top-up, and what the
ledger makes of it. The command carries the intent's `fee_quote_id`; its `payin_id` comes
only from the branch of `postAndFinalize` that no row takes (`financials_eq`). The ledger
asks for both, so the top-up is refused, for every intent and every state of the ledger.

* `quoted_topup_refused`: the refusal, and that no run of the ledger posts the command.
* `quoted_topup_lost`: a paid top-up whose quote was consumed by its intent.
-/

namespace Seev.Payin

open Lib
open Ledger (UUID Decimal Command ResolvedCommand Metadata)

variable {E : Env} {r : Request}

/-- The transaction posts the command: its scope, key, type and metadata, to which the
server adds the request id. -/
structure PostingOf (cmd : Command) (rc : ResolvedCommand) : Prop where
  scope : rc.idempotencyScope = cmd.idempotencyScope
  key : rc.idempotencyKey = cmd.idempotencyKey
  type : rc.type = cmd.type
  metadata : ∀ k, k ≠ .requestID → rc.metadata k = cmd.metadata k

/-- What `Handle` makes of the command is a posting of it. -/
theorem prepare_postingOf {L : Ledger.Env} {db : Ledger.Db} {now : ℕ} {requestID : String} {cmd : Command}
    {rc : ResolvedCommand} (hq : cmd.quoteID = "")
    (h : Ledger.prepare L db now (serverCommand requestID cmd) = .ok rc) : PostingOf cmd rc := by
  have hserver : (serverCommand requestID cmd).idempotencyScope = cmd.idempotencyScope ∧
      (serverCommand requestID cmd).idempotencyKey = cmd.idempotencyKey ∧
      (serverCommand requestID cmd).type = cmd.type ∧ (serverCommand requestID cmd).quoteID = cmd.quoteID ∧
      ∀ k, k ≠ .requestID → (serverCommand requestID cmd).metadata k = cmd.metadata k := by
    unfold serverCommand
    split
    · exact ⟨rfl, rfl, rfl, rfl, fun _ _ => rfl⟩
    · exact ⟨rfl, rfl, rfl, rfl, fun k hk => Metadata.set_of_ne _ _ hk⟩
  obtain ⟨hscope, hkey, htype, hquote, hmeta⟩ := hserver
  obtain ⟨h1, h2, h3, h4⟩ := Ledger.prepare_keeps (hquote.trans hq) h
  exact ⟨h1.trans hscope, h2.trans hkey, h3.trans htype, fun k hk => by rw [h4, hmeta k hk]⟩

theorem commandMetadata_payinID {ev : WebhookEvent} {T : Ledger.Text} {f : Financials}
    (hf : f.payinID = UUID.nil) :
    commandMetadata T ev f .payinID = none := by
  unfold commandMetadata
  rw [setSome_of_ne _ (by decide), hf]
  rfl

theorem commandMetadata_feeQuoteID {ev : WebhookEvent} {T : Ledger.Text} {f : Financials} {q : UUID}
    (hf : f.feeQuoteID = some q) : commandMetadata T ev f .feeQuoteID = some (.str (T.uuidString q)) := by
  unfold commandMetadata
  rw [hf]
  simp [setSome]

/-- **No command of payin names its intent.** -/
theorem Built.payinID (h : Built E r) (hr : r.event.Checks) : r.cmd.metadata .payinID = none := by
  obtain ⟨db, gateway, f, hf, hcmd⟩ := h
  obtain ⟨-, -, -, -, -, hmeta⟩ := buildCommand_ok hcmd
  rw [hmeta _ (by decide)]
  exact commandMetadata_payinID (by rw [financials_eq hr hf])

theorem Built.feeQuoteID (h : Built E r) (hr : r.event.Checks) {q : UUID} (hq : r.event.feeQuoteID = some q) :
    r.cmd.metadata .feeQuoteID = some (.str (E.text.uuidString q)) := by
  obtain ⟨db, gateway, f, hf, hcmd⟩ := h
  obtain ⟨-, -, -, -, -, hmeta⟩ := buildCommand_ok hcmd
  rw [hmeta _ (by decide)]
  exact commandMetadata_feeQuoteID (by rw [financials_eq hr hf]; exact hq)

/-- The command for a callback that matches the intent: stored, priced and built. -/
def topupCommand (E : Env) (db : Db) (now id : ℕ) (cb : Callback) (amount : Decimal) (intent : TopupIntent)
    (gateway : String) : Except Failure Command := do
  let (db', stored) ← (db.getOrInsert (correlate now id cb amount (some intent)).1).mapError Failure.plain
  let f ← financials db' stored gateway
  buildCommand E.text stored f

/-- The row stored for a callback that matches the intent carries the intent's quote and
owner, if a row already there does. -/
theorem matched_row {db db' : Db} {now id : ℕ} {cb : Callback} {amount : Decimal} {i : IntentRow}
    {stored : WebhookEvent} (hmatch : unmatchedReason now cb amount (some i.1) = "")
    (hrow : ∀ row, db.getByVendorEventID cb.vendor cb.vendorEventID = some row →
      row.feeQuoteID = i.1.feeQuoteID ∧ row.merchantTenantID = i.1.merchantTenantID)
    (hstored : db.getOrInsert (correlate now id cb amount (some i.1)).1 = .ok (db', stored)) :
    stored.Checks ∧ stored.feeQuoteID = i.1.feeQuoteID ∧ stored.merchantTenantID = i.1.merchantTenantID := by
  have hev : (correlate now id cb amount (some i.1)).1 = (callbackEvent id cb amount).ofIntent i.1 := by
    simp [correlate, i.2.normalizeFinancials_eq, hmatch]
  rw [hev] at hstored
  have hchecks := (getOrInsert_ok hstored).1
  unfold Db.getOrInsert at hstored
  obtain ⟨-, hstored⟩ := guard_eq_ok.1 hstored
  obtain ⟨-, hstored⟩ := guard_eq_ok.1 hstored
  split at hstored
  case isFalse => cases hstored
  case isTrue =>
    obtain ⟨hvendor, hid, -⟩ := withDefaults_identity ((callbackEvent id cb amount).ofIntent i.1)
    rw [hvendor, hid] at hstored
    split at hstored
    case h_1 existing hex =>
      cases hstored
      exact ⟨hchecks, hrow _ hex⟩
    case h_2 =>
      obtain ⟨-, hstored⟩ := guard_eq_ok.1 hstored
      cases hstored
      refine ⟨hchecks, ?_, ?_⟩
      all_goals
        unfold Db.withDefaults
        dsimp only
        split <;> split <;> rfl

/-- **A quoted top-up is never credited.** For every intent of a user with a fee quote and
every callback that matches it, the ledger's consumed-quote check refuses the command payin
sends, whatever the ledger holds, and no run of the ledger posts it. -/
theorem quoted_topup_refused (E : Env) (L : Ledger.Env) (db : Db) (now id : ℕ) (cb : Callback) (amount : Decimal)
    (i : IntentRow) (q : UUID) (gateway : String) (cmd : Command)
    (huser : i.1.merchantTenantID = UUID.nil) (hquote : i.1.feeQuoteID = some q)
    (hmatch : unmatchedReason now cb amount (some i.1) = "")
    (hrow : ∀ row, db.getByVendorEventID cb.vendor cb.vendorEventID = some row →
      row.feeQuoteID = i.1.feeQuoteID ∧ row.merchantTenantID = i.1.merchantTenantID)
    (hcmd : topupCommand E db now id cb amount i.1 gateway = .ok cmd) :
    (∀ (ldb : Ledger.Db) (lnow : ℕ) (requestID : String) (rc : ResolvedCommand),
      Ledger.prepare L ldb lnow (serverCommand requestID cmd) = .ok rc →
      Ledger.checkTopupQuote L ldb rc =
        .error (.newBizErr .quoteMismatch "top-up fee snapshot is missing payin_id")) ∧
    ∀ (ldb : Ledger.Db) (lnow : ℕ) (es : List Ledger.Event),
      ∀ p ∈ (run (Ledger.World.step L) (.idle ldb lnow) es).posted, ¬ PostingOf cmd p.2 := by
  unfold topupCommand at hcmd
  obtain ⟨⟨db', stored⟩, hstored, hcmd⟩ := bind_eq_ok.1 hcmd
  obtain ⟨f, hf, hcmd⟩ := bind_eq_ok.1 hcmd
  have hstored : db.getOrInsert (correlate now id cb amount (some i.1)).1 = .ok (db', stored) := by
    cases hins : db.getOrInsert (correlate now id cb amount (some i.1)).1 with
    | error e => simp [hins, Except.mapError] at hstored
    | ok x => simpa [hins, Except.mapError] using hstored
  obtain ⟨hchecks, hq, hm⟩ := matched_row hmatch hrow hstored
  have hbuilt : Built E ⟨stored, cmd⟩ := ⟨db', gateway, f, hf, hcmd⟩
  obtain ⟨-, -, -, htype, hnoquote, -⟩ := buildCommand_ok hcmd
  rw [hm, huser, if_neg (not_not.2 rfl)] at htype
  have hquoteID := hbuilt.feeQuoteID hchecks (hq.trans hquote)
  have hpayinID := hbuilt.payinID hchecks
  dsimp only at hquoteID hpayinID
  -- any transaction for the command has the quote and lacks the payin
  have hrc : ∀ rc, PostingOf cmd rc →
      rc.type = .moneyIn ∧ (rc.metadata .feeQuoteID).isSome ∧ rc.metadata .payinID = none := by
    intro rc hrc
    refine ⟨hrc.type.trans htype, ?_, ?_⟩
    · rw [hrc.metadata _ (by decide), hquoteID]
      rfl
    · rw [hrc.metadata _ (by decide), hpayinID]
  refine ⟨fun ldb lnow requestID rc h => ?_, fun ldb lnow es p hp h => ?_⟩
  · obtain ⟨ht, hfq, hpay⟩ := hrc rc (prepare_postingOf hnoquote h)
    exact Ledger.checkTopupQuote_unnamed ht hfq hpay
  · obtain ⟨ht, hfq, hpay⟩ := hrc p.2 h
    have hnamed := Ledger.posted_named L ldb lnow es p hp ht hfq
    simp [hpay] at hnamed

namespace Sample

/-- The intent for 100 with a quoted fee of 5. -/
def quotedIntent : TopupIntent :=
  { intent with
    feeAmount := 5, totalDebit := 105, feeGateway := "bca", feeQuoteID := some 77
    feeQuoteConsumedAt := some 1 }

/-- The callback for its total. -/
def quotedCallback : Callback := { callback "e1" "settled" with amountRaw := "105" }

/-- The command payin sends for it. -/
def quotedCommand : Except Failure Command :=
  topupCommand env db 0 10 quotedCallback 105 quotedIntent "bca"

/-- A ledger in which the intent consumed the quote. -/
def quotedLedger : Ledger.Db :=
  { Ledger.Sample.zeroed with
    quotes := fun id => if id = 77 then
      some ⟨1, .moneyIn, "bca", "IDR", 100, 5, "bca", 1000, some 1, some (.payin 7)⟩ else none }

/-- The entries the ledger writes for a command, run alone. -/
def entriesOf (cmd : Command) : List (Posting UUID ℤ) :=
  (run (Ledger.World.step Ledger.Sample.env) (.idle quotedLedger 2) (Ledger.Sample.call 1 500 cmd)).db.entries.map
    Ledger.LedgerEntry.posting

end Sample

/-- The refusal, at a top-up whose callback and quote are in order. -/
theorem quoted_topup_refused_sample :
    ∃ cmd, Sample.quotedCommand = .ok cmd ∧
      (∀ (ldb : Ledger.Db) (lnow : ℕ) (requestID : String) (rc : ResolvedCommand),
        Ledger.prepare Ledger.Sample.env ldb lnow (serverCommand requestID cmd) = .ok rc →
        Ledger.checkTopupQuote Ledger.Sample.env ldb rc =
          .error (.newBizErr .quoteMismatch "top-up fee snapshot is missing payin_id")) ∧
      ∀ (ldb : Ledger.Db) (lnow : ℕ) (es : List Ledger.Event),
        ∀ p ∈ (run (Ledger.World.step Ledger.Sample.env) (.idle ldb lnow) es).posted, ¬ PostingOf cmd p.2 := by
  have hsent : Sample.quotedCommand.isOk = true := by decide +kernel
  cases hcmd : Sample.quotedCommand with
  | error e => simp [hcmd, Except.isOk, Except.toBool] at hsent
  | ok cmd =>
    exact ⟨cmd, rfl, quoted_topup_refused Sample.env Ledger.Sample.env Sample.db 0 10 Sample.quotedCallback 105
      ⟨Sample.quotedIntent, by decide +kernel⟩ 77 "bca" cmd rfl rfl (by decide +kernel)
      (fun row hrow => by cases hrow) hcmd⟩

set_option maxRecDepth 20000 in
/-- **A paid top-up is lost.** The callback is settled and matches the intent, and the
intent consumed the quote; the ledger writes nothing for the command payin sends. With the
intent's id in the metadata the same command would post the debit of the total, the credit of the principal
and the fee. -/
theorem quoted_topup_lost :
    unmatchedReason 0 Sample.quotedCallback 105 (some Sample.quotedIntent) = "" ∧
      Ledger.validateConsumedPayinQuote Sample.quotedLedger 77 1 .moneyIn "bca" "IDR" 100 5 "bca" 7 = true ∧
      Sample.quotedCommand.toOption.map Sample.entriesOf = some [] ∧
      (Sample.quotedCommand.toOption.map fun cmd =>
        Sample.entriesOf { cmd with metadata := cmd.metadata.set .payinID (.str "7") }) =
        some [⟨91, .debit, 105⟩, ⟨11, .credit, 100⟩, ⟨92, .credit, 5⟩] := by
  decide +kernel

end Seev.Payin
