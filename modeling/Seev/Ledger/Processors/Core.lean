import Seev.Ledger.Repository

/-!
# Commands, validators and what processors share

`processors.go` and `validators.go`: the command, the inline-fee helpers, the
composable validators and the close check that every lifecycle processor uses.
The two entry shapes of the processors, a plain movement and a movement with an
inline fee, are `movement` and `movementWithFee`; a processor instantiates one of
them with its own notes.
-/

namespace Seev.Ledger

open Lib

variable {cmd : ResolvedCommand}

structure Command where
  idempotencyKey : String
  idempotencyScope : String
  type : TxType
  amount : Decimal
  userID : UUID
  targetUserID : UUID
  pocketCode : String
  currency : Currency
  referenceID : UUID
  metadata : Metadata
  quoteID : String
  merchantTenantID : UUID

/-- A command with its accounts; `currency` is the resolved one. -/
structure ResolvedCommand extends Command where
  accountIDs : List UUID
  source : UUID
  destination : UUID

structure ResolvedAccounts where
  ordered : List UUID
  source : UUID
  destination : UUID

/-- `twoLeg` -/
def twoLeg (source destination : UUID) : ResolvedAccounts := ⟨[source, destination], source, destination⟩

/-- `cmd.AccountIDs[i]` -/
def ResolvedCommand.account (cmd : ResolvedCommand) (i : ℕ) : Except Err UUID :=
  match cmd.accountIDs[i]? with
  | some id => .ok id
  | none => .error .indexOutOfRange

theorem ResolvedCommand.account_mem {i : ℕ} {id : UUID} (h : cmd.account i = .ok id) : id ∈ cmd.accountIDs := by
  unfold ResolvedCommand.account at h
  split at h
  · rename_i x hx
    cases h
    exact List.mem_of_getElem? hx
  · cases h

/-- The extension point for a transaction type. `AfterCommit` returns nil for every
registered type and is left out. The pre-lock hook returns the position account
whose balance row it locks. -/
structure TxProcessor where
  validateCommand : Command → Except Err Unit
  resolveAccounts : Db → Command → Except Err (ResolvedAccounts × Currency)
  validateBeforeBalanceLocks : Option (Db → ResolvedCommand → Except Err UUID)
  validate : Db → ResolvedCommand → Balances → Except Err Unit
  buildEntries : Db → ResolvedCommand → Balances → Except Err (List EntryInstruction)
  outboxEvents : ResolvedCommand → UUID → List EntryInstruction → List OutboxEvent

section

variable (E : Env)

/-! ## Inline fees -/

/-- `resolveInlineFee`: the fee account, `none` for a command without a fee. -/
def resolveInlineFee (cmd : Command) (c : Currency) : Except Err (Option UUID) :=
  match cmd.metadata .feeAmount with
  | none => .ok none
  | some .null => .ok none
  | some raw =>
    match metaDecimal E.text cmd.metadata .feeAmount with
    | .error _ =>
      .error (.of .validation ("fee_amount is not a valid decimal: " ++ raw.goString E.text))
    | .ok fee =>
      if fee = 0 then .ok none
      else if fee < 0 then
        .error (.of .validation ("fee_amount must be positive, got " ++ E.text.decimalString fee))
      else
        match metaString cmd.metadata .feeGateway with
        | .error _ => .error (.of .validation "fee_gateway is required when fee_amount is set")
        | .ok feeGateway =>
          if feeGateway = "" then
            .error (.of .validation "fee_gateway is required when fee_amount is set")
          else
            (inContext ("inline fee: fee[" ++ feeGateway ++ "]")
              (getSystemAccountID E .fee feeGateway c)).map some

/-- The optional third leg every fee-bearing `ResolveAccounts` appends. A fee account
with the nil id would be dropped, as in the source. -/
def withInlineFee (name : String) (cmd : Command) (c : Currency) (resolved : ResolvedAccounts) :
    Except Err (ResolvedAccounts × Currency) := do
  match ← inContext name (resolveInlineFee E cmd c) with
  | none => return (resolved, c)
  | some feeID =>
    if feeID ≠ UUID.nil then return ({ resolved with ordered := resolved.ordered ++ [feeID] }, c)
    else return (resolved, c)

/-- `hasFee`: the fee account and the fee of a command with an inline fee. -/
def hasFee (cmd : ResolvedCommand) : Option (UUID × Decimal) :=
  if cmd.accountIDs.length < 3 then none
  else match cmd.metadata .feeAmount with
    | none => none
    | some .null => none
    | some _ =>
      match metaDecimal E.text cmd.metadata .feeAmount with
      | .error _ => none
      | .ok fee => if fee ≤ 0 then none else cmd.accountIDs.getLast?.map (·, fee)

/-- When a command has a fee: a third account, and a positive amount in the metadata. -/
theorem hasFee_eq_some {feeID : UUID} {fee : Decimal} :
    hasFee E cmd = some (feeID, fee) ↔ 3 ≤ cmd.accountIDs.length ∧ cmd.accountIDs.getLast? = some feeID ∧
      metaDecimal E.text cmd.metadata .feeAmount = .ok fee ∧ 0 < fee := by
  unfold hasFee
  split
  · simp only [reduceCtorEq, false_iff, not_and]
    omega
  rename_i hlen
  have hlen : 3 ≤ cmd.accountIDs.length := by omega
  split
  · rename_i hnone
    simp [metaDecimal, hnone]
  · rename_i hnull
    simp [metaDecimal, hnull]
  split
  · rename_i he
    simp [he]
  · rename_i d hd
    rw [hd]
    split
    · rename_i hle
      simp only [reduceCtorEq, Except.ok.injEq, false_iff, not_and, not_lt]
      rintro - - rfl
      exact hle
    · rename_i hlt
      simp only [Option.map_eq_some_iff, Prod.mk.injEq, Except.ok.injEq, hlen, true_and]
      constructor
      · rintro ⟨a, ha, rfl, rfl⟩
        exact ⟨ha, rfl, not_le.1 hlt⟩
      · rintro ⟨ha, rfl, -⟩
        exact ⟨feeID, ha, rfl, rfl⟩

theorem hasFee_mem {feeID : UUID} {fee : Decimal}
    (h : hasFee E cmd = some (feeID, fee)) : feeID ∈ cmd.accountIDs ∧ 0 < fee := by
  obtain ⟨-, hlast, -, hpos⟩ := (hasFee_eq_some E).1 h
  exact ⟨List.mem_of_getLast? hlast, hpos⟩

/-- `requireGateway` -/
def requireGateway (name : String) (cmd : Command) : Except Err String :=
  match metaString cmd.metadata .gateway with
  | .ok gw =>
    if gw = "" then .error (.of .validation (name ++ " requires metadata 'gateway' (e.g. 'bca', 'gopay')"))
    else .ok gw
  | .error _ => .error (.of .validation (name ++ " requires metadata 'gateway' (e.g. 'bca', 'gopay')"))

/-- `requireReferenceID` -/
def requireReferenceID (name : String) (cmd : Command) : Except Err Unit :=
  if cmd.referenceID = UUID.nil then
    .error (.of .validation (name ++ " requires reference_id (the original transaction)"))
  else .ok ()

/-- The tenant check of the merchant processors. -/
def requireMerchantTenantID (name : String) (cmd : Command) : Except Err Unit :=
  if cmd.merchantTenantID = UUID.nil then .error (.of .validation (name ++ " requires MerchantTenantID"))
  else .ok ()

/-- A metadata string that must be present and not empty. -/
def requireNonEmpty (msg : String) (m : Metadata) (k : MetaKey) : Except Err String :=
  match metaString m k with
  | .ok s => if s = "" then .error (.of .validation msg) else .ok s
  | .error _ => .error (.of .validation msg)

/-- A metadata string that must be present. -/
def requirePresent (msg : String) (m : Metadata) (k : MetaKey) : Except Err Unit :=
  match metaString m k with
  | .ok _ => .ok ()
  | .error _ => .error (.of .validation msg)

/-- `suspenseQualifier` -/
def suspenseQualifier (gateway : String) : String := "suspense:" ++ gateway

/-! ## Validators -/

/-- `PositiveAmountValidator` -/
def positiveAmount (cmd : ResolvedCommand) : Except Err Unit :=
  if cmd.amount ≤ 0 then
    .error (.newBizErr .amountTooSmall ("amount must be > 0, got " ++ E.text.decimalString cmd.amount))
  else .ok ()

/-- `IntegralAmountValidator` -/
def integralAmount (cmd : ResolvedCommand) : Except Err Unit :=
  if !cmd.amount.isInteger then
    .error (.newBizErr .validation
      ("amount must be an integer (minor units), got " ++ E.text.decimalString cmd.amount))
  else .ok ()

/-- `SufficientFundsValidator` -/
def sufficientFunds (accountID : UUID) (cmd : ResolvedCommand) (bal : Balances) : Except Err Unit :=
  match bal accountID with
  | none => .error (.of .accountNotFound (E.text.uuidString accountID))
  | some ab =>
    if ab.balance < cmd.amount then
      .error (.newBizErr .insufficientFunds ("account " ++ E.text.uuidString accountID ++ " has "
        ++ E.text.decimalString ab.balance ++ ", needs " ++ E.text.decimalString cmd.amount))
    else .ok ()

/-- `NotSelfTransferValidator` -/
def notSelfTransfer (a b : UUID) : Except Err Unit :=
  if a = b ∧ a ≠ UUID.nil then
    .error (.newBizErr .selfTransfer ("both accounts are " ++ E.text.uuidString a))
  else .ok ()

/-- `FeeAmountValidator`, run only on a command that `hasFee`. -/
def feeAmount (cmd : ResolvedCommand) : Except Err Unit :=
  match hasFee E cmd with
  | none => .ok ()
  | some _ =>
    match metaDecimal E.text cmd.metadata .feeAmount with
    | .error e => .error (.wrap Sentinel.validation.code { e with sentinel := some .validation })
    | .ok fee =>
      if fee ≤ 0 then
        .error (.newBizErr .validation ("fee_amount must be positive, got " ++ E.text.decimalString fee))
      else if cmd.amount ≤ fee then
        .error (.newBizErr .feeExceedsAmount ("fee " ++ E.text.decimalString fee ++ " >= total "
          ++ E.text.decimalString cmd.amount))
      else .ok ()

/-- `MultiValidator{Positive, Integral}` -/
def amountChecks (cmd : ResolvedCommand) : Except Err Unit := do
  positiveAmount E cmd
  integralAmount E cmd

/-- `MultiValidator{Positive, Integral, SufficientFunds{AccountIDs[0]}}` -/
def fundsChecks (cmd : ResolvedCommand) (bal : Balances) : Except Err Unit := do
  let a ← cmd.account 0
  amountChecks E cmd
  sufficientFunds E a cmd bal

/-- `fundsChecks` with `FeeAmountValidator` appended when the command has a fee. -/
def fundsAndFeeChecks (cmd : ResolvedCommand) (bal : Balances) : Except Err Unit := do
  fundsChecks E cmd bal
  feeAmount E cmd

/-- `validateOriginalForClose`: type, not closed, posted, same amount. -/
def validateOriginalForClose (db : Db) (referenceID : UUID) (required : TxType) (amount : Decimal) :
    Except Err Unit := do
  let h ← inContext "validate original" (getHeader E db referenceID)
  if h.type ≠ required then
    throw (.newBizErr .originalTypeMismatch ("expected original transaction of type "
      ++ quote required.name ++ ", got " ++ quote h.type.name))
  if h.closedByTxID.isSome then
    throw (.newBizErr .alreadyClosed ("transaction " ++ E.text.uuidString referenceID
      ++ " was already closed"))
  if h.status ≠ .posted then
    throw (.newBizErr .notReversible ("original status is " ++ quote h.status.name
      ++ ", must be 'posted'"))
  if (h.amount : ℚ) ≠ amount then
    throw (.newBizErr .lifecycleAmountMismatch ("amount " ++ E.text.decimalString amount
      ++ " does not match original amount " ++ E.text.decimalString h.amount
      ++ " (partial settle/cancel/release/refund not supported)"))

/-! ## Entries -/

/-- Debit `AccountIDs[0]`, credit `AccountIDs[1]`, the full amount. -/
def movement (debitNote creditNote : String) (cmd : ResolvedCommand) :
    Except Err (List EntryInstruction) := do
  let a ← cmd.account 0
  let b ← cmd.account 1
  return [⟨a, .debit, cmd.amount, debitNote⟩, ⟨b, .credit, cmd.amount, creditNote⟩]

/-- Debit `AccountIDs[0]` the full amount, credit `AccountIDs[1]` the amount without
the inline fee, and the fee to the last account. -/
def movementWithFee (debitNote creditNote feeNote : String) (cmd : ResolvedCommand) :
    Except Err (List EntryInstruction) := do
  let a ← cmd.account 0
  let b ← cmd.account 1
  match hasFee E cmd with
  | none => return [⟨a, .debit, cmd.amount, debitNote⟩, ⟨b, .credit, cmd.amount, creditNote⟩]
  | some (feeID, fee) =>
    return [⟨a, .debit, cmd.amount, debitNote⟩, ⟨b, .credit, cmd.amount - fee, creditNote⟩,
      ⟨feeID, .credit, fee, feeNote⟩]

/-! ## Events -/

/-- `uuid.Nil` becomes a nil pointer. -/
def uuidPtr (id : UUID) : Option UUID := if id = UUID.nil then none else some id

/-- The empty string becomes a nil pointer. -/
def stringPtr (s : String) : Option String := if s = "" then none else some s

/-- `newPostedEvent` -/
def newPostedEvent (cmd : ResolvedCommand) (txID : UUID) (entries : List EntryInstruction) :
    OutboxEvent :=
  let snapshot := if cmd.type = .moneyIn then (metaDecimal E.text cmd.metadata .totalDebit).toOption else none
  let optional {α : Type} (x : Except Err α) : Option α := snapshot.bind fun _ => x.toOption
  .transactionPosted txID
    { transactionID := txID, transactionType := cmd.type, amount := cmd.amount
      currency := cmd.currency, source := uuidPtr cmd.source, destination := uuidPtr cmd.destination
      entries := entries.map EntryInstruction.posting
      externalRef := metaStringD cmd.metadata .externalRef
      userID := uuidPtr cmd.userID, targetUserID := uuidPtr cmd.targetUserID
      requestID := metaStringD cmd.metadata .requestID
      merchantTenantID := uuidPtr cmd.merchantTenantID
      totalDebit := snapshot
      feeAmount := snapshot.map fun _ => (metaDecimal E.text cmd.metadata .feeAmount).toOption.getD 0
      feeGateway := optional (metaString cmd.metadata .feeGateway)
      feeApplication := optional (metaString cmd.metadata .feeApplication)
      feeQuoteID := optional (metaUUID E.text cmd.metadata .feeQuoteID)
      payinID := optional (metaUUID E.text cmd.metadata .payinID) }

end

/-- Entries touch only the accounts the command resolved. -/
def TouchesOnly (cmd : ResolvedCommand) (es : List EntryInstruction) : Prop :=
  ∀ e ∈ es, e.accountID ∈ cmd.accountIDs

theorem movement_touches {dn cn : String} {es : List EntryInstruction}
    (h : movement dn cn cmd = .ok es) : TouchesOnly cmd es := by
  unfold movement at h
  cases h0 : cmd.account 0 with
  | error e => rw [h0] at h; cases h
  | ok a =>
    cases h1 : cmd.account 1 with
    | error e => rw [h0, h1] at h; cases h
    | ok b =>
      rw [h0, h1] at h
      cases h
      intro e he
      rcases List.mem_cons.1 he with rfl | he
      · exact cmd.account_mem h0
      · rw [List.mem_singleton] at he
        subst he
        exact cmd.account_mem h1

end Seev.Ledger
