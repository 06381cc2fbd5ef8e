import Seev.Ledger.Proof.Legs

/-!
# Accounts by position

A processor names its accounts by position: `AccountIDs[0]` pays, `AccountIDs[1]` is
paid, the fee account is last. `Handle` hands it the resolved accounts without
duplicates, so a role that falls on the account of another one shortens the list.

* `NoPanic`: no access is out of range. `validate_noPanic` and `buildEntries_noPanic`:
  two accounts are enough for every processor.
* `legTypes`, `resolveAccounts_types`: the types of the two accounts a command is looked
  up by, for every type whose accounts are not named in the metadata.
* `NamesCounterparty`: the account in the metadata is the one the command already has on
  the other side.
* `positional_access_iff`: an access is out of range exactly then.
-/

namespace Seev.Ledger

open Lib

variable {E : Env} {a b dst id src userID : UUID} {t t' : AccountType} {p : TxProcessor}

/-! ## Panics -/

/-- Whatever error `x` returns, it is not a panic. -/
def NoPanic {α : Type} (x : Except Err α) : Prop := ∀ e, x = .error e → e.panics = false

namespace NoPanic

variable {α β : Type} {x : Except Err α} {f : α → Except Err β}

theorem ok (a : α) : NoPanic (.ok a : Except Err α) := fun _ h => nomatch h

theorem error {e : Err} (h : e.panics = false) : NoPanic (.error e : Except Err α) := by
  intro e' he'
  cases he'
  exact h

theorem bind (hx : NoPanic x) (hf : ∀ a, NoPanic (f a)) : NoPanic (x >>= f) := by
  cases x with
  | error e => exact error (hx e rfl)
  | ok a => exact hf a

/-- A guard whose error is not a panic. -/
theorem guard {c : Prop} [Decidable c] {e : Err} {g : PUnit → Except Err β} (he : e.panics = false)
    (hg : NoPanic (g PUnit.unit)) :
    NoPanic (if c then (throw e : Except Err PUnit) >>= g else g PUnit.unit) := by
  split
  · exact error he
  · exact hg

theorem inContext {ctx : String} (hx : NoPanic x) : NoPanic (inContext ctx x) := by
  cases x with
  | error e => exact error (show (Err.wrap ctx e).panics = false from hx e rfl)
  | ok a => exact ok a

theorem mapError {g : Err → Err} (hg : ∀ e, (g e).panics = false) : NoPanic (x.mapError g) := by
  cases x with
  | error e => exact error (hg e)
  | ok a => exact ok a

end NoPanic

/-! ## Two accounts are enough -/

section Enough

variable {cmd : ResolvedCommand} {bal : Balances} {db : Db}

theorem account_noPanic {i : ℕ} (h : i < cmd.accountIDs.length) : NoPanic (cmd.account i) := by
  unfold ResolvedCommand.account
  rw [List.getElem?_eq_getElem h]
  exact .ok _

theorem account_error {i : ℕ} (h : cmd.accountIDs.length ≤ i) : cmd.account i = .error .indexOutOfRange := by
  unfold ResolvedCommand.account
  rw [List.getElem?_eq_none h]

theorem amountChecks_noPanic : NoPanic (amountChecks E cmd) := by
  refine .bind ?_ fun _ => ?_
  · unfold positiveAmount
    split
    · exact .error rfl
    · exact .ok _
  · unfold integralAmount
    split
    · exact .error rfl
    · exact .ok _

theorem sufficientFunds_noPanic : NoPanic (sufficientFunds E a cmd bal) := by
  unfold sufficientFunds
  split
  · exact .error rfl
  split
  · exact .error rfl
  · exact .ok _

theorem notSelfTransfer_noPanic : NoPanic (notSelfTransfer E a b) := by
  unfold notSelfTransfer
  split
  · exact .error rfl
  · exact .ok _

theorem metaDecimal_noPanic {T : Text} {m : Metadata} {k : MetaKey} : NoPanic (metaDecimal T m k) := by
  unfold metaDecimal
  split
  · exact .error rfl
  · split
    · exact .ok _
    · exact .error rfl
  · exact .ok _
  · exact .ok _
  · exact .ok _
  · exact .error rfl

theorem feeAmount_noPanic : NoPanic (feeAmount E cmd) := by
  unfold feeAmount
  split
  · exact .ok _
  split
  · rename_i e he
    exact .error (show e.panics = false from metaDecimal_noPanic e he)
  split
  · exact .error rfl
  split
  · exact .error rfl
  · exact .ok _

theorem requirePresent_noPanic {msg : String} {m : Metadata} {k : MetaKey} :
    NoPanic (requirePresent msg m k) := by
  unfold requirePresent
  split
  · exact .ok _
  · exact .error rfl

theorem fundsChecks_noPanic (h : 0 < cmd.accountIDs.length) : NoPanic (fundsChecks E cmd bal) :=
  .bind (account_noPanic h) fun _ => .bind amountChecks_noPanic fun _ => sufficientFunds_noPanic

theorem fundsAndFeeChecks_noPanic (h : 0 < cmd.accountIDs.length) : NoPanic (fundsAndFeeChecks E cmd bal) :=
  .bind (fundsChecks_noPanic h) fun _ => feeAmount_noPanic

theorem getHeader_noPanic : NoPanic (getHeader E db id) := by
  unfold getHeader
  split
  · exact .ok _
  · exact .error rfl

theorem validateOriginalForClose_noPanic {ref : UUID} {t : TxType} {amount : Decimal} :
    NoPanic (validateOriginalForClose E db ref t amount) := by
  refine .bind getHeader_noPanic.inContext fun h => ?_
  refine .guard rfl (.guard rfl (.guard rfl ?_))
  split
  · exact .error rfl
  · exact .ok _

theorem fxRebalanceTarget_noPanic {c : Command} : NoPanic (fxRebalanceTarget E c) := by
  unfold fxRebalanceTarget
  refine .guard rfl ?_
  refine .guard rfl ?_
  refine .guard rfl ?_
  refine .guard rfl ?_
  exact .ok _

theorem fxLimit_noPanic {pair : String} {c : Currency} : NoPanic (fxLimit E pair c) := by
  unfold fxLimit
  split
  · exact .ok _
  · exact .error rfl

theorem validateFXRebalancePosition_noPanic {increase : Bool} :
    NoPanic (validateFXRebalancePosition E cmd bal id increase) := by
  refine .bind fxRebalanceTarget_noPanic fun _ => .bind fxLimit_noPanic fun _ => ?_
  split
  · exact .error rfl
  refine .guard rfl ?_
  dsimp only
  split <;> split
  · exact .error rfl
  · exact .ok _
  · exact .error rfl
  · exact .ok _

theorem validateFXRebalance_noPanic {name missing : String} {i : ℕ} {increase : Bool}
    (h : i < cmd.accountIDs.length) :
    NoPanic (validateFXRebalance E name missing i increase cmd bal) := by
  unfold validateFXRebalance
  refine .guard rfl ?_
  refine .bind requirePresent_noPanic fun _ => .bind requirePresent_noPanic fun _ => ?_
  refine .bind amountChecks_noPanic fun _ => .bind (account_noPanic h) fun _ => ?_
  exact validateFXRebalancePosition_noPanic

theorem movement_noPanic {dn cn : String} (h : 2 ≤ cmd.accountIDs.length) : NoPanic (movement dn cn cmd) :=
  .bind (account_noPanic (by omega)) fun _ => .bind (account_noPanic h) fun _ => .ok _

theorem movementWithFee_noPanic {dn cn fn : String} (h : 2 ≤ cmd.accountIDs.length) :
    NoPanic (movementWithFee E dn cn fn cmd) := by
  refine .bind (account_noPanic (by omega)) fun _ => .bind (account_noPanic h) fun _ => ?_
  split <;> exact .ok _

theorem moneyIn_validate_noPanic : NoPanic ((moneyIn E).validate db cmd bal) := by
  refine .bind amountChecks_noPanic fun _ => .bind feeAmount_noPanic fun _ => ?_
  split
  · split
    · exact .error rfl
    · exact .guard rfl (.ok _)
  · exact .ok _

theorem transferPocket_validate_noPanic (h : 2 ≤ cmd.accountIDs.length) :
    NoPanic ((transferPocket E).validate db cmd bal) := by
  refine .bind (.mapError fun _ => rfl) fun dir => .guard rfl ?_
  have hchecks : ∀ a, NoPanic (amountChecks E cmd >>= fun _ => sufficientFunds E a cmd bal) :=
    fun a => .bind amountChecks_noPanic fun _ => sufficientFunds_noPanic
  split
  · exact .bind (account_noPanic h) hchecks
  · exact .bind (account_noPanic (by omega)) hchecks

theorem refund_validate_noPanic (h : 0 < cmd.accountIDs.length) :
    NoPanic ((refund E).validate db cmd bal) := by
  refine .bind getHeader_noPanic.inContext fun hd => .guard rfl (.guard rfl ?_)
  exact fundsChecks_noPanic h

theorem reversal_validate_noPanic : NoPanic ((reversal E).validate db cmd bal) := by
  refine .bind getHeader_noPanic.inContext fun hd => .guard rfl (.guard rfl ?_)
  split
  · exact .error rfl
  · exact .ok _

/-- **`Validate` of a processor with two accounts does not panic.** -/
theorem validate_noPanic {t : TxType} (hp : registry E t = .ok p)
    (h : 2 ≤ cmd.accountIDs.length) : NoPanic (p.validate db cmd bal) := by
  have hpos : 0 < cmd.accountIDs.length := by omega
  cases t <;> simp only [registry, Except.ok.injEq, reduceCtorEq] at hp <;> subst hp
  case moneyIn => exact moneyIn_validate_noPanic
  case transferPocket => exact transferPocket_validate_noPanic h
  case refund => exact refund_validate_noPanic hpos
  case reversal => exact reversal_validate_noPanic
  case merchantPayinCredit => exact .bind amountChecks_noPanic fun _ => feeAmount_noPanic
  case transferP2P =>
    exact .bind (account_noPanic hpos) fun _ => .bind (account_noPanic h) fun _ =>
      .bind amountChecks_noPanic fun _ => .bind sufficientFunds_noPanic fun _ =>
        .bind notSelfTransfer_noPanic fun _ => feeAmount_noPanic
  case merchantTransfer =>
    exact .bind (account_noPanic hpos) fun _ => .bind (account_noPanic h) fun _ =>
      .bind amountChecks_noPanic fun _ => .bind sufficientFunds_noPanic fun _ => notSelfTransfer_noPanic
  case interestAdjustment =>
    simp only [interestAdjustment]
    split
    · exact fundsChecks_noPanic hpos
    · exact amountChecks_noPanic
  case fxRebalanceCredit => exact validateFXRebalance_noPanic h
  case fxRebalanceDebit => exact validateFXRebalance_noPanic hpos
  case freezeConfiscate =>
    exact .bind requirePresent_noPanic fun _ => .bind requirePresent_noPanic fun _ => fundsChecks_noPanic hpos
  -- the others are a movement's checks, after the original or the metadata it asks for
  all_goals first
    | exact amountChecks_noPanic
    | exact fundsChecks_noPanic hpos
    | exact fundsAndFeeChecks_noPanic hpos
    | exact .bind requirePresent_noPanic fun _ => amountChecks_noPanic
    | exact .bind requirePresent_noPanic fun _ => fundsChecks_noPanic hpos
    | exact .bind validateOriginalForClose_noPanic fun _ => fundsChecks_noPanic hpos
    | exact .bind validateOriginalForClose_noPanic fun _ => fundsAndFeeChecks_noPanic hpos

theorem moneyIn_buildEntries_noPanic (h : 2 ≤ cmd.accountIDs.length) :
    NoPanic ((moneyIn E).buildEntries db cmd bal) := by
  refine .bind (account_noPanic (by omega)) fun _ => .bind (account_noPanic h) fun _ => ?_
  dsimp only
  split
  · exact .ok _
  split <;> exact .ok _

theorem transferPocket_buildEntries_noPanic (h : 2 ≤ cmd.accountIDs.length) :
    NoPanic ((transferPocket E).buildEntries db cmd bal) := by
  refine .bind (account_noPanic (by omega)) fun _ => .bind (account_noPanic h) fun _ => ?_
  split <;> exact .ok _

theorem reversal_buildEntries_noPanic : NoPanic ((reversal E).buildEntries db cmd bal) := by
  simp only [reversal]
  refine .guard rfl ?_
  split
  · exact .error rfl
  · exact .ok _

/-- **`BuildEntries` of a processor with two accounts does not panic.** -/
theorem buildEntries_noPanic {t : TxType} (hp : registry E t = .ok p)
    (h : 2 ≤ cmd.accountIDs.length) : NoPanic (p.buildEntries db cmd bal) := by
  cases t <;> simp only [registry, Except.ok.injEq, reduceCtorEq] at hp <;> subst hp
  case moneyIn => exact moneyIn_buildEntries_noPanic h
  case transferPocket => exact transferPocket_buildEntries_noPanic h
  case reversal => exact reversal_buildEntries_noPanic
  all_goals first
    | exact movement_noPanic h
    | exact movementWithFee_noPanic h

/-- A computation that asks for `AccountIDs[0]` and `AccountIDs[1]` first. -/
theorem account_pair_error {α : Type} {f : UUID → UUID → Except Err α} (h : cmd.accountIDs.length < 2) :
    (cmd.account 0 >>= fun a => cmd.account 1 >>= f a) = .error .indexOutOfRange := by
  by_cases hzero : cmd.accountIDs.length = 0
  · rw [account_error (i := 0) (by omega)]
    rfl
  · rw [account_error (i := 1) (by omega)]
    obtain ⟨a, ha⟩ : ∃ a, cmd.account 0 = .ok a := by
      unfold ResolvedCommand.account
      rw [List.getElem?_eq_getElem (show 0 < cmd.accountIDs.length by omega)]
      exact ⟨_, rfl⟩
    rw [ha]
    rfl

/-- **`BuildEntries` of a processor with fewer accounts panics**, except that of a reversal. -/
theorem buildEntries_panics {t : TxType} (hp : registry E t = .ok p)
    (ht : t ≠ .reversal) (h : cmd.accountIDs.length < 2) :
    p.buildEntries db cmd bal = .error .indexOutOfRange := by
  cases t <;> simp only [registry, Except.ok.injEq, reduceCtorEq] at hp <;> subst hp
  case reversal => exact absurd rfl ht
  all_goals exact account_pair_error h

end Enough

/-! ## Which roles can coincide -/

/-- All roles are on one account. -/
def OneAccount (ids : List UUID) : Prop := ∀ x ∈ ids, ∀ y ∈ ids, x = y

theorem OneAccount.legs_eq {fees : List UUID} (h : OneAccount (src :: dst :: fees)) :
    src = dst := h src (by simp) dst (by simp)

theorem nodup_deduplicate (seen ids : List UUID) : (deduplicate seen ids).Nodup := by
  induction ids generalizing seen with
  | nil => exact List.nodup_nil
  | cons id ids ih =>
    rw [deduplicate]
    split
    · exact ih seen
    · rw [List.nodup_cons]
      exact ⟨fun hmem => (mem_deduplicate.1 hmem).2 List.mem_cons_self, ih _⟩

/-- What `deduplicate` leaves is shorter than two exactly when all roles are on one
account. -/
theorem length_deduplicate_lt_two {ids : List UUID} : (deduplicate [] ids).length < 2 ↔ OneAccount ids := by
  have hmem : ∀ a, a ∈ deduplicate [] ids ↔ a ∈ ids := fun a => by simp [mem_deduplicate]
  have hnodup := nodup_deduplicate [] ids
  constructor
  · intro hlen x hx y hy
    rw [← hmem] at hx hy
    generalize deduplicate [] ids = out at hlen hx hy
    match out, hlen with
    | [a], _ =>
      rw [List.mem_singleton] at hx hy
      exact hx.trans hy.symm
  · intro hone
    by_contra hlen
    generalize hout : deduplicate [] ids = out at hlen hnodup hmem
    match out with
    | a :: b :: rest =>
      have hab : a = b := hone a ((hmem a).1 (by simp)) b ((hmem b).1 (by simp))
      simp [hab] at hnodup
    | [a] => simp at hlen
    | [] => simp at hlen

/-- The type of an account. -/
def typeOf (E : Env) (id : UUID) : Option AccountType := (E.accounts.byID id).map AccountRow.type

@[grind →] theorem ownerAccountID_type {owner : OwnerType} {ownerID : UUID} {c : Currency}
    (h : ownerAccountID E owner ownerID t c = .ok id) : typeOf E id = some t := by
  obtain ⟨r, hmem, rfl⟩ : ∃ r ∈ ownerAccounts E owner ownerID t, r.id = id := by
    unfold ownerAccountID at h
    split at h
    · obtain ⟨r, hr, hid⟩ := foundAccount_ok h
      exact ⟨r, List.mem_of_find?_eq_some hr, hid⟩
    · obtain ⟨r, hr, hid⟩ := foundAccount_ok h
      exact ⟨r, List.mem_of_find?_eq_some (firstByCurrency_find hr), hid⟩
  simp only [ownerAccounts, List.mem_filter, decide_eq_true_eq] at hmem
  rw [typeOf, AccountTable.byID_of_mem hmem.1, Option.map_some, hmem.2.2.2.1]

@[grind →] theorem userAccountID_type {c : Currency}
    (h : userAccountID E userID t c = .ok id) : typeOf E id = some t := ownerAccountID_type h

@[grind →] theorem merchantAccountID_type {tenantID : UUID} {c : Currency}
    (h : merchantAccountID E tenantID t c = .ok id) : typeOf E id = some t := ownerAccountID_type h

@[grind →] theorem userPocketAccountID_type {code : String} {c : Currency}
    (h : userPocketAccountID E userID code c = .ok id) : typeOf E id = some .pocket :=
  (userPocketAccountID_ok h).type

@[grind →] theorem getSystemAccountID_type {q : String} {c : Currency}
    (h : getSystemAccountID E t q c = .ok id) : typeOf E id = some t := (systemAccount_ok h).type

@[grind →] theorem withInlineFee_ordered {name : String} {cmd : Command} {c c' : Currency}
    {acc : ResolvedAccounts} (h : withInlineFee E name cmd c (twoLeg src dst) = .ok (acc, c')) :
    ∃ fees, acc.ordered = src :: dst :: fees := by
  obtain ⟨fees, rfl, -⟩ := withInlineFee_ok h
  exact ⟨fees, rfl⟩

/-- The user's side of a top-up, a payment or a withdrawal. -/
def userLeg (cmd : Command) : AccountType := if cmd.pocketCode = "" then .cash else .pocket

@[grind →] theorem cashOrPocket_type {pc cc : String} {cmd : Command}
    (h : cashOrPocket E pc cc cmd = .ok id) : typeOf E id = some (userLeg cmd) := by
  unfold cashOrPocket at h
  unfold userLeg
  by_cases hp : cmd.pocketCode = ""
  · rw [if_neg (not_not.2 hp), inContext_eq_ok] at h
    rw [if_pos hp]
    exact userAccountID_type h
  · rw [if_pos hp, inContext_eq_ok] at h
    rw [if_neg hp]
    exact userPocketAccountID_type h

/-- The types of the account that pays and the account that is paid, for a command whose
accounts are both looked up by type. -/
def legTypes (cmd : Command) : Option (AccountType × AccountType) :=
  match cmd.type with
  | .moneyIn => some (.settlement, userLeg cmd)
  | .moneyOut => some (userLeg cmd, .settlement)
  | .withdrawInitiate => some (userLeg cmd, .hold)
  | .withdrawPending => some (.hold, .pending)
  | .withdrawSettle => some (.hold, .settlement)
  | .withdrawCancel => some (.hold, .cash)
  | .withdrawPendingSettle => some (.pending, .settlement)
  | .withdrawPendingCancel => some (.pending, .cash)
  | .transferP2P => some (.cash, .cash)
  | .transferPocket => some (.cash, .pocket)
  | .merchantPayinCredit => some (.settlement, .cash)
  | .merchantPayoutHold => some (.cash, .hold)
  | .merchantPayoutSettle => some (.hold, .settlement)
  | .merchantPayoutCancel => some (.hold, .cash)
  | .feeCollect => some (.cash, .fee)
  | .chargeback => some (.cash, .chargeback)
  | .escrowHold => some (.cash, .escrow)
  | .escrowRefund => some (.escrow, .cash)
  | .freezeInitiate => some (.cash, .frozen)
  | .freezeRelease => some (.frozen, .cash)
  | .freezeConfiscate => some (.frozen, .confiscated)
  | .adjustmentCredit => some (.adjustment, .cash)
  | .adjustmentDebit => some (.cash, .adjustment)
  | .adjustmentSuspenseCredit => some (.adjustment, .suspense)
  | .adjustmentSuspenseDebit => some (.suspense, .adjustment)
  | .fxRebalanceCredit => some (.adjustment, .fxConversion)
  | .fxRebalanceDebit => some (.fxConversion, .adjustment)
  | .fxOut => some (.cash, .fxConversion)
  | .fxIn => some (.fxConversion, .cash)
  | .disbursement => some (.settlement, .cash)
  | .interestLiabilityAccrue => some (.interestExpense, .accruedInterestPayable)
  | .interestAdjustment =>
    if metaStringD cmd.metadata .correctionStage = "accrual" then
      if metaStringD cmd.metadata .direction = "negative" then
        some (.accruedInterestPayable, .interestExpense)
      else some (.interestExpense, .accruedInterestPayable)
    else none
  -- named in the metadata, or those of the original
  | .merchantTransfer | .refund | .escrowRelease | .interestAccrue | .interestCapitalize | .reversal
  | .other _ => none

/-- **A command's two accounts have the types they are looked up by.** -/
theorem resolveAccounts_types {cmd : Command} (hp : registry E cmd.type = .ok p) {db : Db}
    {acc : ResolvedAccounts} {c : Currency} (h : p.resolveAccounts db cmd = .ok (acc, c))
    (ht : legTypes cmd = some (t, t')) :
    ∃ src dst fees, acc.ordered = src :: dst :: fees ∧ typeOf E src = some t ∧ typeOf E dst = some t' := by
  unfold legTypes at ht
  cases htype : cmd.type <;> rw [htype] at hp ht <;> simp only [registry, Except.ok.injEq, reduceCtorEq] at hp <;>
    subst hp
  case interestAdjustment =>
    simp only [interestAdjustment, correctionStage, bind_eq_ok, guard_eq_ok, inContext_eq_ok, pure_eq,
      twoLeg] at h
    grind
  all_goals cases ht
  all_goals
    simp only [moneyIn, moneyOut, withdrawInitiate, withdrawPending, withdrawSettle, withdrawCancel,
      withdrawPendingSettle, withdrawPendingCancel, transferP2P, transferPocket, merchantPayinCredit,
      merchantPayoutHold, merchantPayoutSettle, merchantPayoutCancel, feeCollect, chargeback, escrowHold,
      escrowRefund, freezeInitiate, freezeRelease, freezeConfiscate, adjustmentCredit, adjustmentDebit,
      adjustmentSuspenseCredit, adjustmentSuspenseDebit, fxRebalanceCredit, fxRebalanceDebit, fxOut, fxIn,
      disbursement, interestLiabilityAccrue, resolveUserPair, resolveFxLeg, bind_eq_ok, guard_eq_ok,
      inContext_eq_ok, pure_eq, Except.ok.injEq, Prod.mk.injEq, Prod.exists] at h
    grind [twoLeg]

theorem legTypes_ne {cmd : Command} (h : legTypes cmd = some (t, t')) (hne : cmd.type ≠ .transferP2P) :
    t ≠ t' := by
  unfold legTypes userLeg at h
  grind

/-! ## The condition -/

/-- The account in metadata `account_id` is the system account of type `t` in its own
currency. -/
def NamesSystemAccount (E : Env) (cmd : Command) (t : AccountType) : Prop :=
  ∃ id c, metaUUID E.text cmd.metadata .accountID = .ok id ∧ getAccountCurrency E id = .ok c ∧
    getSystemAccountID E t "" c = .ok id

/-- **The account a command names in its metadata is the one it already has on the other
side**, and no third account is left: a refund to the user from the user's own account, a
release from escrow to the escrow account without a fee, interest paid to the account it
is paid from. -/
def NamesCounterparty (E : Env) (cmd : Command) : Prop :=
  match cmd.type with
  | .refund =>
    ∃ id, metaUUID E.text cmd.metadata .merchantAccountID = .ok id ∧
      userAccountID E cmd.targetUserID .cash cmd.currency = .ok id
  | .escrowRelease =>
    ∃ id c, metaUUID E.text cmd.metadata .merchantAccountID = .ok id ∧ getAccountCurrency E id = .ok c ∧
      getSystemAccountID E .escrow c c = .ok id ∧
        ∀ feeID, resolveInlineFee E cmd c = .ok (some feeID) → feeID = UUID.nil
  | .interestAccrue => NamesSystemAccount E cmd .interestExpense
  | .interestCapitalize => NamesSystemAccount E cmd .accruedInterestPayable
  | .interestAdjustment =>
    metaStringD cmd.metadata .correctionStage = "capitalization" ∧
      NamesSystemAccount E cmd .accruedInterestPayable
  | _ => False

section Coincide

variable {cmd : Command} {db : Db} {acc : ResolvedAccounts} {c : Currency}

theorem oneAccount_pair : OneAccount (twoLeg a b).ordered ↔ a = b := by
  constructor
  · exact OneAccount.legs_eq
  · rintro rfl x hx y hy
    simp only [twoLeg, List.mem_cons, List.not_mem_nil, or_false, or_self] at hx hy
    rw [hx, hy]

theorem refund_oneAccount (h : (refund E).resolveAccounts db cmd = .ok (acc, c)) :
    OneAccount acc.ordered ↔ ∃ id, metaUUID E.text cmd.metadata .merchantAccountID = .ok id ∧
      userAccountID E cmd.targetUserID .cash cmd.currency = .ok id := by
  simp only [refund] at h
  obtain ⟨-, h⟩ := guard_eq_ok.1 h
  obtain ⟨merchantID, hm, h⟩ := bind_eq_ok.1 h
  obtain ⟨userCashID, hu, h⟩ := bind_eq_ok.1 h
  obtain ⟨c', -, h⟩ := bind_eq_ok.1 h
  cases h
  rw [inContext_eq_ok] at hm hu
  rw [oneAccount_pair, hm, hu]
  constructor
  · rintro rfl
    exact ⟨merchantID, rfl, rfl⟩
  · rintro ⟨id, h1, h2⟩
    exact (Except.ok.inj h1).trans (Except.ok.inj h2).symm

/-- With a fee account there are two accounts left. -/
theorem escrowRelease_oneAccount (h : (escrowRelease E).resolveAccounts db cmd = .ok (acc, c)) :
    OneAccount acc.ordered ↔ ∃ id c, metaUUID E.text cmd.metadata .merchantAccountID = .ok id ∧
      getAccountCurrency E id = .ok c ∧ getSystemAccountID E .escrow c c = .ok id ∧
        ∀ feeID, resolveInlineFee E cmd c = .ok (some feeID) → feeID = UUID.nil := by
  obtain ⟨merchantID, hm, h⟩ := bind_eq_ok.1 h
  obtain ⟨c', hc, h⟩ := bind_eq_ok.1 h
  obtain ⟨escrowID, he, h⟩ := bind_eq_ok.1 h
  obtain ⟨fee, hfee, h⟩ := bind_eq_ok.1 h
  rw [inContext_eq_ok] at hm hc he hfee
  have hcond : (∃ id c, metaUUID E.text cmd.metadata .merchantAccountID = .ok id ∧
      getAccountCurrency E id = .ok c ∧ getSystemAccountID E .escrow c c = .ok id ∧
        ∀ feeID, resolveInlineFee E cmd c = .ok (some feeID) → feeID = UUID.nil) ↔
      escrowID = merchantID ∧ ∀ feeID, fee = some feeID → feeID = UUID.nil := by
    constructor
    · rintro ⟨id, c₀, h1, h2, h3, h4⟩
      rw [hm] at h1
      cases h1
      rw [hc] at h2
      cases h2
      rw [he] at h3
      exact ⟨Except.ok.inj h3, fun feeID hf => h4 feeID (hf ▸ hfee)⟩
    · rintro ⟨rfl, hnil⟩
      refine ⟨escrowID, c', hm, hc, he, fun feeID hf => hnil feeID ?_⟩
      rw [hfee] at hf
      exact Except.ok.inj hf
  rw [hcond]
  cases fee with
  | none =>
    cases h
    rw [oneAccount_pair]
    simp
  | some feeID =>
    dsimp only at h
    split at h
    · rename_i hne
      cases h
      constructor
      · -- the fee account is not the escrow account
        intro hone
        have heq : escrowID = feeID := hone escrowID (by simp [twoLeg]) feeID (by simp [twoLeg])
        have htype := (resolveInlineFee_ok hfee).type
        rw [← heq] at htype
        cases htype.symm.trans (systemAccount_ok he).type
      · rintro ⟨-, hnil⟩
        exact absurd (hnil feeID rfl) hne
    · rename_i hnil
      cases h
      rw [oneAccount_pair]
      simp only [ne_eq, not_not] at hnil
      simp [hnil]

/-- Interest between a system account and the account named in the metadata. -/
theorem oneAccount_named {accountID sysID : UUID} {c' : Currency}
    (hm : metaUUID E.text cmd.metadata .accountID = .ok accountID) (hc : getAccountCurrency E accountID = .ok c')
    (hs : getSystemAccountID E t "" c' = .ok sysID) : sysID = accountID ↔ NamesSystemAccount E cmd t := by
  constructor
  · rintro rfl
    exact ⟨sysID, c', hm, hc, hs⟩
  · rintro ⟨id, c₀, h1, h2, h3⟩
    rw [hm] at h1
    cases h1
    rw [hc] at h2
    cases h2
    rw [hs] at h3
    exact Except.ok.inj h3

theorem interestAccrue_oneAccount (h : (interestAccrue E).resolveAccounts db cmd = .ok (acc, c)) :
    OneAccount acc.ordered ↔ NamesSystemAccount E cmd .interestExpense := by
  obtain ⟨accountID, hm, h⟩ := bind_eq_ok.1 h
  obtain ⟨c', hc, h⟩ := bind_eq_ok.1 h
  obtain ⟨expenseID, hs, h⟩ := bind_eq_ok.1 h
  cases h
  rw [inContext_eq_ok] at hm hc hs
  rw [oneAccount_pair]
  exact oneAccount_named hm hc hs

theorem interestCapitalize_oneAccount (h : (interestCapitalize E).resolveAccounts db cmd = .ok (acc, c)) :
    OneAccount acc.ordered ↔ NamesSystemAccount E cmd .accruedInterestPayable := by
  obtain ⟨accountID, hm, h⟩ := bind_eq_ok.1 h
  obtain ⟨c', hc, h⟩ := bind_eq_ok.1 h
  obtain ⟨payableID, hs, h⟩ := bind_eq_ok.1 h
  cases h
  rw [inContext_eq_ok] at hm hc hs
  rw [oneAccount_pair]
  exact oneAccount_named hm hc hs

theorem interestAdjustment_oneAccount (h : (interestAdjustment E).resolveAccounts db cmd = .ok (acc, c)) :
    OneAccount acc.ordered ↔ metaStringD cmd.metadata .correctionStage = "capitalization" ∧
      NamesSystemAccount E cmd .accruedInterestPayable := by
  simp only [interestAdjustment] at h
  obtain ⟨accountID, hm, h⟩ := bind_eq_ok.1 h
  obtain ⟨c', hc, h⟩ := bind_eq_ok.1 h
  obtain ⟨expenseID, he, h⟩ := bind_eq_ok.1 h
  obtain ⟨payableID, hs, h⟩ := bind_eq_ok.1 h
  obtain ⟨stage, hstage, h⟩ := bind_eq_ok.1 h
  rw [inContext_eq_ok] at hm hc he hs
  simp only [correctionStage] at hstage
  obtain ⟨hone, hstage⟩ := guard_eq_ok.1 hstage
  cases hstage
  have hne : payableID ≠ expenseID := ne_of_type (systemAccount_ok hs).type (systemAccount_ok he).type (by decide)
  split at h
  · -- between the two system accounts, in either direction
    rename_i haccrual
    cases h
    rw [haccrual]
    split <;> simp [oneAccount_pair, hne, hne.symm]
  · rename_i haccrual
    cases h
    have hcap : metaStringD cmd.metadata .correctionStage = "capitalization" := by
      by_contra hcap
      exact hone ⟨haccrual, hcap⟩
    rw [← oneAccount_named hm hc hs]
    split <;> simp [oneAccount_pair, hcap, eq_comm]

/-- An account has one owner, so a transfer has two. -/
theorem transferP2P_legs (h : (transferP2P E).resolveAccounts db cmd = .ok (acc, c)) :
    ∃ src dst fees, acc.ordered = src :: dst :: fees ∧ src ≠ dst := by
  simp only [transferP2P] at h
  obtain ⟨-, h⟩ := guard_eq_ok.1 h
  obtain ⟨hne, h⟩ := guard_eq_ok.1 h
  obtain ⟨senderID, hs, h⟩ := bind_eq_ok.1 h
  obtain ⟨receiverID, hr, h⟩ := bind_eq_ok.1 h
  obtain ⟨c', -, h⟩ := bind_eq_ok.1 h
  rw [inContext_eq_ok] at hs hr
  obtain ⟨fees, hacc⟩ := withInlineFee_ordered h
  refine ⟨senderID, receiverID, fees, hacc, ?_⟩
  rintro rfl
  exact hne ((userAccountID_ok hs).owner (userAccountID_ok hr))

theorem transferP2P_apart (h : (transferP2P E).resolveAccounts db cmd = .ok (acc, c)) :
    ¬ OneAccount acc.ordered := by
  obtain ⟨src, dst, fees, hacc, hne⟩ := transferP2P_legs h
  rw [hacc]
  exact fun hone => hne hone.legs_eq

theorem merchantTransfer_apart (h : (merchantTransfer E).resolveAccounts db cmd = .ok (acc, c)) :
    ¬ OneAccount acc.ordered := by
  simp only [merchantTransfer] at h
  obtain ⟨-, h⟩ := guard_eq_ok.1 h
  obtain ⟨destinationID, -, h⟩ := bind_eq_ok.1 h
  obtain ⟨sourceID, -, h⟩ := bind_eq_ok.1 h
  obtain ⟨hne, h⟩ := guard_eq_ok.1 h
  obtain ⟨c', -, h⟩ := bind_eq_ok.1 h
  cases h
  rw [oneAccount_pair]
  exact hne

/-- **Two roles of a command fall on one account exactly when its metadata names the
counterparty.** -/
theorem oneAccount_iff (hp : registry E cmd.type = .ok p) (ht : cmd.type ≠ .reversal)
    (h : p.resolveAccounts db cmd = .ok (acc, c)) : OneAccount acc.ordered ↔ NamesCounterparty E cmd := by
  have hapart : (∃ t, legTypes cmd = some t) → cmd.type ≠ .transferP2P → ¬ OneAccount acc.ordered := by
    rintro ⟨⟨t, t'⟩, htypes⟩ hp2p hone
    obtain ⟨src, dst, fees, hacc, hsrc, hdst⟩ := resolveAccounts_types hp h htypes
    rw [hacc] at hone
    have heq := hone.legs_eq
    subst heq
    exact legTypes_ne htypes hp2p (Option.some.inj (hsrc.symm.trans hdst))
  unfold NamesCounterparty
  cases htype : cmd.type <;> rw [htype] at hp <;> simp only [registry, Except.ok.injEq, reduceCtorEq] at hp <;>
    subst hp
  case refund => exact refund_oneAccount h
  case escrowRelease => exact escrowRelease_oneAccount h
  case interestAccrue => exact interestAccrue_oneAccount h
  case interestCapitalize => exact interestCapitalize_oneAccount h
  case interestAdjustment => exact interestAdjustment_oneAccount h
  case transferP2P => simpa using transferP2P_apart h
  case merchantTransfer => simpa using merchantTransfer_apart h
  case reversal => exact absurd htype ht
  all_goals simpa using hapart ⟨_, by rw [legTypes, htype]⟩ (by simp [htype])

end Coincide

/-- **An access is out of range exactly when the metadata names the counterparty.** For
every command that passed `ResolveAccounts`, whether or not it passed `ValidateCommand`: `Validate` and
`BuildEntries`, on the resolved accounts without duplicates and on any database and
balances, do not panic if and only if the command does not name its counterparty.
`OutboxEvents` reads no account by position. -/
theorem positional_access_iff (E : Env) (db : Db) (cmd : Command) (p : TxProcessor) (acc : ResolvedAccounts)
    (c : Currency) (hp : registry E cmd.type = .ok p) (hr : p.resolveAccounts db cmd = .ok (acc, c)) :
    (∀ (rc : ResolvedCommand) (db' : Db) (bal : Balances), rc.accountIDs = deduplicate [] acc.ordered →
      NoPanic (p.validate db' rc bal) ∧ NoPanic (p.buildEntries db' rc bal)) ↔
    ¬ NamesCounterparty E cmd := by
  by_cases ht : cmd.type = .reversal
  · -- a reversal names its accounts by the entries of its original
    have hnames : ¬ NamesCounterparty E cmd := by
      unfold NamesCounterparty
      rw [ht]
      exact id
    rw [ht] at hp
    cases hp
    exact ⟨fun _ => hnames, fun _ _ _ _ _ => ⟨reversal_validate_noPanic, reversal_buildEntries_noPanic⟩⟩
  rw [← oneAccount_iff hp ht hr, ← length_deduplicate_lt_two]
  constructor
  · intro hall hlen
    let rc : ResolvedCommand := { cmd with
      accountIDs := deduplicate [] acc.ordered, source := acc.source, destination := acc.destination }
    obtain ⟨-, hbuild⟩ := hall rc db (fun _ => none) rfl
    cases hbuild _ (buildEntries_panics hp ht hlen)
  · intro hlen rc db' bal hrc
    have hlen : 2 ≤ rc.accountIDs.length := by
      rw [hrc]
      omega
    exact ⟨validate_noPanic hp hlen, buildEntries_noPanic hp hlen⟩

/-! ## A refund from the user's own account -/

namespace Sample

/-- User 1 has 100 in cash, from transaction 101. -/
def toppedUp : Db :=
  (run (World.step env) (.idle zeroed 0) (call 1 101 (command "k1" .moneyIn 100 UUID.nil))).db

/-- A refund of transaction 101 to user 1, from the account in the metadata. -/
def refundFrom (account : String) : Command :=
  { command "k2" .refund 30 101 with
    targetUserID := 1
    metadata := Metadata.empty.set .merchantAccountID (.str account) }

end Sample

open Sample

set_option maxRecDepth 20000 in
/-- A refund from the merchant's account stays in range. -/
theorem positional_access_iff_merchant :
    ∃ acc c, (refund env).resolveAccounts toppedUp (refundFrom "51") = .ok (acc, c) ∧
      ∀ (rc : ResolvedCommand) (db : Db) (bal : Balances), rc.accountIDs = deduplicate [] acc.ordered →
        NoPanic ((refund env).validate db rc bal) ∧ NoPanic ((refund env).buildEntries db rc bal) := by
  refine ⟨twoLeg 51 11, "IDR", by rfl, ?_⟩
  refine (positional_access_iff env toppedUp (refundFrom "51") (refund env) (twoLeg 51 11) "IDR" rfl rfl).2 ?_
  rintro ⟨id, hm, hu⟩
  have hm : id = 51 := (Except.ok.inj hm).symm
  have hu : id = 11 := (Except.ok.inj hu).symm
  exact absurd (hm.symm.trans hu) (by decide)

set_option maxRecDepth 20000 in
/-- **A refund from the account it goes to**: it passes every check, and `BuildEntries`
indexes past the end. -/
theorem refund_out_of_range :
    ((prepare env toppedUp 0 (refundFrom "11")).map (·.accountIDs)) = .ok [11] ∧
    ∃ rc bal, rc.toCommand = refundFrom "11" ∧ rc.accountIDs = [11] ∧
      (refund env).validate toppedUp rc bal = .ok () ∧
      (refund env).buildEntries toppedUp rc bal = .error .indexOutOfRange := by
  refine ⟨by decide +kernel, ⟨refundFrom "11", [11], 11, 11⟩, accountBalance env toppedUp, rfl, rfl, ?_, ?_⟩
  · decide +kernel
  · decide +kernel

end Seev.Ledger
