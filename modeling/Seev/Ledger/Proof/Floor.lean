import Mathlib.Tactic.Linarith
import Seev.Ledger.Proof.Roles

/-!
# The floor of a balance

`chk_balance_floor` refuses a negative balance of an account that may not have one. A
processor is to refuse such a posting itself: `Validate` of most of them checks the funds
of the account that pays.

* `Pays`: entries that take an amount from one account and give it to others.
* `validated_pays`: so do the entries of every processor but `reversal`, once `Validate`
  has passed; the funds of the payer are checked unless the type `skipsFundsCheck`.
* `reversal_keeps_floor`: a reversal checks every account it takes from.
* `floor_kept_iff`: a posting that was validated keeps the floor of every account, unless
  its type skips the check and its payer is short.
-/

namespace Seev.Ledger

open Lib

variable {ab : AccountBalance} {b feeID : UUID} {cn dn fn : String}

/-- The balances a posting has read: one row an account, and each row satisfies the
constraint `chk_balance_floor` of its table. -/
structure LockedBalances where
  rows : List AccountBalance
  nodup : (rows.map AccountBalance.accountID).Nodup
  floor : ∀ ab ∈ rows, ab.allowNegative = false → 0 ≤ ab.balance

namespace LockedBalances

variable (B : LockedBalances)

/-- The map handed to the processor. -/
def get : Balances := lookupBalance B.rows

/-- **The floor is kept**: after `applyEntries` no account that may not go negative is
negative. -/
def KeepsFloor (es : List EntryInstruction) : Prop :=
  ∀ ab ∈ B.rows, ab.allowNegative = false →
    ∀ x, (applyEntries B.rows es).lookup ab.accountID = some x → 0 ≤ x

variable {B}

theorem get_of_mem (h : ab ∈ B.rows) : B.get ab.accountID = some ab :=
  find?_id B.nodup h

theorem mem_of_get {a : UUID} (h : B.get a = some ab) : ab ∈ B.rows ∧ ab.accountID = a :=
  ⟨List.mem_of_find?_eq_some h, by simpa using List.find?_some h⟩

/-- The map that `applyEntries` starts from has the balance of every row. -/
theorem lookup_balanceMap_of_mem {rows : List AccountBalance} (hnodup : (rows.map AccountBalance.accountID).Nodup)
    (h : ab ∈ rows) (m : AmountMap) :
    (balanceMap rows m).lookup ab.accountID = some ab.balance := by
  induction rows generalizing m with
  | nil => cases h
  | cons r rows ih =>
    rw [List.map_cons, List.nodup_cons] at hnodup
    rw [balanceMap, List.foldl_cons, ← balanceMap]
    rcases List.mem_cons.1 h with rfl | hmem
    · -- no later row is of this account
      have hlater : ∀ (rows : List AccountBalance) (m : AmountMap),
        ab.accountID ∉ rows.map AccountBalance.accountID →
          (balanceMap rows m).lookup ab.accountID = m.lookup ab.accountID := by
        intro rows
        induction rows with
        | nil => intro m _; rfl
        | cons r rows ih =>
          intro m hnot
          rw [List.map_cons, List.mem_cons, not_or] at hnot
          rw [balanceMap, List.foldl_cons, ← balanceMap, ih _ hnot.2, AList.lookup_insert_ne hnot.1]
      rw [hlater rows _ hnodup.1, AList.lookup_insert]
    · exact ih hnodup.2 hmem _

/-- **An account ends at its balance plus the net effect of the entries.** -/
theorem lookup_after (h : ab ∈ B.rows) (es : List EntryInstruction) :
    (applyEntries B.rows es).lookup ab.accountID =
      some (ab.balance + net (es.map EntryInstruction.posting) ab.accountID) := by
  have hstart := lookup_balanceMap_of_mem B.nodup h ∅
  have hvalue := lookup_foldl_applyEntry es (balanceMap B.rows ∅) ab.accountID
  have hmem : ab.accountID ∈ es.foldl applyEntry (balanceMap B.rows ∅) :=
    (mem_foldl_applyEntry es _ _).2 (.inl (AList.lookup_isSome.1 (by rw [hstart]; rfl)))
  obtain ⟨x, hx⟩ := Option.isSome_iff_exists.1 (AList.lookup_isSome.2 hmem)
  rw [hx, hstart, Option.getD_some, Option.getD_some] at hvalue
  rw [← hvalue]
  exact hx

theorem keepsFloor_iff {es : List EntryInstruction} : B.KeepsFloor es ↔
    ∀ ab ∈ B.rows, ab.allowNegative = false →
      0 ≤ ab.balance + net (es.map EntryInstruction.posting) ab.accountID := by
  unfold KeepsFloor
  refine forall₂_congr fun ab hab => forall_congr' fun _ => ?_
  rw [lookup_after hab es]
  simp

end LockedBalances

/-! ## Entries that take from one account -/

/-- The entries take `amount` from account `a` and otherwise only give. -/
def Pays (a : UUID) (amount : Decimal) (es : List EntryInstruction) : Prop :=
  ∃ note credits, es = ⟨a, .debit, amount, note⟩ :: credits ∧
    ∀ e ∈ credits, e.direction = .credit ∧ 0 ≤ e.amount ∧ e.accountID ≠ a

namespace Pays

variable {a : UUID} {amount : Decimal} {es : List EntryInstruction}

theorem net_self (h : Pays a amount es) : net (es.map EntryInstruction.posting) a = -amount := by
  obtain ⟨note, credits, rfl, hcredits⟩ := h
  have hzero : net (credits.map EntryInstruction.posting) a = 0 := by
    refine net_eq_zero fun p hp => ?_
    obtain ⟨e, he, rfl⟩ := List.mem_map.1 hp
    exact (hcredits e he).2.2
  rw [List.map_cons, net_cons, hzero]
  simp [EntryInstruction.posting, Posting.signed]

theorem net_other (h : Pays a amount es) {x : UUID} (hx : x ≠ a) :
    0 ≤ net (es.map EntryInstruction.posting) x := by
  obtain ⟨note, credits, rfl, hcredits⟩ := h
  rw [List.map_cons, net_cons, if_neg (by simpa [EntryInstruction.posting] using hx.symm), zero_add]
  refine net_nonneg (fun p hp => ?_) fun p hp _ => ?_
  · obtain ⟨e, he, rfl⟩ := List.mem_map.1 hp
    exact (hcredits e he).2.1
  · obtain ⟨e, he, rfl⟩ := List.mem_map.1 hp
    exact (hcredits e he).1

/-- **Only the payer's floor is at stake.** -/
theorem keepsFloor_iff (h : Pays a amount es) {B : LockedBalances} : B.KeepsFloor es ↔
    ∀ ab, B.get a = some ab → ab.allowNegative = false → amount ≤ ab.balance := by
  rw [LockedBalances.keepsFloor_iff]
  constructor
  · intro hall ab hab hneg
    obtain ⟨hmem, hid⟩ := LockedBalances.mem_of_get hab
    have hnew := hall ab hmem hneg
    rw [hid, h.net_self] at hnew
    linarith
  · intro hpayer ab hmem hneg
    by_cases hid : ab.accountID = a
    · have hfunds := hpayer ab (hid ▸ LockedBalances.get_of_mem hmem) hneg
      rw [hid, h.net_self]
      linarith
    · exact add_nonneg (B.floor ab hmem hneg) (h.net_other hid)

end Pays

/-! ## What the checks of a processor establish -/

section Checks

variable {E : Env} {rc : ResolvedCommand} {bal : Balances} {es : List EntryInstruction}

theorem amountChecks_pos (h : amountChecks E rc = .ok ()) : 0 < rc.amount := by
  unfold amountChecks positiveAmount at h
  obtain ⟨_, hpos, -⟩ := bind_eq_ok.1 h
  split at hpos
  · cases hpos
  · rename_i hle
    exact not_le.1 hle

theorem sufficientFunds_ok {a : UUID} (h : sufficientFunds E a rc bal = .ok ()) :
    ∃ ab, bal a = some ab ∧ rc.amount ≤ ab.balance := by
  unfold sufficientFunds at h
  split at h
  · cases h
  rename_i ab hab
  split at h
  · cases h
  · rename_i hlt
    exact ⟨ab, hab, not_lt.1 hlt⟩

/-- The fee of a command that passed the fee check is less than its amount. -/
theorem feeAmount_lt (h : feeAmount E rc = .ok ()) {fee : Decimal}
    (hfee : hasFee E rc = some (feeID, fee)) : fee < rc.amount := by
  obtain ⟨-, -, hmeta, -⟩ := (hasFee_eq_some E).1 hfee
  unfold feeAmount at h
  rw [hfee, hmeta] at h
  dsimp only at h
  split at h
  · cases h
  split at h
  · cases h
  · rename_i hlt
    exact not_le.1 hlt

theorem account_eq_ok {i : ℕ} {a : UUID} : rc.account i = .ok a ↔ rc.accountIDs[i]? = some a := by
  unfold ResolvedCommand.account
  cases rc.accountIDs[i]? <;> simp

/-- Accounts at different positions are different. -/
theorem account_ne (hnodup : rc.accountIDs.Nodup) {i j : ℕ} {a : UUID} (ha : rc.account i = .ok a)
    (hb : rc.account j = .ok b) (hij : i ≠ j) : a ≠ b := by
  rw [account_eq_ok] at ha hb
  rintro rfl
  obtain ⟨hi, hia⟩ := List.getElem?_eq_some_iff.1 ha
  obtain ⟨hj, hja⟩ := List.getElem?_eq_some_iff.1 hb
  exact hij ((hnodup.getElem_inj_iff).1 (hia.trans hja.symm))

/-- The fee account is not one of the first two. -/
theorem hasFee_account (hnodup : rc.accountIDs.Nodup) {fee : Decimal}
    (hfee : hasFee E rc = some (feeID, fee)) {i : ℕ} (hi : i < 2) {a : UUID} (ha : rc.account i = .ok a) :
    feeID ≠ a := by
  obtain ⟨hlen, hlast, -, -⟩ := (hasFee_eq_some E).1 hfee
  rw [List.getLast?_eq_getElem?, ← account_eq_ok] at hlast
  exact account_ne hnodup hlast ha (by omega)

theorem movement_pays (hnodup : rc.accountIDs.Nodup) (hpos : 0 < rc.amount)
    (h : movement dn cn rc = .ok es) : ∃ a, rc.account 0 = .ok a ∧ Pays a rc.amount es := by
  obtain ⟨a, ha, h⟩ := bind_eq_ok.1 h
  obtain ⟨b, hb, h⟩ := bind_eq_ok.1 h
  cases h
  refine ⟨a, ha, dn, _, rfl, fun e he => ?_⟩
  rw [List.mem_singleton.1 he]
  exact ⟨rfl, hpos.le, account_ne hnodup hb ha (by decide)⟩

/-- Two credits, one of them a fee below the amount. -/
theorem pays_with_fee (hnodup : rc.accountIDs.Nodup) {fee x y : Decimal}
    (hfee : hasFee E rc = some (feeID, fee)) {a : UUID} (ha : rc.account 0 = .ok a) (hb : rc.account 1 = .ok b)
    (hy : 0 ≤ y) (dn cn fn : String) :
      Pays a x [⟨a, .debit, x, dn⟩, ⟨b, .credit, y, cn⟩, ⟨feeID, .credit, fee, fn⟩] := by
  refine ⟨dn, _, rfl, fun e he => ?_⟩
  rcases List.mem_cons.1 he with rfl | he
  · exact ⟨rfl, hy, account_ne hnodup hb ha (by decide)⟩
  · rw [List.mem_singleton.1 he]
    exact ⟨rfl, (hasFee_mem E hfee).2.le, hasFee_account hnodup hfee (by decide) ha⟩

theorem movementWithFee_pays (hnodup : rc.accountIDs.Nodup) (hpos : 0 < rc.amount)
    (hfee : feeAmount E rc = .ok ()) (h : movementWithFee E dn cn fn rc = .ok es) :
    ∃ a, rc.account 0 = .ok a ∧ Pays a rc.amount es := by
  obtain ⟨a, ha, h⟩ := bind_eq_ok.1 h
  obtain ⟨b, hb, h⟩ := bind_eq_ok.1 h
  refine ⟨a, ha, ?_⟩
  split at h
  · cases h
    refine ⟨dn, _, rfl, fun e he => ?_⟩
    rw [List.mem_singleton.1 he]
    exact ⟨rfl, hpos.le, account_ne hnodup hb ha (by decide)⟩
  · rename_i feeID fee hhas
    cases h
    have hlt := feeAmount_lt hfee hhas
    exact pays_with_fee hnodup hhas ha hb (by linarith) dn cn fn

end Checks

/-! ## Which types check the payer -/

/-- The types whose `Validate` has no funds check on the account that pays. -/
def skipsFundsCheck (rc : ResolvedCommand) : Bool :=
  match rc.type with
  | .moneyIn | .merchantPayinCredit | .disbursement | .chargeback | .adjustmentCredit
  | .adjustmentSuspenseCredit | .adjustmentSuspenseDebit | .fxRebalanceCredit | .fxRebalanceDebit | .fxIn
  | .interestAccrue | .interestLiabilityAccrue | .interestCapitalize => true
  | .interestAdjustment => decide (metaStringD rc.metadata .direction ≠ "negative")
  | _ => false

/-- What the payer is to pay: the amount, and the fee of a top-up that adds it on top. -/
def charge (E : Env) (rc : ResolvedCommand) : Decimal :=
  if rc.type = .moneyIn ∧ metaStringD rc.metadata .feeApplication = "added_on_top" then
    rc.amount + ((hasFee E rc).map Prod.snd).getD 0
  else rc.amount

/-- The entries take the charge from one account, whose funds were checked unless the type
skips that; then it is the first account. -/
def Charged (E : Env) (rc : ResolvedCommand) (bal : Balances) (es : List EntryInstruction) : Prop :=
  ∃ a, Pays a (charge E rc) es ∧ (skipsFundsCheck rc = true → rc.account 0 = .ok a) ∧
    (skipsFundsCheck rc = false → ∃ ab, bal a = some ab ∧ charge E rc ≤ ab.balance)

section Charged

variable {E : Env} {rc : ResolvedCommand} {bal : Balances} {db db' : Db} {es : List EntryInstruction}

theorem charge_eq (h : rc.type ≠ .moneyIn) : charge E rc = rc.amount := if_neg fun hm => h hm.1

theorem Charged.of_unchecked (hskip : skipsFundsCheck rc = true) (ht : rc.type ≠ .moneyIn)
    (h : ∃ a, rc.account 0 = .ok a ∧ Pays a rc.amount es) : Charged E rc bal es := by
  obtain ⟨a, ha, hpays⟩ := h
  refine ⟨a, charge_eq ht ▸ hpays, fun _ => ha, fun hfalse => ?_⟩
  rw [hskip] at hfalse
  cases hfalse

/-- The funds of the account that pays were checked. -/
theorem Charged.of_funds (hskip : skipsFundsCheck rc = false) (ht : rc.type ≠ .moneyIn) {a : UUID}
    (hfunds : sufficientFunds E a rc bal = .ok ()) (hpays : Pays a rc.amount es) : Charged E rc bal es := by
  refine ⟨a, charge_eq ht ▸ hpays, fun htrue => ?_, fun _ => charge_eq (E := E) ht ▸ sufficientFunds_ok hfunds⟩
  rw [hskip] at htrue
  cases htrue

theorem Charged.of_fundsChecks (hskip : skipsFundsCheck rc = false) (ht : rc.type ≠ .moneyIn)
    (hfunds : fundsChecks E rc bal = .ok ())
    (h : 0 < rc.amount → ∃ a, rc.account 0 = .ok a ∧ Pays a rc.amount es) : Charged E rc bal es := by
  obtain ⟨a, ha, hfunds⟩ := bind_eq_ok.1 hfunds
  obtain ⟨_, hamount, hfunds⟩ := bind_eq_ok.1 hfunds
  obtain ⟨a', ha', hpays⟩ := h (amountChecks_pos hamount)
  rw [ha] at ha'
  cases ha'
  exact .of_funds hskip ht hfunds hpays

theorem Charged.of_fundsAndFeeChecks (hnodup : rc.accountIDs.Nodup) (hskip : skipsFundsCheck rc = false)
    (ht : rc.type ≠ .moneyIn) (hv : fundsAndFeeChecks E rc bal = .ok ())
    (hb : movementWithFee E dn cn fn rc = .ok es) : Charged E rc bal es := by
  obtain ⟨_, hfunds, hfee⟩ := bind_eq_ok.1 hv
  exact .of_fundsChecks hskip ht hfunds fun hpos => movementWithFee_pays hnodup hpos hfee hb

theorem moneyIn_charged (hnodup : rc.accountIDs.Nodup) (ht : rc.type = .moneyIn)
    (hv : (moneyIn E).validate db rc bal = .ok ()) (hb : (moneyIn E).buildEntries db' rc bal = .ok es) :
    Charged E rc bal es := by
  have hskip : skipsFundsCheck rc = true := by rw [skipsFundsCheck, ht]
  obtain ⟨_, hamount, hv⟩ := bind_eq_ok.1 hv
  obtain ⟨_, hfee, hv⟩ := bind_eq_ok.1 hv
  have hpos := amountChecks_pos hamount
  obtain ⟨a, ha, hb⟩ := bind_eq_ok.1 hb
  obtain ⟨b, hb', hb⟩ := bind_eq_ok.1 hb
  refine ⟨a, ?_, fun _ => ha, fun hfalse => by rw [hskip] at hfalse; cases hfalse⟩
  dsimp only at hb
  split at hb
  · -- no fee: the charge is the amount in both modes
    rename_i hnone
    cases hb
    have hcharge : charge E rc = rc.amount := by simp [charge, hnone]
    rw [hcharge]
    refine ⟨"", _, rfl, fun e he => ?_⟩
    rw [List.mem_singleton.1 he]
    exact ⟨rfl, hpos.le, account_ne hnodup hb' ha (by decide)⟩
  · rename_i feeID fee hhas
    have hlt := feeAmount_lt hfee hhas
    split at hb
    · rename_i htop
      have hcharge : charge E rc = rc.amount + fee := by simp [charge, ht, htop, hhas]
      -- `Validate` compared the total with amount and fee
      rw [if_pos htop] at hv
      cases htotal : metaDecimal E.text rc.metadata .totalDebit with
      | error e =>
        rw [htotal] at hv
        cases hv
      | ok total =>
        rw [htotal] at hv hb
        dsimp only at hv hb
        rw [hhas, Option.map_some, Option.getD_some] at hv
        obtain ⟨heq, -⟩ := guard_eq_ok.1 hv
        cases hb
        rw [hcharge, ← not_not.1 heq]
        exact pays_with_fee hnodup hhas ha hb' hpos.le _ _ _
    · rename_i htop
      cases hb
      have hcharge : charge E rc = rc.amount := by simp [charge, htop]
      rw [hcharge]
      exact pays_with_fee hnodup hhas ha hb' (by linarith) _ _ _

theorem transferPocket_charged (hnodup : rc.accountIDs.Nodup) (ht : rc.type = .transferPocket)
    (hv : (transferPocket E).validate db rc bal = .ok ())
    (hb : (transferPocket E).buildEntries db' rc bal = .ok es) : Charged E rc bal es := by
  have hskip : skipsFundsCheck rc = false := by rw [skipsFundsCheck, ht]
  simp only [transferPocket] at hv hb
  obtain ⟨dir, hdir, hv⟩ := bind_eq_ok.1 hv
  obtain ⟨hvalid, hv⟩ := guard_eq_ok.1 hv
  obtain ⟨cashID, hcash, hb⟩ := bind_eq_ok.1 hb
  obtain ⟨pocketID, hpocket, hb⟩ := bind_eq_ok.1 hb
  have hdirD : metaStringD rc.metadata .direction = dir := by
    unfold metaStringD
    cases hm : metaString rc.metadata .direction with
    | error e => rw [hm] at hdir; cases hdir
    | ok s => rw [hm] at hdir; cases hdir; rfl
  rw [hdirD] at hb
  split at hv
  · rename_i hfrom
    rw [if_neg (by rw [hfrom]; decide)] at hb
    cases hb
    obtain ⟨a, ha, hv⟩ := bind_eq_ok.1 hv
    obtain ⟨_, hamount, hfunds⟩ := bind_eq_ok.1 hv
    rw [hpocket] at ha
    cases ha
    refine .of_funds hskip (by simp [ht]) hfunds ⟨_, _, rfl, fun e he => ?_⟩
    rw [List.mem_singleton.1 he]
    exact ⟨rfl, (amountChecks_pos hamount).le, account_ne hnodup hcash hpocket (by decide)⟩
  · rename_i hto
    have hdirection : dir = "to_pocket" := by
      by_contra hne
      exact hvalid ⟨hne, hto⟩
    rw [if_pos hdirection] at hb
    cases hb
    obtain ⟨a, ha, hv⟩ := bind_eq_ok.1 hv
    obtain ⟨_, hamount, hfunds⟩ := bind_eq_ok.1 hv
    rw [hcash] at ha
    cases ha
    refine .of_funds hskip (by simp [ht]) hfunds ⟨_, _, rfl, fun e he => ?_⟩
    rw [List.mem_singleton.1 he]
    exact ⟨rfl, (amountChecks_pos hamount).le, account_ne hnodup hpocket hcash (by decide)⟩

/-- The amount was checked, the funds were not. -/
theorem Charged.of_amountChecks (hnodup : rc.accountIDs.Nodup) (hskip : skipsFundsCheck rc = true)
    (ht : rc.type ≠ .moneyIn) (hv : amountChecks E rc = .ok ())
    (hb : movement dn cn rc = .ok es) : Charged E rc bal es :=
  .of_unchecked hskip ht (movement_pays hnodup (amountChecks_pos hv) hb)

theorem fxRebalance_charged (hnodup : rc.accountIDs.Nodup) (hskip : skipsFundsCheck rc = true)
    (ht : rc.type ≠ .moneyIn) {name missing : String} {i : ℕ} {increase : Bool}
    (hv : validateFXRebalance E name missing i increase rc bal = .ok ())
    (hb : movement dn cn rc = .ok es) : Charged E rc bal es := by
  unfold validateFXRebalance at hv
  obtain ⟨-, hv⟩ := guard_eq_ok.1 hv
  obtain ⟨_, -, hv⟩ := bind_eq_ok.1 hv
  obtain ⟨_, -, hv⟩ := bind_eq_ok.1 hv
  obtain ⟨_, hamount, -⟩ := bind_eq_ok.1 hv
  exact .of_amountChecks hnodup hskip ht hamount hb

theorem refund_charged (hnodup : rc.accountIDs.Nodup) (ht : rc.type = .refund)
    (hv : (refund E).validate db rc bal = .ok ()) (hb : (refund E).buildEntries db' rc bal = .ok es) :
    Charged E rc bal es := by
  simp only [refund] at hv
  obtain ⟨_, -, hv⟩ := bind_eq_ok.1 hv
  obtain ⟨-, hv⟩ := guard_eq_ok.1 hv
  obtain ⟨-, hv⟩ := guard_eq_ok.1 hv
  exact .of_fundsChecks (by rw [skipsFundsCheck, ht]) (by simp [ht]) hv fun hpos => movement_pays hnodup hpos hb

/-- `transfer_p2p` and `merchant_transfer` read both accounts before they check the funds. -/
theorem transfer_charged {rest : UUID → UUID → Except Err Unit} (hskip : skipsFundsCheck rc = false)
    (ht : rc.type ≠ .moneyIn)
    (hv : (do
      let a ← rc.account 0
      let b ← rc.account 1
      amountChecks E rc
      sufficientFunds E a rc bal
      rest a b) = .ok ())
    (h : ∀ a b, 0 < rc.amount → rest a b = .ok () → ∃ a, rc.account 0 = .ok a ∧ Pays a rc.amount es) :
    Charged E rc bal es := by
  obtain ⟨a, ha, hv⟩ := bind_eq_ok.1 hv
  obtain ⟨b, -, hv⟩ := bind_eq_ok.1 hv
  obtain ⟨_, hamount, hv⟩ := bind_eq_ok.1 hv
  obtain ⟨_, hfunds, hrest⟩ := bind_eq_ok.1 hv
  obtain ⟨a', ha', hpays⟩ := h a b (amountChecks_pos hamount) hrest
  rw [ha] at ha'
  cases ha'
  exact .of_funds hskip ht hfunds hpays

/-- **Every processor but `reversal` takes the charge from one account**, and has checked
its funds unless the type skips that. -/
theorem validated_pays (hnodup : rc.accountIDs.Nodup) {p : TxProcessor} (hp : registry E rc.type = .ok p)
    (ht : rc.type ≠ .reversal) (hv : p.validate db rc bal = .ok ()) (hb : p.buildEntries db' rc bal = .ok es) :
    Charged E rc bal es := by
  cases htype : rc.type <;> rw [htype] at hp <;>
    simp only [registry, Except.ok.injEq, reduceCtorEq] at hp <;> subst hp
  case moneyIn => exact moneyIn_charged hnodup htype hv hb
  case transferPocket => exact transferPocket_charged hnodup htype hv hb
  case refund => exact refund_charged hnodup htype hv hb
  case reversal => exact absurd htype ht
  all_goals have hne : rc.type ≠ .moneyIn := by simp [htype]
  case interestAdjustment =>
    simp only [interestAdjustment] at hv
    split at hv
    · rename_i hneg
      exact .of_fundsChecks (by simp [skipsFundsCheck, htype, hneg]) hne hv fun hpos =>
        movement_pays hnodup hpos hb
    · rename_i hneg
      exact .of_amountChecks hnodup (by simp [skipsFundsCheck, htype, hneg]) hne hv hb
  case transferP2P =>
    refine transfer_charged (by rw [skipsFundsCheck, htype]) hne hv fun _ _ hpos hrest => ?_
    obtain ⟨_, -, hfee⟩ := bind_eq_ok.1 hrest
    exact movementWithFee_pays hnodup hpos hfee hb
  case merchantPayinCredit =>
    obtain ⟨_, hamount, hfee⟩ := bind_eq_ok.1 hv
    exact .of_unchecked (by rw [skipsFundsCheck, htype]) hne
      (movementWithFee_pays hnodup (amountChecks_pos hamount) hfee hb)
  case merchantTransfer =>
    exact transfer_charged (by rw [skipsFundsCheck, htype]) hne hv fun _ _ hpos _ => movement_pays hnodup hpos hb
  case fxRebalanceCredit | fxRebalanceDebit =>
    exact fxRebalance_charged hnodup (by rw [skipsFundsCheck, htype]) hne hv hb
  case freezeConfiscate =>
    obtain ⟨_, -, hv⟩ := bind_eq_ok.1 hv
    obtain ⟨_, -, hv⟩ := bind_eq_ok.1 hv
    exact .of_fundsChecks (by rw [skipsFundsCheck, htype]) hne hv fun hpos => movement_pays hnodup hpos hb
  case moneyOut | withdrawInitiate | merchantPayoutHold | escrowHold =>
    exact .of_fundsAndFeeChecks hnodup (by rw [skipsFundsCheck, htype]) hne hv hb
  case withdrawSettle | merchantPayoutSettle | escrowRelease =>
    obtain ⟨_, -, hv⟩ := bind_eq_ok.1 hv
    exact .of_fundsAndFeeChecks hnodup (by rw [skipsFundsCheck, htype]) hne hv hb
  case withdrawPending | feeCollect | fxOut =>
    exact .of_fundsChecks (by rw [skipsFundsCheck, htype]) hne hv fun hpos => movement_pays hnodup hpos hb
  case withdrawCancel | withdrawPendingSettle | withdrawPendingCancel | merchantPayoutCancel | escrowRefund
      | freezeInitiate | freezeRelease | adjustmentDebit =>
    obtain ⟨_, -, hv⟩ := bind_eq_ok.1 hv
    exact .of_fundsChecks (by rw [skipsFundsCheck, htype]) hne hv fun hpos => movement_pays hnodup hpos hb
  case adjustmentCredit | adjustmentSuspenseCredit | adjustmentSuspenseDebit =>
    obtain ⟨_, -, hv⟩ := bind_eq_ok.1 hv
    exact .of_amountChecks hnodup (by rw [skipsFundsCheck, htype]) hne hv hb
  -- the others check the amount only
  all_goals exact .of_amountChecks hnodup (by rw [skipsFundsCheck, htype]) hne hv hb

end Charged

/-! ## Reversals -/

/-- The constraints of `ledger_entries`: amounts are positive, and a transaction has one
entry for an account and a direction. -/
structure EntryTable (db : Db) : Prop where
  positive : ∀ e ∈ db.entries, 0 < e.amount
  unique : ∀ txID, ((db.entries.filter (·.transactionID = txID)).map fun e => (e.accountID, e.direction)).Nodup

/-- **A reversal takes from no account more than it has.** -/
theorem reversal_keeps_floor {E : Env} {rc : ResolvedCommand} {B : LockedBalances} {db : Db}
    {es : List EntryInstruction} (hdb : EntryTable db) (h : (reversal E).buildEntries db rc B.get = .ok es) :
    B.KeepsFloor es := by
  simp only [reversal] at h
  obtain ⟨-, h⟩ := guard_eq_ok.1 h
  split at h
  · cases h
  rename_i hnone
  cases h
  have hmem : ∀ o ∈ getEntries db rc.referenceID, o ∈ db.entries := fun o ho => (mem_getEntries.1 ho).1
  have hfunds : ∀ o ∈ getEntries db rc.referenceID, o.direction = .credit →
      (o.amount : ℚ) ≤ balanceOrZero B.get o.accountID := by
    intro o ho hcredit
    have := List.find?_eq_none.1 hnone o ho
    simp only [decide_eq_true_eq, not_and, not_lt] at this
    exact this hcredit
  rw [LockedBalances.keepsFloor_iff]
  intro ab hab hneg
  suffices -ab.balance ≤ net (((getEntries db rc.referenceID).map (reversedEntry E)).map EntryInstruction.posting)
      ab.accountID by linarith
  refine neg_le_net (B.floor ab hab hneg) ?_ ?_ ?_
  · intro p hp
    obtain ⟨e, he, rfl⟩ := List.mem_map.1 hp
    obtain ⟨o, ho, rfl⟩ := List.mem_map.1 he
    exact Int.cast_nonneg (hdb.positive o (hmem o ho)).le
  · -- the entries of one transaction, in the order of their ids and with swapped directions
    have hperm := (List.perm_insertionSort (fun a b : LedgerEntry => a.id ≤ b.id)
      (db.entries.filter (·.transactionID = rc.referenceID))).map fun e => (e.accountID, e.direction)
    have horig := hperm.nodup_iff.2 (hdb.unique rc.referenceID)
    rw [List.map_map, List.map_map]
    have hswap := horig.map (f := fun x : UUID × Direction => (x.1, x.2.swap)) (by
      rintro ⟨a, d⟩ ⟨a', d'⟩ heq
      cases d <;> cases d' <;> simp_all [Direction.swap])
    rwa [List.map_map] at hswap
  · intro p hp hacc hdebit
    obtain ⟨e, he, rfl⟩ := List.mem_map.1 hp
    obtain ⟨o, ho, rfl⟩ := List.mem_map.1 he
    -- a debit of the reversal undoes a credit of the original
    have hcredit : o.direction = .credit := by
      cases hd : o.direction with
      | credit => rfl
      | debit => simp [EntryInstruction.posting, reversedEntry, hd, Direction.swap] at hdebit
    have hle := hfunds o ho hcredit
    have hid : o.accountID = ab.accountID := hacc
    rw [hid, balanceOrZero, LockedBalances.get_of_mem hab] at hle
    exact hle

/-! ## Every processor -/

/-- **The payer of a type that skips the funds check is short**: the first account may not
go negative and holds less than the charge. -/
def PayerShort (E : Env) (rc : ResolvedCommand) (B : LockedBalances) : Prop :=
  skipsFundsCheck rc = true ∧ ∃ a ab, rc.account 0 = .ok a ∧ B.get a = some ab ∧ ab.allowNegative = false ∧
    ab.balance < charge E rc

/-- **Validation is sound for the floor, unless the type skips the funds check and the
payer is short.** For every registered processor, every resolved command, every balances
that were read, and every state of the tables: when `Validate` passed and `BuildEntries`
returned entries, `applyEntries` leaves no account below its floor exactly then. -/
theorem floor_kept_iff (E : Env) (rc : ResolvedCommand) (hnodup : rc.accountIDs.Nodup) (p : TxProcessor)
    (hp : registry E rc.type = .ok p) (B : LockedBalances) (db db' : Db) (hdb : EntryTable db')
    (es : List EntryInstruction) (hv : p.validate db rc B.get = .ok ())
    (hb : p.buildEntries db' rc B.get = .ok es) : B.KeepsFloor es ↔ ¬ PayerShort E rc B := by
  by_cases ht : rc.type = .reversal
  · have hskip : skipsFundsCheck rc = false := by rw [skipsFundsCheck, ht]
    rw [ht] at hp
    cases hp
    have hshort : ¬ PayerShort E rc B := fun hshort => by
      rw [PayerShort, hskip] at hshort
      cases hshort.1
    exact ⟨fun _ => hshort, fun _ => reversal_keeps_floor hdb hb⟩
  obtain ⟨a, hpays, hfirst, hfunds⟩ := validated_pays hnodup hp ht hv hb
  rw [hpays.keepsFloor_iff]
  constructor
  · rintro hall ⟨hskip, a', ab, ha', hab, hneg, hlt⟩
    rw [hfirst hskip] at ha'
    cases ha'
    exact absurd (hall ab hab hneg) (not_le.2 hlt)
  · intro hshort ab hab hneg
    cases hskip : skipsFundsCheck rc with
    | false =>
      obtain ⟨ab', hab', hle⟩ := hfunds hskip
      rw [hab] at hab'
      cases hab'
      exact hle
    | true =>
      by_contra hlt
      exact hshort ⟨hskip, a, ab, hfirst hskip, hab, hneg, not_le.1 hlt⟩

/-! ## A chargeback -/

namespace Sample

/-- The small ledger with the chargeback account of one card network. -/
def cards : Env :=
  { env with
    accounts :=
      ⟨⟨94, .system, 0, .chargeback, "IDR", none, some "visa", .active, true⟩ :: accounts.rows, by decide⟩ }

def dispute : Command :=
  { command "k1" .chargeback 50 UUID.nil with
    metadata := (Metadata.empty.set .disputeRef (.str "d1")).set .cardNetwork (.str "visa") }

def disputed : ResolvedCommand := ⟨dispute, [11, 94], 11, 94⟩

/-- The rows of the two accounts, with `cash` on the user's. -/
def disputeRows (cash : ℕ) : LockedBalances where
  rows := [⟨11, "IDR", cash, .active, .cash, false⟩, ⟨94, "IDR", 0, .active, .chargeback, true⟩]
  nodup := by simp
  floor := by
    intro ab hab hneg
    rcases List.mem_cons.1 hab with rfl | hab
    · exact Nat.cast_nonneg cash
    · rw [List.mem_singleton.1 hab] at hneg
      cases hneg

end Sample

open Sample

/-- A chargeback of 50 against 80 keeps the floor. -/
theorem floor_kept_iff_covered : ∃ es, (chargeback cards).validate zeroed disputed (disputeRows 80).get = .ok () ∧
    (chargeback cards).buildEntries zeroed disputed (disputeRows 80).get = .ok es ∧
    (disputeRows 80).KeepsFloor es := by
  have hv : (chargeback cards).validate zeroed disputed (disputeRows 80).get = .ok () := by decide +kernel
  refine ⟨_, hv, rfl, ?_⟩
  refine (floor_kept_iff cards disputed (by decide) (chargeback cards) rfl (disputeRows 80) zeroed zeroed
    ⟨by simp [zeroed], by simp [zeroed]⟩ _ hv rfl).2 ?_
  rintro ⟨-, a, ab, ha, hab, -, hlt⟩
  have ha : a = 11 := (Except.ok.inj ha).symm
  subst ha
  have hab : ab = ⟨11, "IDR", (80 : ℕ), .active, .cash, false⟩ := (Option.some.inj hab).symm
  subst hab
  have hcharge : charge cards disputed = 50 := by decide +kernel
  rw [hcharge] at hlt
  exact absurd hlt (by decide +kernel)

set_option maxRecDepth 20000 in
/-- **A chargeback of 50 from an empty cash account**: `Validate` accepts it, the new
balance is below the floor, and the database refuses the posting without a header. -/
theorem chargeback_below_floor :
    ((prepare cards zeroed 0 dispute).map (·.accountIDs)) = .ok [11, 94] ∧
    (chargeback cards).validate zeroed disputed (disputeRows 0).get = .ok () ∧
    (∃ es, (chargeback cards).buildEntries zeroed disputed (disputeRows 0).get = .ok es ∧
      (applyEntries (disputeRows 0).rows es).lookup 11 = some (-50) ∧ ¬ (disputeRows 0).KeepsFloor es) ∧
    (run (World.step cards) (.idle zeroed 0) (call 1 101 dispute)).db.txs.lookup 101 = none := by
  refine ⟨by decide +kernel, by decide +kernel, ⟨_, rfl, by decide +kernel, fun hkeeps => ?_⟩, by decide +kernel⟩
  have := hkeeps ⟨11, "IDR", (0 : ℕ), .active, .cash, false⟩ (by simp [disputeRows]) rfl (-50) (by decide +kernel)
  exact absurd this (by decide +kernel)

end Seev.Ledger
