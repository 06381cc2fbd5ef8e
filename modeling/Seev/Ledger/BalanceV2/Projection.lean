import Seev.Ledger.Repository
import Seev.Ledger.BalanceV2.Control

/-!
# The second balance projection

`account_balances_v2` holds the same balances as `account_balances`, split by what the
money is for. A posting writes it in its own transaction when the control record says so.

* `transform`: the row of the target for a row of the source.
* `upsertTarget`: the write, which never goes back to an older version.
* `Migration.strictPosting`: whether a posting fails with the target.
-/

namespace Seev.Ledger.BalanceV2

open Lib

/-! ## Rows -/

/-- A row of `account_balances` with its account. -/
structure SourceRow where
  accountID : UUID
  currency : Currency
  accountType : AccountType
  balance : ℤ
  allowNegative : Bool
  sourceVersion : ℕ
  deriving DecidableEq, Repr

/-- A row of `account_balances_v2`. -/
structure TargetRow where
  accountID : UUID
  accountType : AccountType
  currency : Currency
  allowNegative : Bool
  availableAmount : ℤ
  reservedAmount : ℤ
  pendingAmount : ℤ
  restrictedAmount : ℤ
  sourceVersion : ℕ
  lastTransactionID : Option UUID
  projectionChecksum : Bytes
  deriving DecidableEq, Repr

/-- The column `version`, which the trigger of `account_balances` counts up. -/
abbrev Versions := UUID → ℕ

abbrev Targets := UUID → Option TargetRow

/-- `readSource` and `readSourceForUpdate` -/
def readSource (E : Env) (db : Db) (V : Versions) (id : UUID) : Option SourceRow := do
  let r ← E.accounts.byID id
  let b ← db.balances id
  return ⟨id, r.currency, r.type, b, r.allowNegative, V id⟩

/-! ## The change of shape -/

/-- The last `n` bytes of a number, the highest first. -/
def bigEndian : ℕ → ℕ → Bytes
  | 0, _ => []
  | n + 1, x => bigEndian n (x / 256) ++ [UInt8.ofNat (x % 256)]

/-- `binary.Write` of an `int64` -/
def int64Bytes (x : ℤ) : Bytes := bigEndian 8 (x % 2 ^ 64).toNat

/-- `Checksum`: the currency has three bytes when `Transform` calls it. -/
def checksum (E : Env) (t : TargetRow) : Bytes :=
  E.sha256 (bigEndian 16 t.accountID ++ ((utf8 (E.text.toUpper (trimSpace t.currency))).takeD 3 0 ++
    (utf8 t.accountType.name ++ ((if t.allowNegative then 1 else 0) ::
      ([t.availableAmount, t.reservedAmount, t.pendingAmount, t.restrictedAmount].flatMap int64Bytes ++
        int64Bytes t.sourceVersion)))))

/-- The target without its checksum: the account type selects the amount. -/
def project (source : SourceRow) (currency : Currency) (transactionID : Option UUID) : TargetRow :=
  let target : TargetRow :=
    ⟨source.accountID, source.accountType, currency, source.allowNegative, 0, 0, 0, 0, source.sourceVersion,
      transactionID, []⟩
  match source.accountType with
  | .hold => { target with reservedAmount := source.balance }
  | .pending => { target with pendingAmount := source.balance }
  | .frozen => { target with restrictedAmount := source.balance }
  | .cash | .pocket | .fee | .settlement | .escrow | .chargeback | .confiscated | .adjustment | .suspense
  | .fxConversion | .interestExpense | .accruedInterestPayable =>
    { target with availableAmount := source.balance }

/-- **`Transform`**: its other errors are about account types and versions that the columns
exclude. -/
def transform (E : Env) (source : SourceRow) (transactionID : Option UUID) : Except String TargetRow :=
  let currency := E.text.toUpper (trimSpace source.currency)
  if source.accountID = UUID.nil then .error "balancev2: account id is required"
  else if currency.utf8ByteSize ≠ 3 then
    .error ("balancev2: currency must be three characters for account " ++ E.text.uuidString source.accountID)
  else
    let target := project source currency transactionID
    .ok { target with projectionChecksum := checksum E target }

/-! ## Writes to the target -/

/-- `upsertTarget` -/
def upsertTarget (T : Targets) (t : TargetRow) : Targets :=
  match T t.accountID with
  | none => Function.update T t.accountID (some t)
  | some old =>
    if old.sourceVersion < t.sourceVersion ∨
        (old.sourceVersion = t.sourceVersion ∧ old.lastTransactionID = none) then
      Function.update T t.accountID (some t)
    else T

/-! ## The call of a posting -/

/-- The local configuration of a process. -/
structure Config where
  enabled : Bool
  disableTargetWrites : Bool
  deriving DecidableEq, Repr

/-- The process writes the target when the control record says so. -/
def Config.active (cfg : Config) : Bool := cfg.enabled && !cfg.disableTargetWrites

/-- Whether an error of the target ends the posting. -/
def Migration.strictPosting (m : Migration) : Bool :=
  m.effective ≠ .backfilling &&
    (m.strictDualWrite ||
      match m.effective with
      | .targetPrimary | .rampingRead | .canaryRead | .sourceWriteDisabled | .observation => true
      | _ => false)

end Seev.Ledger.BalanceV2
