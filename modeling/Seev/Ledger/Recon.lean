import Seev.Ledger.Store

/-!
# Importing a settlement report

`ImportBatch` stores the rows of a settlement report as items and matches them, in one transaction, with the
posted transactions of the gateway: an `UPDATE ... FROM` that joins on the external reference, and an `INSERT
... SELECT` for the transactions of the report date whose reference is in no item. References are unique among
the items of a batch and not among transactions.

* `importBatch`: the checks of the report and the transaction; its result is the items of the batch.
* `JoinRow`: the row that an `UPDATE ... FROM` uses when its join has several, which the database leaves open.
-/

namespace Seev.Ledger.Recon

/-- A row of `ledger_transactions` with its key. -/
abbrev Tx := Sigma fun _ : UUID => TxRow

/-- A row of the report; the time of its settlement is only stored. -/
structure ReconImportRow where
  externalRef : String
  amount : Decimal
  deriving DecidableEq, Repr

/-- What the matcher made of an item. -/
inductive MatchStatus where
  | matched
  | missingInternal
  | missingExternal
  | amountMismatch
  deriving DecidableEq, Repr

/-- A row of `recon_items` of the batch. -/
structure ReconItem where
  externalRef : String
  amount : ℤ
  matchStatus : MatchStatus
  matchedTxID : Option UUID
  deriving DecidableEq, Repr

/-- Why an import is refused. -/
inductive ImportError where
  | unknownGateway (gateway : String)
  | noRows
  | tooManyRows (count : ℕ)
  | createdByRequired
  | emptyExternalRef
  | duplicateExternalRef (ref : String)
  | invalidAmount (ref : String)
  /-- an amount that is not a `BIGINT`, or `chk_recon_items_amount_positive` -/
  | amountRefused (ref : String)
  /-- `UNIQUE (batch_id, external_ref)` -/
  | duplicateItem
  deriving DecidableEq, Repr

/-- The gateways that report. -/
def validGateways : List String := ["bca", "gopay", "platform"]

/-- The rows of one import. -/
def maxImportRows : ℕ := 50000

/-- The checks of the rows, with the references seen so far. -/
def checkRows (seen : List String) : List ReconImportRow → Except ImportError Unit
  | [] => .ok ()
  | r :: rows =>
    if r.externalRef = "" then .error .emptyExternalRef
    else if r.externalRef ∈ seen then .error (.duplicateExternalRef r.externalRef)
    else if ¬ (0 < r.amount ∧ r.amount.isInteger) then .error (.invalidAmount r.externalRef)
    else checkRows (r.externalRef :: seen) rows

/-- The row of a report as an item, before the matcher. -/
def itemOf (r : ReconImportRow) : Except ImportError ReconItem :=
  match r.amount.toBigint with
  | some amount => .ok ⟨r.externalRef, amount, .missingInternal, none⟩
  | none => .error (.amountRefused r.externalRef)

/-- An `INSERT` into the items of the batch. -/
def insertItems (items new : List ReconItem) : Except ImportError (List ReconItem) :=
  match new.find? (·.amount ≤ 0) with
  | some i => .error (.amountRefused i.externalRef)
  | none => if ((items ++ new).map (·.externalRef)).Nodup then .ok (items ++ new) else .error .duplicateItem

/-- The choice of one row of a join. -/
structure JoinRow where
  pick : (l : List Tx) → l ≠ [] → Tx
  pick_mem : ∀ l h, pick l h ∈ l

variable (J : JoinRow) (gateway : String) (txs : List Tx) (createdOn : UUID → ℕ) (reportDate : ℕ)

/-- The transactions that step A joins with a reference. -/
def joined (ref : String) : List Tx :=
  txs.filter fun t => t.2.gateway = some gateway ∧ t.2.externalRef = some ref ∧ t.2.status = .posted

/-- Step A of `RunMatcher` on an item. -/
def matchItem (i : ReconItem) : ReconItem :=
  if h : joined gateway txs i.externalRef = [] then i
  else
    -- of several joined transactions the update takes one
    let t := J.pick _ h
    { i with
      matchStatus := if t.2.amount = i.amount then .matched else .amountMismatch
      matchedTxID := some t.1 }

/-- The transactions that the report should list. -/
def reportable (t : Tx) : Bool :=
  t.2.gateway = some gateway ∧ t.2.externalRef.isSome ∧ t.2.status = .posted ∧ createdOn t.1 = reportDate

/-- The item of a transaction that is not in the report. -/
def missingExternal (t : Tx) : ReconItem := ⟨t.2.externalRef.getD "", t.2.amount, .missingExternal, some t.1⟩

/-- Step B of `RunMatcher`: the transactions whose reference is in no item. -/
def unclaimed (items : List ReconItem) : List Tx :=
  txs.filter fun t =>
    reportable gateway createdOn reportDate t ∧ t.2.externalRef ∉ items.map fun i => some i.externalRef

/-- The items are matched, and what the report lacks is added. -/
def runMatcher (items : List ReconItem) : Except ImportError (List ReconItem) :=
  let items := items.map (matchItem J gateway txs)
  -- one statement: the constraint also holds between the items that it inserts
  insertItems items ((unclaimed gateway txs createdOn reportDate items).map missingExternal)

/-- The checks in their order, the insert and the matcher. -/
def importBatch (rows : List ReconImportRow) (createdBy : String) : Except ImportError (List ReconItem) := do
  if gateway ∉ validGateways then throw (.unknownGateway gateway)
  if rows = [] then throw .noRows
  if maxImportRows < rows.length then throw (.tooManyRows rows.length)
  if createdBy = "" then throw .createdByRequired
  checkRows [] rows
  let items ← rows.mapM itemOf
  let items ← insertItems [] items
  runMatcher J gateway txs createdOn reportDate items

end Seev.Ledger.Recon
