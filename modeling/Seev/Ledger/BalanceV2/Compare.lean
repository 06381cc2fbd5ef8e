import Seev.Ledger.BalanceV2.Projection

/-!
# Comparisons of the two projections

What the migration finds of the two projections is kept in `data_migration_mismatches`, one row for an
account and a layer.

* `Mismatches.record`: the mismatch row of a comparison.
* `writeForPostingWithGaps`: `WriteForPosting` with the gaps it records when it may not fail.
-/

namespace Seev.Ledger.BalanceV2

open Lib

/-! ## Results -/

/-- What is compared with what. -/
inductive Layer where
  | sourceTarget | liveWrite | sourceLedger | targetLedger
  deriving DecidableEq, Repr

/-- What a comparison has found. -/
inductive CompareResult where
  /-- the zero value, before anything was found -/
  | blank
  | matched | targetMissing | targetAhead | targetStale | valueMismatch | unsupported | currencyMismatch
  | accountTypeMismatch | allowNegativeMismatch | targetError | sourceError | writeGap | ledgerMismatch
  | ledgerError
  | sourceLedgerBlocked
  deriving DecidableEq, Repr

/-- The cause that it is put down to. -/
inductive Classification where
  | blank | matched | backfillMissing | staleBackfill | liveWriteGap | transformBug | targetCorruption
  | sourceCorruption
  | sharedProjectionBug | versionRegression | sourceError | targetError
  deriving DecidableEq, Repr

/-- How bad a mismatch is. -/
inductive Severity where
  | blank | none | warning | critical
  deriving DecidableEq, Repr

/-- The bits of `FieldMask`. -/
inductive Field where
  | available | reserved | pending | restricted | currency | version | checksum | targetMissing | accountType
  | allowNegative
  deriving DecidableEq, Repr

/-- `Comparison`; the two checksums it carries along are left out. -/
structure Comparison where
  accountID : UUID
  /-- an empty layer is recorded as the first one -/
  resourceLayer : Option Layer
  result : CompareResult
  classification : Classification
  severity : Severity
  fieldMask : List Field
  sourceVersion : ℕ
  targetVersion : Option ℕ
  errorCode : String
  deriving DecidableEq, Repr

/-! ## The mismatch table -/

/-- The status of a mismatch. -/
inductive MismatchStatus where
  | opened | classified | repairPending | repairing | repaired | verified | ignoredWithReason | blocked
  deriving DecidableEq, Repr

/-- A row of `data_migration_mismatches`. -/
structure Mismatch where
  classification : Classification
  status : MismatchStatus
  severity : Severity
  sourceVersion : ℕ
  targetVersion : Option ℕ
  deriving DecidableEq, Repr

/-- The rows by what their key is the hash of. -/
abbrev Mismatches := UUID → Layer → Option Mismatch

/-- The layer, by default that of source and target. -/
def Comparison.layer (c : Comparison) : Layer := c.resourceLayer.getD .sourceTarget

/-- A match verifies the row that is there; anything else opens it. A row that is ignored stays ignored. -/
def Mismatches.record (M : Mismatches) (c : Comparison) : Mismatches :=
  let old := M c.accountID c.layer
  let ignored := old.any (·.status = .ignoredWithReason)
  let row : Option Mismatch :=
    if c.result = .matched then
      if ignored then old else old.map fun x => { x with status := .verified }
    else
      let status := if c.severity = .warning then .classified else .opened
      some ⟨c.classification, if ignored then .ignoredWithReason else status, c.severity, c.sourceVersion,
        c.targetVersion⟩
  Function.update M c.accountID (Function.update (M c.accountID) c.layer row)

/-! ## Gaps of a posting -/

section

variable (E : Env) (db : Db) (V : Versions) (failing : UUID → Bool)

/-- Where the loop over the accounts of a posting stopped. -/
structure Stopped where
  /-- the accounts whose rows were read -/
  sources : List SourceRow
  failedAccount : UUID
  failedVersion : ℕ
  error : String
  deriving DecidableEq, Repr

/-- The loop of `WriteForPosting`, with what it remembers. -/
def writeAll (transactionID : Option UUID) : List SourceRow → Targets → List UUID → Except Stopped Targets
  | _, T, [] => .ok T
  | sources, T, id :: ids =>
    match readSource E db V id with
    | none => .error ⟨sources, id, 0, "balancev2: migration not found"⟩
    | some source =>
      match transform E source transactionID with
      | .error e => .error ⟨sources ++ [source], id, source.sourceVersion, e⟩
      | .ok target =>
        if failing id then
          .error ⟨sources ++ [source], id, source.sourceVersion,
            "balancev2: upsert target " ++ E.text.uuidString id⟩
        else writeAll transactionID (sources ++ [source]) (upsertTarget T target) ids

/-- One gap. -/
def writeGap (accountID : UUID) (version : ℕ) : Comparison :=
  ⟨accountID, some .liveWrite, .writeGap, .liveWriteGap, .critical, [.version], version, none,
    "projection_write_error"⟩

/-- **`recordShadowWriteGaps`**: the comparisons it records, in their order. -/
def recordShadowWriteGaps (x : Stopped) : List Comparison :=
  x.sources.map (fun source => writeGap source.accountID source.sourceVersion) ++
    if x.failedAccount ≠ UUID.nil ∧ x.failedAccount ∉ x.sources.map SourceRow.accountID then
      [writeGap x.failedAccount x.failedVersion]
    else []

/-- A gap is recorded in a transaction of its own; one that cannot be recorded is only logged. -/
def recordGaps (lost : UUID → Bool) (M : Mismatches) (gaps : List Comparison) : Mismatches :=
  (gaps.filter fun c => !lost c.accountID).foldl Mismatches.record M

/-- **`WriteForPosting`** with the gaps it records. -/
def writeForPostingWithGaps (cfg : Config) (control : Option Migration) (lost : UUID → Bool) (T : Targets)
    (M : Mismatches)
    (accountIDs : List UUID) (transactionID : UUID) : Except String (Targets × Mismatches) :=
  if !cfg.active then .ok (T, M)
  else match control with
    | none => .ok (T, M)
    | some m =>
      if !m.sourceWriteEnabled then
        .error "balancev2: source writes are disabled; source rollback requires resynchronization"
      else if m.effective ≠ .backfilling ∧ (!m.targetWriteStage ∨ !m.targetWriteEnabled) then .ok (T, M)
      else match writeAll E db V failing (some transactionID) [] T accountIDs with
        | .ok T' => .ok (T', M)
        | .error x =>
          if m.strictPosting then .error x.error else .ok (T, recordGaps lost M (recordShadowWriteGaps x))

end

end Seev.Ledger.BalanceV2
