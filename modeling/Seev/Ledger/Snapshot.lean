import Mathlib.Data.List.MinMax
import Mathlib.Data.Prod.Lex
import Seev.Ledger.World

/-!
# Balance snapshots

`account_balance_snapshots` holds the closing balance of an account on a calendar day,
read from the entry that was created last before the end of the day. `created_at` of an
entry is the time of the statement that inserted it; entries appear in the table in the
order their transactions commit.

* `insertForDate`, `insertForDateAllAccounts`: one run for a day. A row that exists stays.
* `balanceAsOf`: the latest snapshot up to a day and the entries after it.
* `Books.step`: a ledger event or a snapshot run for any day.
-/

namespace Seev.Ledger

open Lib

/-- The calendar days of the location, by the time each one begins. -/
structure Calendar where
  start : ℕ → ℕ
  strictMono : StrictMono start

/-- `(d + 1)::timestamp AT TIME ZONE loc`: the first moment after day `d`. -/
def Calendar.endOf (C : Calendar) (d : ℕ) : ℕ := C.start (d + 1)

/-- An `account_balance_snapshots` row. -/
structure Snapshot where
  accountID : UUID
  asOfDate : ℕ
  closingBalance : ℤ
  entryCount : ℕ
  deriving DecidableEq, Repr

/-- The ledger with the timestamps of its transactions and its snapshots. -/
structure Books where
  world : World
  /-- `statement_timestamp()` of the last insert of entries of a session -/
  insertedAt : SessionID → ℕ
  /-- `created_at` of the entries of a transaction -/
  createdAt : UUID → ℕ
  snapshots : List Snapshot

namespace Books

/-- A ledger with no transaction in progress and no snapshot. -/
def idle (db : Db) (now : ℕ) : Books := ⟨.idle db now, fun _ => 0, fun _ => 0, []⟩

/-- The entries of an account, in the order they were committed. -/
def entriesOf (B : Books) (a : UUID) : List LedgerEntry := B.world.db.entries.filter (·.accountID = a)

/-- Those created before time `t`. -/
def entriesBefore (B : Books) (a : UUID) (t : ℕ) : List LedgerEntry :=
  (B.entriesOf a).filter fun e => B.createdAt e.transactionID < t

/-- The sort key of `ORDER BY created_at, id`. -/
def stamp (B : Books) (e : LedgerEntry) : ℕ ×ₗ UUID := toLex (B.createdAt e.transactionID, e.id)

/-! ## Snapshot runs -/

/-- `ORDER BY le.created_at DESC, le.id DESC LIMIT 1` among the entries created before `t`. -/
def latestBefore (B : Books) (a : UUID) (t : ℕ) : Option LedgerEntry := (B.entriesBefore a t).argmax B.stamp

/-- The entries of an account created on day `d`. -/
def entriesOn (C : Calendar) (B : Books) (a : UUID) (d : ℕ) : List LedgerEntry :=
  (B.entriesBefore a (C.endOf d)).filter fun e => C.start d ≤ B.createdAt e.transactionID

/-- The row of a run for an account. -/
def snapshotRow (C : Calendar) (B : Books) (d : ℕ) (a : UUID) : Snapshot where
  accountID := a
  asOfDate := d
  closingBalance := ((B.latestBefore a (C.endOf d)).map LedgerEntry.balanceAfter).getD 0
  entryCount := (B.entriesOn C a d).length

/-- The accounts of a run that have no row for the day: `ON CONFLICT DO NOTHING`. -/
def missing (B : Books) (d : ℕ) (accounts : List UUID) : List UUID :=
  accounts.filter fun a => !B.snapshots.any fun s => s.accountID = a ∧ s.asOfDate = d

def insertSnapshots (C : Calendar) (B : Books) (d : ℕ) (accounts : List UUID) : Books :=
  { B with snapshots := B.snapshots ++ (B.missing d accounts).map (B.snapshotRow C d) }

/-- The accounts with an entry on the day. -/
def activeOn (C : Calendar) (B : Books) (d : ℕ) : List UUID :=
  ((B.world.db.entries.map LedgerEntry.accountID).dedup).filter fun a => !(B.entriesOn C a d).isEmpty

/-- `InsertForDate` -/
def insertForDate (C : Calendar) (B : Books) (d : ℕ) : Books := B.insertSnapshots C d (B.activeOn C d)

/-- `WHERE a.status='active' AND a.type IN ('cash','pocket')` -/
def interestAccounts (E : Env) : List UUID :=
  (E.accounts.rows.filter fun r => r.status = .active ∧ (r.type = .cash ∨ r.type = .pocket)).map AccountRow.id

/-- `InsertForDateAllAccounts` -/
def insertForDateAllAccounts (E : Env) (C : Calendar) (B : Books) (d : ℕ) : Books :=
  B.insertSnapshots C d (interestAccounts E)

/-! ## Reads -/

/-- `GetLatestBefore` -/
def getLatestBefore (B : Books) (a : UUID) (d : ℕ) : Option Snapshot :=
  (B.snapshots.filter fun s => s.accountID = a ∧ s.asOfDate ≤ d).argmax Snapshot.asOfDate

/-- The sum of the entries after the day of the snapshot, up to the end of day `d`. -/
def deltaSince (C : Calendar) (B : Books) (a : UUID) (base : Option Snapshot) (d : ℕ) : ℤ :=
  net (((B.entriesBefore a (C.endOf d)).filter fun e =>
    ∀ s ∈ base, C.endOf s.asOfDate ≤ B.createdAt e.transactionID).map LedgerEntry.posting) a

/-- `BalanceAsOf`: the snapshot is read in `B`, the entries later, in `B'`. -/
def balanceAsOf (C : Calendar) (B B' : Books) (a : UUID) (d : ℕ) : Except String ℤ :=
  let base := B.getLatestBefore a d
  let delta := B'.deltaSince C a base d
  if Decimal.inInt64 delta then .ok ((base.map Snapshot.closingBalance).getD 0 + delta)
  else .error "balance as of: delta"

end Books

/-! ## Runs -/

inductive BooksEvent where
  | ledger (ev : Event)
  /-- `runDaily` and the catch-up, for any day -/
  | insertForDate (d : ℕ)
  /-- `RunInterestDaily`, for any day its callers pass -/
  | insertForDateAllAccounts (d : ℕ)

namespace Books

/-- The session that inserts its entries with the event. -/
def inserts (B : Books) : Event → Option SessionID
  | .advance sid => if (B.world.sessions sid).any (·.phase = .entries) then some sid else none
  | _ => none

/-- The session that posts its transaction with the event. -/
def posts (B : Books) : Event → Option (SessionID × Session)
  | .advance sid => ((B.world.sessions sid).filter (·.phase = .commit)).map (sid, ·)
  | _ => none

/-- One ledger event: an insert of entries takes the time, and the commit makes it the
`created_at` of the transaction's entries. -/
def ledgerStep (E : Env) (B : Books) (ev : Event) : Books where
  world := B.world.step E ev
  insertedAt :=
    match B.inserts ev with
    | some sid => Function.update B.insertedAt sid B.world.now
    | none => B.insertedAt
  createdAt :=
    match B.posts ev with
    | some (sid, s) => Function.update B.createdAt s.txID (B.insertedAt sid)
    | none => B.createdAt
  snapshots := B.snapshots

def step (E : Env) (C : Calendar) (B : Books) : BooksEvent → Books
  | .ledger ev => B.ledgerStep E ev
  | .insertForDate d => B.insertForDate C d
  | .insertForDateAllAccounts d => B.insertForDateAllAccounts E C d

end Books

end Seev.Ledger
