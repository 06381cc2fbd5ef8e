import Seev.Lib.Run
import Seev.Lib.RowLock
import Seev.Ledger.Handle

/-!
# Concurrent postings

`execTransfer` as a session that takes one statement at a time. A session reads
the committed state with its own writes on top, keeps its writes to itself until
it commits, and holds every row lock it takes until it ends. A statement that
needs a row another session holds waits: the step changes nothing.

* `Session.exec`: the statement of each phase.
* `Session.needs`: the rows the statement locks.
* `World.step`: one event, a new `Handle` call, one statement of a session, a
  failure of the infrastructure at any point, or the passing of time.
-/

namespace Seev.Ledger

open Lib

/-! ## Sessions -/

/-- The statement a session runs next. `commitFailed` is the commit of a business
rejection: only the header, with status `failed`, and what was written before it. -/
inductive Phase where
  | insert | quote | preLock | flags | lock | validate | close | build
  | deltas | entries | update | finish | commit | commitFailed
  deriving DecidableEq, Repr

/-- What a transaction has written and not yet committed. -/
structure Writes where
  header : Option TxRow
  closed : Option (UUID × CloseReason)
  quote : Option (UUID × FeeQuote)
  balances : List (UUID × ℤ)
  entries : List LedgerEntry
  events : List OutboxEvent

/-- Nothing is written yet. -/
def Writes.empty : Writes := ⟨none, none, none, [], [], []⟩

namespace Writes

/-- `ledger_transactions` with the original closed. -/
def closeIn (W : Writes) (txID : UUID) (txs : AList (fun _ : UUID => TxRow)) :
    AList (fun _ : UUID => TxRow) :=
  match W.closed with
  | none => txs
  | some (ref, reason) =>
    match txs.lookup ref with
    | none => txs
    | some r => txs.insert ref (r.close txID reason)

/-- The state with the writes of transaction `txID` on top. -/
def apply (W : Writes) (txID : UUID) (db : Db) : Db where
  balances id := ((W.balances.find? (·.1 = id)).map Prod.snd).or (db.balances id)
  txs :=
    match W.header with
    | none => W.closeIn txID db.txs
    | some h => (W.closeIn txID db.txs).insert txID h
  entries := db.entries ++ W.entries
  quotes id :=
    match W.quote with
    | none => db.quotes id
    | some (quoteID, q) => if id = quoteID then some q else db.quotes id
  outbox := db.outbox ++ W.events

end Writes

/-- One attempt of `execTransfer`. -/
structure Session where
  rc : ResolvedCommand
  attempt : ℕ
  txID : UUID
  phase : Phase
  flags : List AccountBalance
  userBalances : List AccountBalance
  built : List EntryInstruction
  writes : Writes

namespace Session

/-- The first statement of an attempt. -/
def start (rc : ResolvedCommand) (attempt : ℕ) (txID : UUID) : Session :=
  ⟨rc, attempt, txID, .insert, [], [], [], .empty⟩

/-- The state the session's own statements see. -/
def view (s : Session) (db : Db) : Db := s.writes.apply s.txID db

/-- The accounts of the command that have a row and may go negative. -/
def systemIDs (s : Session) : List UUID :=
  s.rc.accountIDs.filter fun id =>
    ((lookupBalance s.flags id).map AccountBalance.allowNegative).getD false

/-- The accounts of the command that have a row and may not. -/
def userIDs (s : Session) : List UUID :=
  s.rc.accountIDs.filter fun id =>
    !((lookupBalance s.flags id).map AccountBalance.allowNegative).getD true

/-- `merged`: the locked user rows and the unlocked system rows. -/
def merged (s : Session) : Balances := fun id =>
  if id ∈ s.systemIDs then lookupBalance s.flags id else lookupBalance s.userBalances id

/-- `userEntries` and `systemEntries` -/
def split (s : Session) : List EntryInstruction × List EntryInstruction :=
  splitEntriesByAccount s.built s.systemIDs

/-- The locked balances after the entries of their accounts. -/
def userNewBalances (s : Session) : AmountMap := applyEntries s.userBalances s.split.1

/-- The net changes of the system accounts. -/
def systemDeltas (s : Session) : AmountMap := computeSystemDeltas s.split.2

/-- `allNewBalances`: the user map with the returned system balances copied over it. -/
def allNewBalances (s : Session) : UUID → Option Decimal := fun id =>
  ((s.writes.balances.find? (·.1 = id)).map fun p => (p.2 : Decimal)).or (s.userNewBalances.lookup id)

end Session

/-- `msg[:500]` on bytes; `none` when the cut leaves no valid text for the column. -/
def truncateMessage (msg : String) : Option String :=
  if msg.utf8ByteSize ≤ 500 then some msg else String.fromUTF8? (msg.toUTF8.extract 0 500)

/-- `markFailed` on the session's header, on the way to a commit with status `failed`. -/
def Session.markFailed (s : Session) (ctx : String) (e : Err) : Except Err Session :=
  match truncateMessage e.text with
  | none => .error (.plain (ctx ++ ": invalid byte sequence for encoding"))
  | some msg =>
    .ok { s with
      phase := .commitFailed
      writes := { s.writes with
        header := s.writes.header.map fun h => { h with status := .failed, errorMessage := some msg } } }

namespace Session

/-! ## The statement of each phase

Each returns the session after the statement; an error rolls the attempt back. -/

variable (E : Env) (now : ℕ) (db : Db) (s : Session)

/-- The header is inserted as `pending`, and the unique indexes decide. -/
def insertStep : Except Err Session := do
  let row ← insertHeader E db s.rc s.txID
  return { s with phase := .quote, writes := { s.writes with header := some row } }

/-- The quote of the command is consumed, and its fee is written into the metadata. -/
def quoteStep : Except Err Session := do
  match ← consumeFeeQuote E (s.view db) now s.rc s.txID with
  | none =>
    checkTopupQuote E (s.view db) s.rc
    return { s with phase := .preLock }
  | some (quoteID, q) =>
    let rc := { s.rc with metadata := s.rc.metadata.withFee E q }
    let s := { s with rc := rc, writes := { s.writes with quote := some (quoteID, q) } }
    checkTopupQuote E (s.view db) rc
    return { s with phase := .preLock }

/-- A rejection here is recorded as a failed transaction. -/
def preLockStep (p : TxProcessor) : Except Err Session :=
  match p.validateBeforeBalanceLocks with
  | none => .ok { s with phase := .flags }
  | some hook =>
    match hook (s.view db) s.rc with
    | .ok _ => .ok { s with phase := .flags }
    | .error e =>
      if e.isBusinessRejection then s.markFailed "mark failed after pre-balance validation" e
      else .error e

/-- The flags of all accounts, read without a lock. -/
def flagsStep : Except Err Session :=
  .ok { s with phase := .lock, flags := getAccountFlags E (s.view db) s.rc.accountIDs }

/-- `SELECT … FOR UPDATE` on the user accounts. -/
def lockStep : Except Err Session :=
  .ok { s with phase := .validate, userBalances := getAccountFlags E (s.view db) s.userIDs }

/-- A panic of the processor unwinds through the transaction, which rolls back. -/
def validateStep (p : TxProcessor) : Except Err Session := do
  validateAccounts E s.rc s.merged
  match p.validate (s.view db) s.rc s.merged with
  | .ok _ => return { s with phase := .close }
  | .error e => if e.panics then throw e else s.markFailed "mark failed after validation" e

/-- `CloseOriginal` changes a row only while nothing has closed it. -/
def closeStep : Except Err Session :=
  match lifecycleCloseReason s.rc.type with
  | none => .ok { s with phase := .build }
  | some reason =>
    if ((s.view db).txs.lookup s.rc.referenceID).any (·.closedByTxID.isNone) then
      .ok { s with
        phase := .build, writes := { s.writes with closed := some (s.rc.referenceID, reason) } }
    else
      s.markFailed "mark failed after close guard" (.newBizErr .alreadyClosed
        ("transaction " ++ E.text.uuidString s.rc.referenceID
          ++ " was already closed by another request"))

/-- The processor builds the entries, which have to balance. -/
def buildStep (p : TxProcessor) : Except Err Session := do
  let entries ← inContext "build entries" (p.buildEntries (s.view db) s.rc s.merged)
  validateBalanced E entries
  return { s with phase := .deltas, built := entries }

/-- The system accounts change by an increment. -/
def deltasStep : Except Err Session := do
  let rows ← applySystemDeltas E (s.view db) s.systemDeltas
  return { s with phase := .entries, writes := { s.writes with balances := rows } }

/-- The entries, each with the balance after it. -/
def entriesStep : Except Err Session := do
  let rows ← insertEntries E (s.view db) s.rc.currency s.txID s.built s.allNewBalances
  return { s with phase := .update, writes := { s.writes with entries := rows } }

/-- The user accounts get the balances that were computed. -/
def updateStep : Except Err Session := do
  let rows ← updateBalances E (s.view db) s.userNewBalances
  return { s with
    phase := .finish, writes := { s.writes with balances := rows ++ s.writes.balances } }

/-- The header is `posted`, and the events of the processor go to the outbox. -/
def finishStep (p : TxProcessor) : Except Err Session :=
  .ok { s with
    phase := .commit
    writes := { s.writes with
      header := s.writes.header.map fun h => { h with status := .posted, errorMessage := none }
      events := p.outboxEvents s.rc s.txID s.built } }

/-- The next statement of the session. -/
def exec : Except Err Session := do
  let p ← registry E s.rc.type
  match s.phase with
  | .insert => s.insertStep E db
  | .quote => s.quoteStep E now db
  | .preLock => s.preLockStep db p
  | .flags => s.flagsStep E db
  | .lock => s.lockStep E db
  | .validate => s.validateStep E db p
  | .close => s.closeStep E db
  | .build => s.buildStep E db p
  | .deltas => s.deltasStep E db
  | .entries => s.entriesStep E db
  | .update => s.updateStep E db
  | .finish => s.finishStep p
  | .commit | .commitFailed => .ok s

end Session

/-! ## Row locks -/

/-- What a session can hold until it ends. An index entry of an uncommitted row is held
like a row: a second insert of it waits for the first to end. -/
inductive LockKey where
  | balance (accountID : UUID)
  | tx (txID : UUID)
  | quote (quoteID : UUID)
  | fxLimit (pair : String) (currency : Currency)
  | idem (scope key : String)
  | digest (d : Bytes)
  deriving DecidableEq, Repr

/-- The limit and the position row of the pre-lock hook, when it gets to lock them. -/
def preLockKeys (E : Env) (db : Db) (rc : ResolvedCommand) : List LockKey :=
  match registry E rc.type with
  | .error _ => []
  | .ok p =>
    match p.validateBeforeBalanceLocks with
    | none => []
    | some hook =>
      match hook db rc, fxRebalanceTarget E rc.toCommand with
      | .ok positionID, .ok (pair, code) => [.fxLimit pair code, .balance positionID]
      | _, _ => []

/-- The keys the next statement of a session locks. -/
def Session.needs (E : Env) (db : Db) (s : Session) : List LockKey :=
  match s.phase with
  | .insert =>
    [.tx s.txID, .idem s.rc.idempotencyScope s.rc.idempotencyKey,
      .digest (E.ring.digest E.hmac
        (canonicalIdempotencyInput (stringPtr s.rc.idempotencyScope) s.rc.idempotencyKey)).1]
  | .quote =>
    if s.rc.quoteID = "" then []
    else match E.text.parseUUID s.rc.quoteID with
      | .ok quoteID => [.quote quoteID]
      | .error _ => []
  | .preLock => preLockKeys E (s.view db) s.rc
  | .lock => s.userIDs.map .balance
  | .close => if (lifecycleCloseReason s.rc.type).isSome then [.tx s.rc.referenceID] else []
  | .deltas => s.systemDeltas.entries.map fun r => .balance r.1
  | .update => s.userNewBalances.entries.map fun r => .balance r.1
  | _ => []

/-! ## The world -/

/-- The `Handle` calls in progress are numbered. -/
abbrev SessionID := ℕ

/-- The database and the transactions in progress, with the locks they hold. -/
structure World where
  db : Db
  now : ℕ
  locks : Locks LockKey SessionID
  sessions : SessionID → Option Session
  /-- every transaction that committed with status `posted`, with its command -/
  posted : List (UUID × ResolvedCommand)

/-- A committed state with no transaction in progress. -/
def World.idle (db : Db) (now : ℕ) : World := ⟨db, now, fun _ => none, fun _ => none, []⟩

/-- What happens to one call, or to the clock. -/
inductive Event where
  /-- a `Handle` call; its transaction draws `txID` -/
  | handle (sid : SessionID) (txID : UUID) (cmd : Command)
  /-- the next statement of a session -/
  | advance (sid : SessionID)
  /-- a connection, deadlock or crash error; a retryable one starts again with a new id -/
  | fail (sid : SessionID) (retry : Option UUID)
  | tick (d : ℕ)

/-- The attempts of one `Handle` call. -/
def maxRetry : ℕ := 3

namespace World

variable (E : Env)

/-- A call goes on, or is over. -/
def setSession (w : World) (sid : SessionID) (s : Option Session) : World :=
  { w with sessions := Function.update w.sessions sid s }

/-- The session ends and its locks are free. -/
def endSession (w : World) (sid : SessionID) : World :=
  { w.setSession sid none with locks := w.locks.release sid }

/-- `COMMIT`: all writes of the session at once. -/
def commit (w : World) (sid : SessionID) (s : Session) : World :=
  { w.endSession sid with
    db := s.view w.db
    posted :=
      if s.writes.header.any (·.status = .posted) then w.posted ++ [(s.txID, s.rc)] else w.posted }

/-- One statement of session `sid`, unless it has to wait for a row. -/
def advance (w : World) (sid : SessionID) (s : Session) : World :=
  if !(s.needs E w.db).all (w.locks.available sid) then w
  else if s.phase = .commit ∨ s.phase = .commitFailed then w.commit sid s
  else match s.exec E w.now w.db with
    | .error _ => w.endSession sid
    | .ok s' => { w.setSession sid (some s') with locks := w.locks.acquire sid (s.needs E w.db) }

/-- An error of the infrastructure: everything rolls back. `transfer` tries at most
`maxRetry` times. -/
def failSession (w : World) (sid : SessionID) (s : Session) : Option UUID → World
  | none => w.endSession sid
  | some txID =>
    if s.attempt + 1 < maxRetry then
      (w.endSession sid).setSession sid (some (.start s.rc (s.attempt + 1) txID))
    else w.endSession sid

/-- A number is free for another call when its call is over. -/
def step (w : World) : Event → World
  | .handle sid txID cmd =>
    match w.sessions sid, prepare E w.db w.now cmd with
    | none, .ok rc => w.setSession sid (some (.start rc 0 txID))
    | _, _ => w
  | .advance sid =>
    match w.sessions sid with
    | none => w
    | some s => w.advance E sid s
  | .fail sid retry =>
    match w.sessions sid with
    | none => w
    | some s => w.failSession sid s retry
  | .tick d => { w with now := w.now + d }

end World

/-! ## A small ledger

Two users, one merchant tenant and the system accounts of one gateway, to run the
model on. -/

namespace Sample

/-- Decimal digits only, read from the left. -/
def digits : List Char → Option ℕ → Option ℕ
  | [], acc => acc
  | ch :: chs, acc =>
    if '0' ≤ ch ∧ ch ≤ '9' then digits chs (some (acc.getD 0 * 10 + (ch.toNat - '0'.toNat))) else none

/-- Texts of whole numbers. -/
def text : Text where
  decimalString d := toString d.num
  newFromString s :=
    match digits s.toList none with
    | some n => .ok n
    | none => .error ("can't convert " ++ s ++ " to decimal")
  uuidString id := toString id
  parseUUID s :=
    match digits s.toList none with
    | some n => .ok n
    | none => .error "invalid UUID"
  toUpper s := s

/-- An account in rupiah. -/
def account (id : UUID) (owner : OwnerType) (ownerID : UUID) (t : AccountType)
    (pocketCode qualifier : Option String) : AccountRow :=
  ⟨id, owner, ownerID, t, "IDR", pocketCode, qualifier, .active, t = .settlement⟩

/-- Two users, a merchant and the system accounts of one gateway. -/
def accounts : AccountTable where
  rows := [
    account 11 .user 1 .cash none none, account 12 .user 1 .hold none none,
    account 13 .user 1 .pending none none, account 14 .user 1 .pocket (some "trip") none,
    account 21 .user 2 .cash none none, account 22 .user 2 .hold none none,
    account 51 .merchant 5 .cash none none, account 52 .merchant 5 .hold none none,
    account 91 .system 0 .settlement none (some "bca"), account 92 .system 0 .fee none (some "bca"),
    account 93 .system 0 .escrow none (some "IDR")]
  nodup := by decide

/-- One currency and one key of the digest ring. -/
def env : Env where
  text := text
  accounts := accounts
  fxLimits := []
  entryID txID i := txID * 100 + i
  hmac key input := key ++ input
  sha256 input := input
  ring := ⟨fun _ => some [], 1⟩
  isValidCurrency c := c == "IDR"
  maxAmountPerTx := 0
  feePolicy := true
  validateCurrency _ _ _ := none

/-- Every account with a balance of zero, nothing else. -/
def zeroed : Db :=
  ⟨fun id => if id ∈ accounts.rows.map AccountRow.id then some 0 else none, ∅, [], fun _ => none, []⟩

/-- A command of user 1 through the gateway; the key is the transaction's own. -/
def command (key : String) (t : TxType) (amount : Decimal) (referenceID : UUID) : Command where
  idempotencyKey := key
  idempotencyScope := "sample"
  type := t
  amount := amount
  userID := 1
  targetUserID := UUID.nil
  pocketCode := ""
  currency := "IDR"
  referenceID := referenceID
  metadata := Metadata.empty.set .gateway (.str "bca")
  quoteID := ""
  merchantTenantID := UUID.nil

/-- A `Handle` call that nothing interrupts. -/
def call (sid : SessionID) (txID : UUID) (cmd : Command) : List Event :=
  .handle sid txID cmd :: List.replicate 13 (.advance sid)

end Sample

end Seev.Ledger
