import Seev.Ledger.World

/-!
# Key rotation, digest backfill and retention

What happens to `ledger_transactions` between postings: the digest ring moves to
another key version, `BackfillOnce` writes digests to rows that have none, and
`fn_retention_purge_transactions_idempotency_raw` takes the raw key and scope from old
rows that have one.

* `backfillOnce`, `purgeIdempotencyRaw`: one batch of each. The batch is a parameter, so
  no order or size of it is assumed.
* `Service.step`: a ledger event, a rotation or a batch. A service also knows what its
  tables cannot tell any more, the pair each header was inserted with.
-/

namespace Seev.Ledger

open Lib

/-- The environment with another key version in use; the ring keeps its keys. -/
def Env.rotated (E : Env) (version : ℕ) : Env := { E with ring := { E.ring with current := version } }

/-- The columns of `uq_ltx_idempotency`, while the row has its raw key. -/
def TxRow.rawPair (r : TxRow) : Option (String × String) :=
  r.idempotencyKey.map fun key => (r.idempotencyScope.getD "", key)

/-! ## `BackfillOnce` -/

/-- The row after its update. A row whose raw key is gone is skipped. -/
def TxRow.backfilled (E : Env) (r : TxRow) : TxRow :=
  match r.idempotencyKey with
  | none => r
  | some key =>
    let d := E.ring.digest E.hmac (canonicalIdempotencyInput r.idempotencyScope key)
    { r with
      idempotencyKeyDigest := some d.1, idempotencyKeyVersion := some d.2
      conflictFingerprint := some (Ledger.conflictFingerprint E r.type r.amount r.currency) }

/-- The update of one row, `none` when it violates `uq_ltx_idempotency_digest` or has to
wait for a transaction that has inserted the same digest. -/
def backfillRow (E : Env) (held : LockKey → Bool) (txs : AList (fun _ : UUID => TxRow)) (id : UUID) :
    Option (AList (fun _ : UUID => TxRow)) :=
  match txs.lookup id with
  | none => some txs
  | some r =>
    let d := (r.backfilled E).idempotencyKeyDigest
    if txs.entries.any (fun q => q.1 ≠ id ∧ d.isSome ∧ q.2.idempotencyKeyDigest = d) ∨
        d.any (fun d => held (.digest d)) then none
    else some (txs.insert id (r.backfilled E))

/-- One transaction of the backfill: the rows of the batch that have no digest and that
nothing locks (`FOR UPDATE SKIP LOCKED`). -/
def backfillOnce (E : Env) (held : LockKey → Bool) (batch : List UUID)
    (txs : AList (fun _ : UUID => TxRow)) : Option (AList (fun _ : UUID => TxRow)) :=
  (batch.filter fun id => !held (.tx id) && (txs.lookup id).any (·.idempotencyKeyDigest.isNone)).foldlM
    (backfillRow E held) txs

/-! ## Retention -/

/-- `INTERVAL '30 days'`, in seconds -/
def rawRetention : ℕ := 30 * 24 * 60 * 60

/-- The rows the purge takes. -/
def TxRow.purgeable (now updatedAt : ℕ) (r : TxRow) : Bool :=
  (r.status = .posted || r.status = .failed || r.status = .reversed) && updatedAt + rawRetention < now
    && r.idempotencyKey.isSome && r.idempotencyKeyDigest.isSome

/-- A header without its raw key. -/
def TxRow.purged (r : TxRow) : TxRow := { r with idempotencyKey := none, idempotencyScope := none }

/-- One batch of `fn_retention_purge_transactions_idempotency_raw`. -/
def purgeIdempotencyRaw (now : ℕ) (updatedAt : UUID → ℕ) (held : LockKey → Bool) (batch : List UUID)
    (txs : AList (fun _ : UUID => TxRow)) : AList (fun _ : UUID => TxRow) :=
  batch.foldl (fun txs id =>
    match txs.lookup id with
    | none => txs
    | some r => if !held (.tx id) && r.purgeable now (updatedAt id) then txs.insert id r.purged else txs) txs

/-! ## The service over months -/

/-- The ledger with its maintenance jobs. -/
structure Service where
  world : World
  /-- the version of the key new digests use -/
  current : ℕ
  /-- `updated_at`, which a trigger sets at every change of a row -/
  updatedAt : UUID → ℕ
  /-- the scope and key each header was inserted with -/
  pairs : UUID → Option (String × String)

/-- What the ledger and the jobs do. -/
inductive ServiceEvent where
  | ledger (ev : Event)
  | rotate (version : ℕ)
  | backfill (batch : List UUID)
  | purge (batch : List UUID)

namespace Service

/-- The ledger with no transaction in progress. -/
def idle (E : Env) (db : Db) (now : ℕ) (updatedAt : UUID → ℕ) : Service :=
  ⟨.idle db now, E.ring.current, updatedAt, fun id => (db.txs.lookup id).bind TxRow.rawPair⟩

/-- The service after a change of its tables. -/
def become (S : Service) (w : World) : Service where
  world := w
  current := S.current
  updatedAt id :=
    if w.db.txs.lookup id = S.world.db.txs.lookup id then S.updatedAt id else S.world.now
  pairs id := (S.pairs id).or ((w.db.txs.lookup id).bind TxRow.rawPair)

/-- The tables with other headers. -/
def withTxs (S : Service) (txs : AList (fun _ : UUID => TxRow)) : Service :=
  S.become { S.world with db := { S.world.db with txs := txs } }

/-- Another transaction has the row. -/
def held (S : Service) (k : LockKey) : Bool := (S.world.locks k).isSome

/-- A batch of a job is one transaction. -/
def step (E : Env) (S : Service) : ServiceEvent → Service
  | .ledger ev => S.become (S.world.step (E.rotated S.current) ev)
  | .rotate version => if (E.ring.keys version).isSome then { S with current := version } else S
  | .backfill batch =>
    match backfillOnce (E.rotated S.current) S.held batch S.world.db.txs with
    | none => S
    | some txs => S.withTxs txs
  | .purge batch => S.withTxs (purgeIdempotencyRaw S.world.now S.updatedAt S.held batch S.world.db.txs)

end Service

end Seev.Ledger
