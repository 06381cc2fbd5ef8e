import Seev.Ledger.Maintenance
import Seev.Ledger.Proof.Reach

/-!
# Idempotency over rotation and retention

A header is recognised by its raw key until the purge and by its digest from then on,
but only under the key version the digest was computed with: `Insert` looks for the
digest under the version in use and nothing recomputes the digest of a purged row.

* `Recognisable`: no insert meets a purged row of its own pair under another version.
* `pairs_distinct`: then no two headers have one pair, whatever the order of postings,
  rotations, backfills and purges.
* `retry_after_rotation`: a purged row and a rotation, and a retry posts again.
-/

namespace Seev.Ledger

open Lib

variable {E : Env} {w w' : World} {S : Service} {sid : SessionID} {s s' : Session} {ev : Event}
  {pairs : UUID → Option (String × String)} {txs : AList (fun _ : UUID => TxRow)} {p : String × String}
  {r r' h : TxRow} {id : UUID}

/-- The scope and the key of a command. -/
def Command.pair (cmd : Command) : String × String := (cmd.idempotencyScope, cmd.idempotencyKey)

/-- The digest of a pair under a key version. -/
def digestOf (E : Env) (version : ℕ) (p : String × String) : Bytes :=
  ((E.rotated version).ring.digest E.hmac (canonicalIdempotencyInput (stringPtr p.1) p.2)).1

/-- No two headers were inserted with one pair. -/
def Service.Distinct (S : Service) : Prop :=
  ∀ id ∈ S.world.db.txs, ∀ id' ∈ S.world.db.txs, S.pairs id = S.pairs id' → id = id'

/-- The insert of a session meets no row of its own pair that has lost its raw key and
has its digest under another version than the one in use. -/
def Recognisable (S : Service) : ServiceEvent → Prop
  | .ledger (.advance sid) => ∀ s, S.world.sessions sid = some s → s.phase = .insert →
      ∀ id r, S.world.db.txs.lookup id = some r → S.pairs id = some s.rc.pair →
        r.idempotencyKey = none → r.idempotencyKeyVersion = some S.current
  | _ => True

/-! ## What a row says about its pair -/

theorem canonicalIdempotencyInput_scope (scope : Option String) (key : String) :
    canonicalIdempotencyInput (stringPtr (scope.getD "")) key = canonicalIdempotencyInput scope key := by
  have hgetD : (stringPtr (scope.getD "")).getD "" = scope.getD "" := by
    unfold stringPtr
    split
    · rename_i hempty
      rw [hempty]
      rfl
    · rfl
  rw [canonicalIdempotencyInput, canonicalIdempotencyInput, hgetD]

/-- The row was inserted with the pair `p`: its raw columns are those, or gone, its digest
is the digest of `p` under its version, and it has one of the two. -/
structure Marked (E : Env) (p : String × String) (r : TxRow) : Prop where
  raw : r.idempotencyKey = none ∨ r.rawPair = some p
  digest : ∀ d, r.idempotencyKeyDigest = some d →
    ∃ version, r.idempotencyKeyVersion = some version ∧ d = digestOf E version p
  kept : r.idempotencyKey = none → r.idempotencyKeyDigest.isSome

theorem Marked.congr (hm : Marked E p r) (h : SameIdem r r') : Marked E p r' := by
  have hraw : r'.rawPair = r.rawPair := by rw [TxRow.rawPair, TxRow.rawPair, h.key, h.scope]
  refine ⟨by rw [h.key, hraw]; exact hm.raw, fun d hd => ?_, fun hk => ?_⟩
  · rw [h.digest] at hd
    rw [h.version]
    exact hm.digest d hd
  · rw [h.key] at hk
    rw [h.digest]
    exact hm.kept hk

/-- A backfilled row has its digest under the version in use. -/
theorem Marked.backfilled (hm : Marked E p r) (version : ℕ) : Marked E p (r.backfilled (E.rotated version)) := by
  cases hk : r.idempotencyKey with
  | none => simpa only [TxRow.backfilled, hk] using hm
  | some key =>
    have hp : p = (r.idempotencyScope.getD "", key) := by
      have hraw := hm.raw
      simp only [hk, TxRow.rawPair, Option.map_some, reduceCtorEq, false_or, Option.some.injEq] at hraw
      exact hraw.symm
    simp only [TxRow.backfilled, hk]
    refine ⟨.inr (by simp [TxRow.rawPair, hp]), fun d hd => ⟨version, rfl, ?_⟩, fun _ => rfl⟩
    rw [← Option.some.inj hd, digestOf, hp, canonicalIdempotencyInput_scope]
    rfl

/-- A row of the same pair is in the way of an insert, by its raw key or, once it has none,
by its digest under the version in use. -/
theorem Marked.conflicts (hm : Marked E p r) {version : ℕ}
    (hversion : r.idempotencyKey = none → r.idempotencyKeyVersion = some version)
    (hraw : h.rawPair = some p) (hdigest : h.idempotencyKeyDigest = some (digestOf E version p)) :
    r.conflicts h = true := by
  rw [TxRow.conflicts, Bool.or_eq_true]
  rcases hm.raw with hgone | hkey
  · obtain ⟨d, hd⟩ := Option.isSome_iff_exists.1 (hm.kept hgone)
    obtain ⟨v, hv, rfl⟩ := hm.digest d hd
    rw [hversion hgone, Option.some.injEq] at hv
    subst hv
    exact .inr (by simp [hd, hdigest])
  · obtain ⟨k, hk, hp⟩ := Option.map_eq_some_iff.1 hkey
    obtain ⟨k', hk', hp'⟩ := Option.map_eq_some_iff.1 hraw
    obtain ⟨hscope, rfl⟩ := Prod.mk.inj (hp.trans hp'.symm)
    exact .inl (by simp [hk, hk', hscope])

/-- A purged row keeps its digest. -/
theorem Marked.purged (hm : Marked E p r) (hd : r.idempotencyKeyDigest.isSome) : Marked E p r.purged :=
  ⟨.inl rfl, hm.digest, fun _ => hd⟩

/-! ## The table -/

/-- Every header has the pair it was inserted with, and no two have the same. -/
structure TableOK (E : Env) (pairs : UUID → Option (String × String))
    (txs : AList (fun _ : UUID => TxRow)) : Prop where
  marked : ∀ id r, txs.lookup id = some r → ∃ p, pairs id = some p ∧ Marked E p r
  fresh : ∀ id, id ∉ txs → pairs id = none
  distinct : ∀ id ∈ txs, ∀ id' ∈ txs, pairs id = pairs id' → id = id'

theorem TableOK.isSome (ht : TableOK E pairs txs) (hid : id ∈ txs) : ∃ p, pairs id = some p := by
  obtain ⟨r, hr⟩ := Option.isSome_iff_exists.1 (AList.lookup_isSome.2 hid)
  obtain ⟨p, hp, -⟩ := ht.marked id r hr
  exact ⟨p, hp⟩

/-- One row changes and still says the same about its pair. -/
theorem TableOK.replace (ht : TableOK E pairs txs) (hr : txs.lookup id = some r)
    (hm : ∀ p, Marked E p r → Marked E p r') :
    TableOK E pairs (txs.insert id r') ∧ ∀ t, t ∈ txs.insert id r' ↔ t ∈ txs := by
  have hmem : id ∈ txs := AList.lookup_isSome.1 (by simp [hr])
  have hdom : ∀ t, t ∈ txs.insert id r' ↔ t ∈ txs := fun t => by
    rw [AList.mem_insert]
    exact ⟨fun h => h.elim (fun h => h ▸ hmem) fun h => h, .inr⟩
  refine ⟨⟨fun t q hq => ?_, fun t ht' => ht.fresh t fun hin => ht' ((hdom t).2 hin), fun t ht₁ t' ht₂ heq => ?_⟩,
    hdom⟩
  · by_cases htid : t = id
    · subst htid
      rw [AList.lookup_insert, Option.some.injEq] at hq
      obtain ⟨p, hp, hmark⟩ := ht.marked t r hr
      exact ⟨p, hp, hq ▸ hm p hmark⟩
    · rw [AList.lookup_insert_ne htid] at hq
      exact ht.marked t q hq
  · exact ht.distinct t ((hdom t).1 ht₁) t' ((hdom t').1 ht₂) heq

/-- A new row with a pair of its own. -/
theorem TableOK.insert (ht : TableOK E pairs txs) (hfresh : id ∉ txs) (hm : Marked E p h)
    (halone : ∀ t, pairs t ≠ some p) : TableOK E (Function.update pairs id (some p)) (txs.insert id h) := by
  refine ⟨fun t q hq => ?_, fun t ht' => ?_, fun t ht₁ t' ht₂ heq => ?_⟩
  · by_cases htid : t = id
    · subst htid
      rw [AList.lookup_insert, Option.some.injEq] at hq
      exact ⟨p, Function.update_self .., hq ▸ hm⟩
    · rw [AList.lookup_insert_ne htid] at hq
      rw [Function.update_of_ne htid]
      exact ht.marked t q hq
  · rw [AList.mem_insert, not_or] at ht'
    rw [Function.update_of_ne ht'.1]
    exact ht.fresh t ht'.2
  · by_cases h₁ : t = id <;> by_cases h₂ : t' = id
    · exact h₁.trans h₂.symm
    · rw [h₁, Function.update_self, Function.update_of_ne h₂] at heq
      exact absurd heq.symm (halone t')
    · rw [h₂, Function.update_self, Function.update_of_ne h₁] at heq
      exact absurd heq (halone t)
    · rw [Function.update_of_ne h₁, Function.update_of_ne h₂] at heq
      rw [AList.mem_insert] at ht₁ ht₂
      exact ht.distinct t (ht₁.resolve_left h₁) t' (ht₂.resolve_left h₂) heq

/-- Closing an original keeps its idempotency columns. -/
theorem closeIn_ok (ht : TableOK E pairs txs) (W : Writes) (txID : UUID) :
    TableOK E pairs (W.closeIn txID txs) ∧ ∀ t, t ∈ W.closeIn txID txs ↔ t ∈ txs := by
  unfold Writes.closeIn
  split
  · exact ⟨ht, fun _ => .rfl⟩
  split
  · exact ⟨ht, fun _ => .rfl⟩
  · rename_i hr
    exact ht.replace hr fun p hm => hm.congr ⟨rfl, rfl, rfl, rfl, rfl⟩

theorem backfillRow_ok (ht : TableOK E pairs txs) {version : ℕ} {held : LockKey → Bool}
    {txs' : AList (fun _ : UUID => TxRow)} (h : backfillRow (E.rotated version) held txs id = some txs') :
    TableOK E pairs txs' ∧ ∀ t, t ∈ txs' ↔ t ∈ txs := by
  unfold backfillRow at h
  split at h
  · cases h
    exact ⟨ht, fun _ => .rfl⟩
  rename_i r hr
  dsimp only at h
  split at h
  · cases h
  · cases h
    exact ht.replace hr fun p hm => hm.backfilled version

/-- **The backfill keeps every pair.** -/
theorem backfillOnce_ok (ht : TableOK E pairs txs) {version : ℕ} {held : LockKey → Bool} {batch : List UUID}
    {txs' : AList (fun _ : UUID => TxRow)} (h : backfillOnce (E.rotated version) held batch txs = some txs') :
    TableOK E pairs txs' ∧ ∀ t, t ∈ txs' ↔ t ∈ txs := by
  unfold backfillOnce at h
  generalize batch.filter _ = rows at h
  induction rows generalizing txs with
  | nil =>
    cases h
    exact ⟨ht, fun _ => .rfl⟩
  | cons id rows ih =>
    rw [List.foldlM_cons] at h
    obtain ⟨txs₁, hrow, h⟩ := Option.bind_eq_some_iff.1 h
    obtain ⟨ht₁, hdom₁⟩ := backfillRow_ok ht hrow
    obtain ⟨ht₂, hdom₂⟩ := ih ht₁ h
    exact ⟨ht₂, fun t => (hdom₂ t).trans (hdom₁ t)⟩

/-- **The purge keeps every pair.** -/
theorem purgeIdempotencyRaw_ok (ht : TableOK E pairs txs) (now : ℕ) (updatedAt : UUID → ℕ)
    (held : LockKey → Bool) (batch : List UUID) :
    TableOK E pairs (purgeIdempotencyRaw now updatedAt held batch txs) ∧
      ∀ t, t ∈ purgeIdempotencyRaw now updatedAt held batch txs ↔ t ∈ txs := by
  unfold purgeIdempotencyRaw
  induction batch generalizing txs with
  | nil => exact ⟨ht, fun _ => .rfl⟩
  | cons id batch ih =>
    rw [List.foldl_cons]
    cases hr : txs.lookup id with
    | none => exact ih ht
    | some r =>
      dsimp only
      split
      · rename_i hpurge
        have hdigest : r.idempotencyKeyDigest.isSome := by
          simp only [TxRow.purgeable, Bool.and_eq_true] at hpurge
          exact hpurge.2.2
        obtain ⟨ht₁, hdom₁⟩ := ht.replace hr fun p hm => hm.purged hdigest
        obtain ⟨ht₂, hdom₂⟩ := ih ht₁
        exact ⟨ht₂, fun t => (hdom₂ t).trans (hdom₁ t)⟩
      · exact ih ht

/-! ## The invariant -/

/-- A header that is inserted and not committed: its session holds the index entry of its
pair, and no committed header has that pair. -/
structure Reserved (E : Env) (pairs : UUID → Option (String × String)) (w : World) (sid : SessionID)
    (s : Session) (h : TxRow) : Prop where
  raw : h.rawPair = some s.rc.pair
  marked : Marked E s.rc.pair h
  fresh : s.txID ∉ w.db.txs
  row : w.locks (.tx s.txID) = some sid
  index : w.locks (.idem s.rc.idempotencyScope s.rc.idempotencyKey) = some sid
  alone : ∀ id, pairs id ≠ some s.rc.pair

structure IdemOK (E : Env) (pairs : UUID → Option (String × String)) (w : World) : Prop where
  table : TableOK E pairs w.db.txs
  reserved : ∀ sid s, w.sessions sid = some s → ∀ h, s.writes.header = some h → Reserved E pairs w sid s h

/-- The pairs stay while no header is added. -/
theorem become_pairs (ht : TableOK E S.pairs S.world.db.txs)
    (hdom : ∀ t, t ∈ w.db.txs ↔ t ∈ S.world.db.txs) : (S.become w).pairs = S.pairs := by
  funext t
  by_cases hmem : t ∈ S.world.db.txs
  · obtain ⟨p, hp⟩ := ht.isSome hmem
    simp [Service.become, hp]
  · have hnone : w.db.txs.lookup t = none := AList.lookup_eq_none.2 fun h => hmem ((hdom t).1 h)
    simp [Service.become, hnone]

/-- The header stays as it is while nothing is committed. -/
theorem Reserved.resume (hi : Reserved E pairs w sid s h) (hs : Continues s s') (hdb : w'.db = w.db)
    (hlocks : KeepsLocks w w' sid) {h' : TxRow} (hh : SameIdem h h') : Reserved E pairs w' sid s' h' := by
  obtain ⟨⟨m, hrc, -⟩, htx, -⟩ := hs
  have hpair : s'.rc.pair = s.rc.pair := by rw [hrc]; rfl
  refine ⟨?_, ?_, ?_, ?_, ?_, ?_⟩
  · rw [TxRow.rawPair, hh.key, hh.scope, hpair]
    exact hi.raw
  · rw [hpair]
    exact hi.marked.congr hh
  · rw [htx, hdb]
    exact hi.fresh
  · rw [htx]
    exact hlocks _ hi.row
  · rw [hrc]
    exact hlocks _ hi.index
  · rw [hpair]
    exact hi.alone

theorem stringPtr_getD (x : String) : (stringPtr x).getD "" = x := by
  unfold stringPtr
  split
  · rename_i h
    rw [h]
    rfl
  · rfl

/-- **A new header is alone with its pair.** A committed header of the pair would have its
raw key, or its digest under the version in use: either index finds it. -/
theorem insert_reserved (ht : TableOK E S.pairs S.world.db.txs)
    (hrec : ∀ id r, S.world.db.txs.lookup id = some r → S.pairs id = some s.rc.pair →
      r.idempotencyKey = none → r.idempotencyKeyVersion = some S.current)
    (hp : s.phase = .insert) (hexec : s.exec (E.rotated S.current) S.world.now S.world.db = .ok s')
    (hlocks : w'.locks = S.world.locks.acquire sid (s.needs (E.rotated S.current) S.world.db))
    (hdb : w'.db = S.world.db) (hh : s'.writes.header = some h) : Reserved E S.pairs w' sid s' h := by
  obtain ⟨row, hrow, rfl⟩ := exec_insert hp hexec
  obtain rfl := Option.some.inj hh
  obtain ⟨amount, -, rfl, hfresh, hconflict⟩ := insertHeader_row hrow
  have hraw : (headerRow (E.rotated S.current) (insertParams s.rc s.txID) amount).rawPair = some s.rc.pair := by
    simp [TxRow.rawPair, headerRow, insertParams, Command.pair, stringPtr_getD]
  refine ⟨hraw, ⟨.inr hraw, fun d hd => ⟨S.current, rfl, (Option.some.inj hd).symm⟩, fun _ => rfl⟩, ?_, ?_, ?_,
    ?_⟩
  · rw [hdb]
    exact hfresh
  · rw [hlocks]
    exact Locks.acquire_of_mem (by simp [Session.needs, hp])
  · rw [hlocks]
    exact Locks.acquire_of_mem (by simp [Session.needs, hp])
  · intro id hid
    have hmem : id ∈ S.world.db.txs := by
      by_contra hnot
      rw [ht.fresh id hnot] at hid
      cases hid
    obtain ⟨r, hr⟩ := Option.isSome_iff_exists.1 (AList.lookup_isSome.2 hmem)
    obtain ⟨p, hpid, hm⟩ := ht.marked id r hr
    rw [hid, Option.some.injEq] at hpid
    subst hpid
    have hno := hconflict ⟨id, r⟩ (AList.mem_lookup_iff.1 hr)
    rw [hm.conflicts (hrec id r hr hid) hraw rfl] at hno
    cases hno

/-- **What a commit adds**: the header of the session under its pair. -/
theorem commit_table (hI : IdemOK E S.pairs S.world) (hs : S.world.sessions sid = some s)
    (hdb : w.db = s.view S.world.db) :
    TableOK E (S.become w).pairs w.db.txs ∧
      (∀ t, t ∈ w.db.txs → t ∈ S.world.db.txs ∨ t = s.txID ∧ s.writes.header.isSome) ∧
      ∀ t p, (S.become w).pairs t = some p → S.pairs t = some p ∨ p = s.rc.pair ∧ s.writes.header.isSome := by
  obtain ⟨hclosed, hdom⟩ := closeIn_ok hI.table s.writes s.txID
  cases hh : s.writes.header with
  | none =>
    have htxs : w.db.txs = s.writes.closeIn s.txID S.world.db.txs := by
      rw [hdb]
      simp only [Session.view, Writes.apply, hh]
    have hpairs : (S.become w).pairs = S.pairs := become_pairs hI.table fun t => by rw [htxs]; exact hdom t
    rw [hpairs, htxs]
    exact ⟨hclosed, fun t ht => .inl ((hdom t).1 ht), fun t p hp => .inl hp⟩
  | some h =>
    have hres := hI.reserved sid s hs h hh
    have htxs : w.db.txs = (s.writes.closeIn s.txID S.world.db.txs).insert s.txID h := by
      rw [hdb]
      simp only [Session.view, Writes.apply, hh]
    have hpairs : (S.become w).pairs = Function.update S.pairs s.txID (some s.rc.pair) := by
      funext t
      by_cases htx : t = s.txID
      · subst htx
        simp [Service.become, htxs, hI.table.fresh _ hres.fresh, hres.raw]
      · rw [Function.update_of_ne htx]
        by_cases hmem : t ∈ S.world.db.txs
        · obtain ⟨p, hp⟩ := hI.table.isSome hmem
          simp [Service.become, hp]
        · have hnone : w.db.txs.lookup t = none := by
            rw [htxs, AList.lookup_insert_ne htx]
            exact AList.lookup_eq_none.2 fun h => hmem ((hdom t).1 h)
          simp [Service.become, hnone]
    rw [hpairs, htxs]
    refine ⟨hclosed.insert (fun hmem => hres.fresh ((hdom _).1 hmem)) hres.marked hres.alone, fun t ht => ?_,
      fun t p hp => ?_⟩
    · rcases (AList.mem_insert _).1 ht with rfl | ht
      · exact .inr ⟨rfl, rfl⟩
      · exact .inl ((hdom t).1 ht)
    · by_cases htx : t = s.txID
      · rw [htx, Function.update_self, Option.some.injEq] at hp
        exact .inr ⟨hp.symm, rfl⟩
      · rw [Function.update_of_ne htx] at hp
        exact .inl hp

/-- **One ledger event.** -/
theorem IdemOK.ledger (hI : IdemOK E S.pairs S.world) (hrec : Recognisable S (.ledger ev)) :
    IdemOK E (S.become (S.world.step (E.rotated S.current) ev)).pairs
      (S.world.step (E.rotated S.current) ev) := by
  cases step_move (E.rotated S.current) S.world ev with
  | resumes hdb _ hsessions =>
    rw [become_pairs hI.table fun t => by rw [hdb]]
    refine ⟨by rw [hdb]; exact hI.table, fun sid s' hs' h' hh' => ?_⟩
    cases hsessions sid s' hs' with
    | untouched hs hl => exact (hI.reserved sid s' hs h' hh').resume (.of_eq ⟨rfl, rfl, rfl⟩) hdb hl (.refl h')
    | accepted txID cmd rc _ _ _ hstart =>
      rw [hstart] at hh'
      cases hh'
    | retried s txID _ hstart =>
      rw [hstart] at hh'
      cases hh'
    | statement s hs hev hexec hl =>
      by_cases hp : s.phase = .insert
      · subst hev
        exact insert_reserved hI.table (hrec s hs hp) hp hexec hl hdb hh'
      · have hcont := exec_continues hexec
        obtain ⟨h, hh, hsame⟩ := hcont.header hp h' hh'
        refine (hI.reserved sid s hs h hh).resume hcont hdb (fun k hk => ?_) hsame
        rw [hl]
        exact Locks.acquire_own hk
  | commits sid s hs _ _ hw =>
    rw [hw]
    obtain ⟨htable, hnew, hpairs⟩ := commit_table hI hs (w := S.world.commit sid s) rfl
    refine ⟨htable, fun sid' s' hs' h' hh' => ?_⟩
    obtain ⟨hne, hs', hl⟩ := endSession_sessions hs'
    have hres := hI.reserved sid' s' hs' h' hh'
    refine ⟨hres.raw, hres.marked, fun hmem => ?_, hl _ hres.row, hl _ hres.index, fun t ht => ?_⟩
    · -- both sessions would hold the row
      rcases hnew _ hmem with hold | ⟨htx, hsome⟩
      · exact hres.fresh hold
      · obtain ⟨h, hh⟩ := Option.isSome_iff_exists.1 hsome
        have hrow := (hI.reserved sid s hs h hh).row
        rw [← htx] at hrow
        exact hne (Locks.holder_unique hres.row hrow)
    · -- both would hold the index entry of the pair
      rcases hpairs t _ ht with hold | ⟨hpair, hsome⟩
      · exact hres.alone t hold
      · obtain ⟨h, hh⟩ := Option.isSome_iff_exists.1 hsome
        have hindex := (hI.reserved sid s hs h hh).index
        obtain ⟨hscope, hkey⟩ := Prod.mk.inj hpair
        rw [← hscope, ← hkey] at hindex
        exact hne (Locks.holder_unique hres.index hindex)

/-- A batch of maintenance changes no pair and adds no header. -/
theorem IdemOK.withTxs (hI : IdemOK E S.pairs S.world) (ht : TableOK E S.pairs txs)
    (hdom : ∀ t, t ∈ txs ↔ t ∈ S.world.db.txs) : IdemOK E (S.withTxs txs).pairs (S.withTxs txs).world := by
  unfold Service.withTxs
  rw [become_pairs hI.table hdom]
  refine ⟨ht, fun sid s hs h hh => ?_⟩
  have hres := hI.reserved sid s hs h hh
  exact ⟨hres.raw, hres.marked, fun hmem => hres.fresh ((hdom _).1 hmem), hres.row, hres.index, hres.alone⟩

/-- **One event of the service.** -/
theorem IdemOK.step (hI : IdemOK E S.pairs S.world) {e : ServiceEvent} (hrec : Recognisable S e) :
    IdemOK E (S.step E e).pairs (S.step E e).world := by
  cases e with
  | ledger ev => exact hI.ledger hrec
  | rotate version =>
    simp only [Service.step]
    split <;> exact hI
  | backfill batch =>
    simp only [Service.step]
    split
    · exact hI
    · rename_i txs htxs
      obtain ⟨ht, hdom⟩ := backfillOnce_ok hI.table htxs
      exact hI.withTxs ht hdom
  | purge batch =>
    obtain ⟨ht, hdom⟩ := purgeIdempotencyRaw_ok hI.table S.world.now S.updatedAt S.held batch
    exact hI.withTxs ht hdom

/-- A table as it is before any purge: every row has its raw key, no two rows the same
(`uq_ltx_idempotency`), and a digest, if there is one, is that of the row's version. Rows
from before the digest columns have none. -/
structure Stored (E : Env) (txs : AList (fun _ : UUID => TxRow)) : Prop where
  raw : ∀ id r, txs.lookup id = some r → ∃ p, r.rawPair = some p ∧ ∀ d, r.idempotencyKeyDigest = some d →
    ∃ version, r.idempotencyKeyVersion = some version ∧ d = digestOf E version p
  distinct : ∀ id id' r r', txs.lookup id = some r → txs.lookup id' = some r' → r.rawPair = r'.rawPair → id = id'

theorem idemOK_idle {db : Db} (hdb : Stored E db.txs) (now : ℕ) (updatedAt : UUID → ℕ) :
    IdemOK E (Service.idle E db now updatedAt).pairs (Service.idle E db now updatedAt).world := by
  refine ⟨⟨fun id r hr => ?_, fun id hid => ?_, fun id hid id' hid' heq => ?_⟩, fun sid s hs => by cases hs⟩
  · obtain ⟨p, hp, hd⟩ := hdb.raw id r hr
    have hr : db.txs.lookup id = some r := hr
    refine ⟨p, by simp [Service.idle, hr, hp], .inr hp, hd, fun hnone => ?_⟩
    simp [TxRow.rawPair, hnone] at hp
  · have hid : db.txs.lookup id = none := AList.lookup_eq_none.2 hid
    simp [Service.idle, hid]
  · obtain ⟨r, hr⟩ := Option.isSome_iff_exists.1 (AList.lookup_isSome.2 hid)
    obtain ⟨r', hr'⟩ := Option.isSome_iff_exists.1 (AList.lookup_isSome.2 hid')
    have hr : db.txs.lookup id = some r := hr
    have hr' : db.txs.lookup id' = some r' := hr'
    simp only [Service.idle, hr, hr', Option.bind_some] at heq
    exact hdb.distinct id id' r r' hr hr' heq

/-- **One header for each pair**, over any run of postings in any interleaving, rotations,
backfill and purge batches, in which no insert meets a purged row of its own pair under
another key version. -/
theorem pairs_distinct (E : Env) (db : Db) (now : ℕ) (updatedAt : UUID → ℕ) (hdb : Stored E db.txs)
    (evs : List ServiceEvent)
    (hevs : Along (Service.step E) Recognisable (.idle E db now updatedAt) evs) :
    (run (Service.step E) (.idle E db now updatedAt) evs).Distinct := by
  have hinv := run_inv_of_along (I := fun S => IdemOK E S.pairs S.world)
    (fun _ _ hI hrec => hI.step hrec) (idemOK_idle hdb now updatedAt) hevs
  exact hinv.table.distinct

/-! ## A retry after a rotation -/

instance (S : Service) : (e : ServiceEvent) → Decidable (Recognisable S e)
  | .ledger (.advance sid) =>
    decidable_of_iff (∀ s ∈ S.world.sessions sid, s.phase = .insert → ∀ q ∈ S.world.db.txs.entries,
        S.pairs q.1 = some s.rc.pair → q.2.idempotencyKey = none → q.2.idempotencyKeyVersion = some S.current)
      ⟨fun h s hs hp id r hr => h s hs hp ⟨id, r⟩ (AList.mem_lookup_iff.1 hr),
        fun h s hs hp q hq => h s hs hp q.1 q.2 (AList.mem_lookup_iff.2 hq)⟩
  | .ledger (.handle _ _ _) | .ledger (.fail _ _) | .ledger (.tick _) => .isTrue trivial
  | .rotate _ | .backfill _ | .purge _ => .isTrue trivial

namespace Sample

/-- Every key version has a key of its own. -/
def keyed : Env := { env with ring := ⟨fun version => some [UInt8.ofNat version], 1⟩ }

/-- The same top-up, key and all, as transaction `txID`. -/
def topup (sid : SessionID) (txID : UUID) : List ServiceEvent :=
  (call sid txID (command "k1" .moneyIn 100 UUID.nil)).map .ledger

/-- A top-up, the purge of its raw key 31 days later, and a retry. -/
def purgedRetry : List ServiceEvent :=
  topup 1 101 ++ [.ledger (.tick (31 * 24 * 60 * 60)), .purge [101]] ++ topup 2 102

/-- The same with a rotation before the retry. -/
def rotatedRetry : List ServiceEvent :=
  topup 1 101 ++ [.ledger (.tick (31 * 24 * 60 * 60)), .purge [101], .rotate 2] ++ topup 2 102

theorem zeroed_stored : Stored keyed zeroed.txs where
  raw id r hr := by
    have hr : (∅ : AList fun _ : UUID => TxRow).lookup id = some r := hr
    rw [AList.lookup_empty] at hr
    cases hr
  distinct id id' r r' hr := by
    have hr : (∅ : AList fun _ : UUID => TxRow).lookup id = some r := hr
    rw [AList.lookup_empty] at hr
    cases hr

end Sample

set_option maxRecDepth 20000 in
theorem pairs_distinct_purged :
    (run (Service.step Sample.keyed) (.idle Sample.keyed Sample.zeroed 0 fun _ => 0)
      Sample.purgedRetry).world.posted.map Prod.fst = [101] ∧
    (run (Service.step Sample.keyed) (.idle Sample.keyed Sample.zeroed 0 fun _ => 0)
      Sample.purgedRetry).Distinct :=
  ⟨by decide +kernel, pairs_distinct Sample.keyed Sample.zeroed 0 (fun _ => 0) Sample.zeroed_stored
    Sample.purgedRetry (by decide +kernel)⟩

set_option maxRecDepth 20000 in
/-- **A retry after a rotation posts again.** Transaction 101 lost its raw key to the purge
and has its digest under version 1. Under version 2 the retry of the same request finds
neither: transaction 102 posts too, and the user has 200 from one top-up of 100. -/
theorem retry_after_rotation :
    (run (Service.step Sample.keyed) (.idle Sample.keyed Sample.zeroed 0 fun _ => 0)
      Sample.rotatedRetry).world.posted.map Prod.fst = [101, 102] ∧
    (run (Service.step Sample.keyed) (.idle Sample.keyed Sample.zeroed 0 fun _ => 0)
      Sample.rotatedRetry).world.db.balances 11 = some 200 ∧
    ¬ (run (Service.step Sample.keyed) (.idle Sample.keyed Sample.zeroed 0 fun _ => 0)
      Sample.rotatedRetry).Distinct := by
  refine ⟨by decide +kernel, by decide +kernel, fun h => ?_⟩
  have heq := h 101 (by decide +kernel) 102 (by decide +kernel) (by decide +kernel)
  cases heq

end Seev.Ledger
