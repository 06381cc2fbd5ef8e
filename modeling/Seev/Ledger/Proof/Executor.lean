import Seev.Ledger.Executor
import Seev.Ledger.Proof.Reach

/-!
# Executing a command again

`Execute` asks the policy before the ledger can tell that it knows the command, and counts its usage after
the ledger has answered nil, which it also does for a command it has posted before. Under the policy a
retry is therefore refused or counted again. Elsewhere the ledger recognises it by its digest, unless
what the header would say has changed in the meantime.

* `replays_silent`: in a run that retries only outside the policy, a retry succeeds and changes nothing,
  and every counter is the sum over the posted commands.
* `replay_counted`: a retry under the policy is counted twice, and the third attempt is refused.
-/

namespace Seev.Ledger

open Lib

variable {E : Env} {db : Db} {now : ℕ} {cmd : Command} {rc : ResolvedCommand} {txID : UUID} {s s' : Session}
  {h : TxRow}

/-- The digest of the scope and the key of a command, under the key in use. -/
def Command.digest (E : Env) (cmd : Command) : Bytes :=
  (E.ring.digest E.hmac (canonicalIdempotencyInput (stringPtr cmd.idempotencyScope) cmd.idempotencyKey)).1

/-- The accounts of the header have its currency. -/
def ResolvedCommand.accountsOK (E : Env) (rc : ResolvedCommand) : Bool :=
  headerAccountOK E rc.currency (uuidPtr rc.source) && headerAccountOK E rc.currency (uuidPtr rc.destination)

/-- The header is no conflict for the command. -/
def Accepts (E : Env) (rc : ResolvedCommand) (r : TxRow) : Prop :=
  ∀ f ∈ r.conflictFingerprint, f.isEmpty = true ∨ f = conflictFingerprint E rc.type rc.amount rc.currency

/-! ## The table -/

/-- Every header has the digest of its raw key, and no two the same. -/
structure Digested (E : Env) (db : Db) : Prop where
  digest : ∀ id r, db.txs.lookup id = some r → ∃ key, r.idempotencyKey = some key ∧
    r.idempotencyKeyDigest = some (E.ring.digest E.hmac (canonicalIdempotencyInput r.idempotencyScope key)).1
  unique : ∀ id r, db.txs.lookup id = some r → ∀ id' r', db.txs.lookup id' = some r' →
    r.idempotencyKeyDigest = r'.idempotencyKeyDigest → id' = id

/-- The command has a header, found by its digest, that is no conflict. -/
def Known (E : Env) (db : Db) (rc : ResolvedCommand) : Prop :=
  ∃ id r, db.txs.lookup id = some r ∧ r.idempotencyKeyDigest = some (rc.digest E) ∧ Accepts E rc r

/-- What the table keeps: columns of a header, but for its status and its closing. -/
def Keeps (db db' : Db) : Prop :=
  ∀ id r, db.txs.lookup id = some r → ∃ r', db'.txs.lookup id = some r' ∧ SameIdem r r'

theorem Known.keeps {db' : Db} (h : Known E db rc) (hk : Keeps db db') : Known E db' rc := by
  obtain ⟨id, r, hr, hdigest, haccepts⟩ := h
  obtain ⟨r', hr', hsame⟩ := hk id r hr
  exact ⟨id, r', hr', hsame.digest.trans hdigest, fun f hf => haccepts f (hsame.fingerprint ▸ hf)⟩

/-- Looking for the digest finds the header that has it. -/
theorem Digested.find (h : Digested E db) {id : UUID} {r : TxRow} {d : Bytes} (hr : db.txs.lookup id = some r)
    (hd : r.idempotencyKeyDigest = some d) :
    db.txs.entries.find? (fun q => q.2.idempotencyKeyDigest = some d) = some ⟨id, r⟩ := by
  cases hfind : db.txs.entries.find? fun q => q.2.idempotencyKeyDigest = some d with
  | none =>
    have := List.find?_eq_none.1 hfind ⟨id, r⟩ (AList.mem_lookup_iff.1 hr)
    exact absurd hd (by simpa using this)
  | some q =>
    obtain ⟨id', r'⟩ := q
    have hr' : db.txs.lookup id' = some r' := AList.mem_lookup_iff.2 (List.mem_of_find?_eq_some hfind)
    have hd' : r'.idempotencyKeyDigest = some d := by simpa using List.find?_some hfind
    obtain rfl := h.unique id r hr id' r' hr' (hd.trans hd'.symm)
    rw [hr] at hr'
    cases hr'
    rfl

/-! ## One `Handle` call -/

/-- The inserted header of a session. -/
structure Headed (E : Env) (db : Db) (rc : ResolvedCommand) (txID : UUID) (s : Session) : Prop where
  id : s.txID = txID
  header : ∃ row h, insertHeader E db rc txID = .ok row ∧ s.writes.header = some h ∧ SameIdem row h

theorem SameIdem.trans {a b c : TxRow} (h : SameIdem a b) (h' : SameIdem b c) : SameIdem a c :=
  ⟨h'.key.trans h.key, h'.scope.trans h.scope, h'.digest.trans h.digest, h'.version.trans h.version,
    h'.fingerprint.trans h.fingerprint⟩

/-- No statement takes the header away. -/
theorem exec_header (h : s.exec E now db = .ok s') (hh : s.writes.header.isSome) : s'.writes.header.isSome := by
  cases exec_executes h with
  | insert => rfl
  | finish | reject => exact (Option.isSome_map ..).trans hh
  | _ => exact hh

theorem Headed.exec (hh : Headed E db rc txID s) (hp : s.phase ≠ .insert) (h : s.exec E now db = .ok s') :
    Headed E db rc txID s' := by
  have hcont := exec_continues h
  obtain ⟨row, hd, hrow, hhd, hsame⟩ := hh.header
  obtain ⟨hd', hhd'⟩ := Option.isSome_iff_exists.1 (exec_header h (by rw [hhd]; rfl))
  obtain ⟨hd₀, hhd₀, hsame'⟩ := hcont.header hp hd' hhd'
  rw [hhd] at hhd₀
  cases hhd₀
  exact ⟨hcont.txID.trans hh.id, row, hd', hrow, hhd', hsame.trans hsame'⟩

/-- Past the insert a session never comes back to it. -/
theorem exec_phase (h : s.exec E now db = .ok s') : s'.phase ≠ .insert := by
  cases exec_executes h with
  | done hp => rcases hp with hp | hp <;> rw [hp] <;> exact nofun
  | _ => exact nofun

/-- What an uninterrupted `Handle` call does: nothing, or the commit of a session with its header. -/
inductive Handled (E : Env) (db : Db) (rc : ResolvedCommand) (txID : UUID) : Db × Bool → Prop
  | refused : Handled E db rc txID (db, false)
  | duplicate (known : (Session.start rc 0 txID).alreadyPosted E db = true) : Handled E db rc txID (db, true)
  | committed (s : Session) (ok : Bool) (headed : Headed E db rc txID s) : Handled E db rc txID (s.view db, ok)

theorem Headed.complete (n : ℕ) (hh : Headed E db rc txID s) (hp : s.phase ≠ .insert) :
    Handled E db rc txID (s.complete E now db n) := by
  induction n generalizing s with
  | zero => exact .refused
  | succ n ih =>
    rw [Session.complete]
    split
    · exact .committed s true hh
    · exact .committed s false hh
    · split
      · have hnot : s.alreadyPosted E db = false := by
          unfold Session.alreadyPosted
          split
          · next hinsert _ => exact absurd hinsert hp
          · rfl
        rw [hnot]
        exact .refused
      · next hexec => exact ih (hh.exec hp hexec) (exec_phase hexec)

theorem prepare_registry (h : prepare E db now cmd = .ok rc) : ∃ p, registry E rc.type = .ok p := by
  obtain ⟨p, m, acc, c, hreg, -, -, -, rfl⟩ := (prepare_ok h).resolved
  exact ⟨p, hreg⟩

theorem prepare_request (h : prepare E db now cmd = .ok rc) :
    rc.idempotencyScope = cmd.idempotencyScope ∧ rc.idempotencyKey = cmd.idempotencyKey ∧
      rc.amount = cmd.amount := by
  obtain ⟨p, m, acc, c, -, -, -, -, rfl⟩ := (prepare_ok h).resolved
  exact ⟨rfl, rfl, rfl⟩

/-- The first statement is the insert. -/
theorem exec_start {p : TxProcessor} (hreg : registry E rc.type = .ok p) :
    (Session.start rc 0 txID).exec E now db = do
      let row ← insertHeader E db rc txID
      return { Session.start rc 0 txID with
        phase := .quote, writes := { Writes.empty with header := some row } } := by
  rw [Session.exec, show registry E (Session.start rc 0 txID).rc.type = _ from hreg, ok_bind]
  rfl

theorem handle_error {e : Err} (hprep : prepare E db now cmd = .ok rc)
    (h : insertHeader E db rc txID = .error e) :
    handle E now db txID cmd = (db, (Session.start rc 0 txID).alreadyPosted E db) := by
  obtain ⟨p, hreg⟩ := prepare_registry hprep
  have hexec : (Session.start rc 0 txID).exec E now db = .error e := by
    rw [exec_start hreg, h]
    rfl
  rw [handle, hprep]
  dsimp only
  rw [Session.complete, hexec]
  rfl

theorem handle_handled (hprep : prepare E db now cmd = .ok rc) (txID : UUID) :
    Handled E db rc txID (handle E now db txID cmd) := by
  obtain ⟨p, hreg⟩ := prepare_registry hprep
  cases hrow : insertHeader E db rc txID with
  | error e =>
    rw [handle_error hprep hrow]
    cases hknown : (Session.start rc 0 txID).alreadyPosted E db with
    | true => exact .duplicate hknown
    | false => exact .refused
  | ok row =>
    rw [handle, hprep]
    dsimp only
    rw [Session.complete, exec_start hreg, hrow, ok_bind]
    exact Headed.complete 12 ⟨rfl, row, row, hrow, rfl, .refl row⟩ nofun

/-- The row of a command that the insert accepts. -/
theorem insertHeader_accepted {row : TxRow} (h : insertHeader E db rc txID = .ok row) :
    row.idempotencyKey = some rc.idempotencyKey ∧ row.idempotencyScope = stringPtr rc.idempotencyScope ∧
    row.idempotencyKeyDigest = some (rc.digest E) ∧ Accepts E rc row ∧ txID ∉ db.txs ∧
    ∀ id r, db.txs.lookup id = some r → r.idempotencyKeyDigest ≠ row.idempotencyKeyDigest := by
  obtain ⟨amount, -, rfl, hfresh, hconflict⟩ := insertHeader_row h
  refine ⟨rfl, rfl, rfl, fun f hf => .inr (Option.some.inj hf).symm, hfresh, fun id r hr heq => ?_⟩
  have hfree := (Bool.or_eq_false_iff.1 (hconflict ⟨id, r⟩ (AList.mem_lookup_iff.1 hr))).2
  rw [heq, decide_eq_true rfl, Bool.and_true] at hfree
  cases hfree

/-- The other headers in the view of a session. -/
theorem view_others (db : Db) (hh : s.writes.header = some h) {id : UUID} (hid : id ≠ s.txID) :
    ∃ g : TxRow → TxRow, (∀ r, SameIdem r (g r)) ∧ (s.view db).txs.lookup id = (db.txs.lookup id).map g := by
  rw [view_txs hh, AList.lookup_insert_ne hid, lookup_closeIn]
  split
  · next ref reason _ =>
    split
    · exact ⟨fun r => r.close s.txID reason, fun r => ⟨rfl, rfl, rfl, rfl, rfl⟩, rfl⟩
    · exact ⟨fun r => r, .refl, Option.map_id'.symm⟩
  · exact ⟨fun r => r, .refl, Option.map_id'.symm⟩

/-- A commit keeps the table and adds the header. -/
theorem Headed.view (hh : Headed E db rc txID s) (hd : Digested E db) :
    Keeps db (s.view db) ∧ Digested E (s.view db) ∧ Known E (s.view db) rc := by
  obtain ⟨row, h, hrow, hheader, hsame⟩ := hh.header
  obtain ⟨hkey, hscope, hdigest, haccepts, hfresh, hnew⟩ := insertHeader_accepted hrow
  have hself : (s.view db).txs.lookup txID = some h := by rw [view_txs hheader, hh.id, AList.lookup_insert]
  have hne {id : UUID} {r : TxRow} (hr : db.txs.lookup id = some r) : id ≠ s.txID := by
    rintro rfl
    exact hfresh (hh.id ▸ AList.lookup_isSome.1 (by rw [hr]; rfl))
  have hold {id : UUID} {r' : TxRow} (hid : id ≠ txID) (hr' : (s.view db).txs.lookup id = some r') :
      ∃ r, db.txs.lookup id = some r ∧ SameIdem r r' := by
    obtain ⟨g, hg, hother⟩ := view_others db hheader (hh.id ▸ hid)
    rw [hother] at hr'
    obtain ⟨r, hr, rfl⟩ := Option.map_eq_some_iff.1 hr'
    exact ⟨r, hr, hg r⟩
  have hkeeps : Keeps db (s.view db) := fun id r hr => by
    obtain ⟨g, hg, hother⟩ := view_others db hheader (hne hr)
    exact ⟨g r, by rw [hother, hr]; rfl, hg r⟩
  refine ⟨hkeeps, ⟨fun id r' hr' => ?_, ?_⟩,
    txID, h, hself, hsame.digest.trans hdigest, fun f hf => haccepts f (hsame.fingerprint ▸ hf)⟩
  · rcases eq_or_ne id txID with rfl | hid
    · rw [hself] at hr'
      cases hr'
      refine ⟨rc.idempotencyKey, hsame.key.trans hkey, ?_⟩
      rw [hsame.digest, hdigest, hsame.scope, hscope]
      rfl
    · obtain ⟨r, hr, hsame'⟩ := hold hid hr'
      obtain ⟨key, hk, hdig⟩ := hd.digest id r hr
      exact ⟨key, hsame'.key.trans hk, by rw [hsame'.digest, hsame'.scope]; exact hdig⟩
  · -- the new digest is none of the old ones
    have hfree {id : UUID} {r : TxRow} (hid : id ≠ txID) (hr : (s.view db).txs.lookup id = some r) :
        r.idempotencyKeyDigest ≠ h.idempotencyKeyDigest := by
      obtain ⟨r₀, hr₀, hsame'⟩ := hold hid hr
      rw [hsame'.digest, hsame.digest]
      exact hnew id r₀ hr₀
    intro id r hr id' r' hr' heq
    rcases eq_or_ne id txID with hid | hid <;> rcases eq_or_ne id' txID with hid' | hid'
    · exact hid'.trans hid.symm
    · rw [hid, hself] at hr
      cases hr
      exact absurd heq.symm (hfree hid' hr')
    · rw [hid', hself] at hr'
      cases hr'
      exact absurd heq (hfree hid hr)
    · obtain ⟨r₀, hr₀, hsame₀⟩ := hold hid hr
      obtain ⟨r₁, hr₁, hsame₁⟩ := hold hid' hr'
      exact hd.unique id r₀ hr₀ id' r₁ hr₁ (by rw [← hsame₀.digest, ← hsame₁.digest]; exact heq)

theorem insertTx_mismatch (db : Db) (txID : UUID) (h : ¬ rc.accountsOK E = true) :
    ∃ e, insertTx E db.txs (insertParams rc txID) = .error (.other e) := by
  refine ⟨_, if_pos ?_⟩
  change (!rc.accountsOK E) = true
  rw [Bool.eq_false_iff.2 h]
  rfl

theorem handleDuplicate_alreadyPosted : (handleDuplicate E db rc).sentinel = some .alreadyPosted ↔
    findConflictOrDuplicate E db.txs rc.idempotencyKey (stringPtr rc.idempotencyScope) rc.type rc.amount
      rc.currency =
      some (.posted, false) := by
  unfold handleDuplicate
  split
  · next h => simp [h, Err.plain]
  · next h => simp [h, Err.bare]
  · next h => simp [h, Err.bare]
  · next h => simp [h, Err.bare]
  · next status hposted _ h =>
    simp only [h, Err.bare, Option.some.injEq, Prod.mk.injEq, and_true, reduceCtorEq, false_iff]
    exact fun heq => hposted heq

theorem alreadyPosted_start : (Session.start rc 0 txID).alreadyPosted E db = true ↔
    insertTx E db.txs (insertParams rc txID) = .error .duplicateKey ∧
    findConflictOrDuplicate E db.txs rc.idempotencyKey (stringPtr rc.idempotencyScope) rc.type rc.amount
      rc.currency =
      some (.posted, false) := by
  simp only [Session.alreadyPosted, Session.start]
  cases hinsert : insertTx E db.txs (insertParams rc txID) with
  | ok row => simp
  | error e =>
    cases e with
    | other e => simp
    | duplicateKey =>
      exact decide_eq_true_iff.trans (handleDuplicate_alreadyPosted.trans (and_iff_right rfl).symm)

/-- The answer to a command whose digest is on a header. -/
theorem findConflictOrDuplicate_digest (hd : Digested E db) {id : UUID} {r : TxRow}
    (hr : db.txs.lookup id = some r)
    (hdigest : r.idempotencyKeyDigest = some (rc.digest E)) :
    ∃ conflict, findConflictOrDuplicate E db.txs rc.idempotencyKey (stringPtr rc.idempotencyScope) rc.type
      rc.amount
      rc.currency = some (r.status, conflict) ∧ (conflict = false ↔ Accepts E rc r) := by
  have hfind := hd.find hr hdigest
  rw [Command.digest] at hfind
  simp only [findConflictOrDuplicate]
  rw [hfind, Option.some_or, Option.map_some]
  refine ⟨_, rfl, ?_⟩
  rw [Accepts]
  cases r.conflictFingerprint with
  | none => simp
  | some f => simp [or_iff_not_imp_left]

/-- A duplicate that is answered with success has an accepting header with the digest of the command. -/
theorem known_of_alreadyPosted (hd : Digested E db) (h : (Session.start rc 0 txID).alreadyPosted E db = true) :
    Known E db rc ∧ rc.accountsOK E = true := by
  obtain ⟨hdup, hanswer⟩ := alreadyPosted_start.1 h
  refine ⟨?_, by_contra fun hnot => ?_⟩
  · -- the row was found by its digest, or by its raw key, which has the same digest
    have hrow : ∃ id r, db.txs.lookup id = some r ∧ r.idempotencyKeyDigest = some (rc.digest E) := by
      rw [findConflictOrDuplicate] at hanswer
      obtain ⟨⟨id, r⟩, hrow, -⟩ := Option.map_eq_some_iff.1 hanswer
      rcases Option.or_eq_some_iff.1 hrow with hfind | ⟨-, hfind⟩
      · exact ⟨id, r, AList.mem_lookup_iff.2 (List.mem_of_find?_eq_some hfind),
          by simpa [Command.digest] using List.find?_some hfind⟩
      · have hr := AList.mem_lookup_iff.2 (List.mem_of_find?_eq_some hfind)
        obtain ⟨hkey, hscope⟩ : r.idempotencyKey = some rc.idempotencyKey ∧
          r.idempotencyScope = stringPtr rc.idempotencyScope := by
          simpa using List.find?_some hfind
        obtain ⟨key, hkey', hdigest⟩ := hd.digest id r hr
        rw [hkey, Option.some.injEq] at hkey'
        subst hkey'
        exact ⟨id, r, hr, by rw [hdigest, hscope]; rfl⟩
    obtain ⟨id, r, hr, hdigest⟩ := hrow
    obtain ⟨conflict, hfind, haccepts⟩ := findConflictOrDuplicate_digest hd hr hdigest
    rw [hanswer, Option.some.injEq, Prod.mk.injEq] at hfind
    exact ⟨id, r, hr, hdigest, haccepts.1 hfind.2.symm⟩
  · obtain ⟨e, he⟩ := insertTx_mismatch db txID hnot
    rw [he] at hdup
    cases hdup

/-- The insert of a command whose digest is on a header. -/
theorem insertTx_duplicate (txID : UUID) {id : UUID} {r : TxRow} (hr : db.txs.lookup id = some r)
    (hdigest : r.idempotencyKeyDigest = some (rc.digest E)) (haccounts : rc.accountsOK E = true)
    (hamount : Executor.validAmount rc.amount = true) :
    insertTx E db.txs (insertParams rc txID) = .error .duplicateKey := by
  simp only [Executor.validAmount, decide_eq_true_eq] at hamount
  obtain ⟨hpos, hint, hmax⟩ := hamount
  have hnum : ((rc.amount.num : ℤ) : ℚ) = rc.amount :=
    Rat.coe_int_num_of_den_eq_one (by simpa [Decimal.isInteger] using hint)
  rw [← hnum] at hpos hmax
  have hpos' : 0 < rc.amount.num := by exact_mod_cast hpos
  have hbig : rc.amount.toBigint = some rc.amount.num := by
    refine toBigint_eq_some.2 ⟨hnum.symm, ?_⟩
    rw [Decimal.inInt64, Bool.and_eq_true, decide_eq_true_eq, decide_eq_true_eq]
    exact ⟨le_trans (by decide) hpos'.le, by exact_mod_cast hmax⟩
  have hconflict : db.txs.entries.any
      (fun q => q.2.conflicts (headerRow E (insertParams rc txID) rc.amount.num)) = true := by
    refine List.any_eq_true.2 ⟨⟨id, r⟩, AList.mem_lookup_iff.1 hr, ?_⟩
    rw [TxRow.conflicts, Bool.or_eq_true]
    right
    rw [hdigest]
    simp [headerRow, insertParams, Command.digest]
  have haccounts' : (headerAccountOK E (insertParams rc txID).currency (insertParams rc txID).sourceAccountID &&
      headerAccountOK E (insertParams rc txID).currency (insertParams rc txID).destinationAccountID) = true :=
        haccounts
  have hbig' : (insertParams rc txID).amount.toBigint = some rc.amount.num := hbig
  rw [insertTx, haccounts', hbig']
  simp [hpos'.not_ge, hconflict]

/-- **The ledger recognises the command.** -/
theorem handle_known (txID : UUID) {rc' : ResolvedCommand} (hd : Digested E db) (hknown : Known E db rc')
    (hposted : ∀ id r, db.txs.lookup id = some r → r.idempotencyKeyDigest = some (rc'.digest E) →
      r.status = .posted)
    (haccounts : rc'.accountsOK E = true) (hprep : prepare E db now cmd = .ok rc)
    (hamount : Executor.validAmount rc.amount = true)
    (hsame : rc.digest E = rc'.digest E ∧ rc.type = rc'.type ∧ rc.amount = rc'.amount ∧
      rc.currency = rc'.currency ∧
      rc.source = rc'.source ∧ rc.destination = rc'.destination) :
    handle E now db txID cmd = (db, true) := by
  obtain ⟨hdigest, htype, hamt, hcurrency, hsource, hdestination⟩ := hsame
  obtain ⟨id, r, hr, hrd, haccepts⟩ := hknown
  have hrd' : r.idempotencyKeyDigest = some (rc.digest E) := by rw [hrd, hdigest]
  have haccounts' : rc.accountsOK E = true := by
    rw [ResolvedCommand.accountsOK, hcurrency, hsource, hdestination]
    exact haccounts
  have hdup := insertTx_duplicate txID hr hrd' haccounts' hamount
  obtain ⟨conflict, hanswer, hconflict⟩ := findConflictOrDuplicate_digest hd hr hrd'
  rw [hposted id r hr hrd, hconflict.2 (by rw [Accepts, htype, hamt, hcurrency]; exact haccepts)] at hanswer
  have hheader : insertHeader E db rc txID = .error (handleDuplicate E db rc) := by rw [insertHeader, hdup]
  rw [handle_error hprep hheader, alreadyPosted_start.2 ⟨hdup, hanswer⟩]

/-- What the ledger keeps over a call, and what a success leaves. -/
theorem handle_keeps (txID : UUID) (hd : Digested E db) (hprep : prepare E db now cmd = .ok rc) :
    Digested E (handle E now db txID cmd).1 ∧ Keeps db (handle E now db txID cmd).1 ∧
      ((handle E now db txID cmd).2 = true → Known E (handle E now db txID cmd).1 rc ∧
        rc.accountsOK E = true) := by
  have hhandled := handle_handled hprep txID
  generalize handle E now db txID cmd = result at hhandled ⊢
  cases hhandled with
  | refused => exact ⟨hd, fun id r hr => ⟨r, hr, .refl r⟩, fun h => nomatch h⟩
  | duplicate hknown => exact ⟨hd, fun id r hr => ⟨r, hr, .refl r⟩, fun _ => known_of_alreadyPosted hd hknown⟩
  | committed s ok hh =>
    obtain ⟨hkeeps, hdigested, hknown⟩ := hh.view hd
    obtain ⟨row, -, hrow, -⟩ := hh.header
    refine ⟨hdigested, hkeeps, fun _ => ⟨hknown, by_contra fun hnot => ?_⟩⟩
    obtain ⟨e, he⟩ := insertTx_mismatch db txID hnot
    rw [insertHeader, he] at hrow
    cases hrow

namespace Executor

variable {C : Config} {s : State} {x : ExecutionContext} {d : Draw}

/-- What the header of a command says of it. -/
def SameHeader (rc rc' : ResolvedCommand) : Prop :=
  rc.type = rc'.type ∧ rc.amount = rc'.amount ∧ rc.currency = rc'.currency ∧ rc.source = rc'.source ∧
    rc.destination = rc'.destination

instance (rc rc' : ResolvedCommand) : Decidable (SameHeader rc rc') :=
  inferInstanceAs (Decidable (_ ∧ _ ∧ _ ∧ _ ∧ _))

/-- A retry is made outside the policy, passes the checks in front of the posting, still resolves to what was
posted, and that was not reversed. A new command that is metered finds its counters. -/
def Careful (C : Config) (E : Env) (s : State) : Event → Prop
  | .execute _ cmd context d =>
    (∀ p ∈ s.posted, p.sameKey cmd = true →
      metered C (context.normalized s.now cmd) = false ∧
        refusal C E s cmd (context.normalized s.now cmd) d = none ∧
      (∃ rc, prepare E s.db s.now cmd = .ok rc ∧ SameHeader rc p.rc) ∧
      ∀ id r, s.db.txs.lookup id = some r → r.idempotencyKeyDigest = some (p.rc.digest E) → r.status = .posted) ∧
    ((∀ p ∈ s.posted, p.sameKey cmd = false) → metered C (context.normalized s.now cmd) = true →
      ∀ k, d.up k = true)
  | .tick _ => True

/-- A retry succeeds and changes neither the ledger nor a counter. -/
def Silent (C : Config) (E : Env) (s : State) : Event → Prop
  | .execute txID cmd context d => (∃ p ∈ s.posted, p.sameKey cmd = true) →
      (execute C E s txID cmd context d).2 = none ∧ (execute C E s txID cmd context d).1.db = s.db ∧
        (execute C E s txID cmd context d).1.counters = s.counters
  | .tick _ => True

/-- What a posted command has added to a counter. -/
def Posting.usage (C : Config) (k : CounterKey) (p : Posting) : ℤ :=
  if metered C p.context then Executor.usage C p.time p.cmd p.context k else 0

/-- The ledger knows every posted command, and the counters are the sum of their usage. -/
structure Sound (C : Config) (E : Env) (s : State) : Prop where
  digested : Digested E s.db
  known : ∀ p ∈ s.posted, Known E s.db p.rc ∧ p.rc.accountsOK E = true ∧
    ∃ db now, prepare E db now p.cmd = .ok p.rc
  counters : ∀ k, s.counters k = (s.posted.map (Posting.usage C k)).sum
  distinct : s.posted.Pairwise fun p q => p.sameKey q.cmd = false

theorem Posting.sameKey_digest {p : Posting} (h : p.sameKey cmd = true) {db db' : Db} {now now' : ℕ}
    (hp : prepare E db now p.cmd = .ok p.rc) (hprep : prepare E db' now' cmd = .ok rc) :
    rc.digest E = p.rc.digest E := by
  simp only [Posting.sameKey, decide_eq_true_eq] at h
  obtain ⟨hscope, hkey, -⟩ := prepare_request hprep
  obtain ⟨hscope', hkey', -⟩ := prepare_request hp
  rw [Command.digest, Command.digest, hscope, hkey, hscope', hkey', h.1, h.2]

theorem refusal_amount (h : refusal C E s cmd x d = none) : validAmount cmd.amount = true := by
  unfold refusal at h
  split at h
  · cases h
  split at h
  · cases h
  · next hvalid => simpa using hvalid

/-- **A retry under the condition.** -/
theorem execute_retry {txID : UUID} {p : Posting} (h : Sound C E s) (hc : Careful C E s (.execute txID cmd x d))
    (hp : p ∈ s.posted) (hkey : p.sameKey cmd = true) : execute C E s txID cmd x d = (s, none) := by
  obtain ⟨hfree, hrefusal, ⟨rc, hprep, htype, hamount, hcurrency, hsource, hdestination⟩, hposted⟩ :=
    hc.1 p hp hkey
  obtain ⟨hknown, haccounts, db, now, hp'⟩ := h.known p hp
  have hvalid : validAmount rc.amount = true := by
    rw [(prepare_request hprep).2.2]
    exact refusal_amount hrefusal
  have hhandle := handle_known txID h.digested hknown hposted haccounts hprep hvalid
    ⟨Posting.sameKey_digest hkey hp' hprep, htype, hamount, hcurrency, hsource, hdestination⟩
  have hany : s.posted.any (Posting.sameKey cmd) = true := List.any_eq_true.2 ⟨p, hp, hkey⟩
  simp only [execute, hrefusal, hhandle, hfree, hprep, hany]
  rfl

theorem Sound.init {db : Db} (hdb : db.txs = ∅) (now : ℕ) : Sound C E (.init db now) where
  digested := ⟨fun id r hr => by simp [State.init, hdb] at hr, fun id r hr => by simp [State.init, hdb] at hr⟩
  known _ hp := nomatch hp
  counters _ := rfl
  distinct := .nil

/-- Only the committed state changes, and keeps what it had. -/
theorem Sound.withDb (h : Sound C E s) {db : Db} (hd : Digested E db) (hk : Keeps s.db db) :
    Sound C E { s with db := db } :=
  ⟨hd, fun p hp => ⟨(h.known p hp).1.keeps hk, (h.known p hp).2⟩, h.counters, h.distinct⟩

/-- A command that is posted for the first time. -/
theorem Sound.post {db : Db} {counters : CounterKey → ℤ} (h : Sound C E s) (hd : Digested E db)
    (hk : Keeps s.db db)
    (hprep : prepare E s.db s.now cmd = .ok rc) (hknown : Known E db rc ∧ rc.accountsOK E = true)
    (hnew : ∀ p ∈ s.posted, p.sameKey cmd = false)
    (hcounters : ∀ k, counters k = s.counters k + Posting.usage C k ⟨cmd, rc, x, s.now⟩) :
    Sound C E { s with db := db, counters := counters, posted := s.posted ++ [⟨cmd, rc, x, s.now⟩] } where
  digested := hd
  known p hp := by
    rcases List.mem_append.1 hp with hp | hp
    · exact ⟨(h.known p hp).1.keeps hk, (h.known p hp).2⟩
    · cases List.mem_singleton.1 hp
      exact ⟨hknown.1, hknown.2, s.db, s.now, hprep⟩
  counters k := by
    dsimp only
    rw [hcounters, h.counters, List.map_append, List.sum_append]
    simp
  distinct := by
    refine List.pairwise_append.2 ⟨h.distinct, List.pairwise_singleton .., fun p hp q hq => ?_⟩
    cases List.mem_singleton.1 hq
    exact hnew p hp

theorem step_sound {e : Event} (h : Sound C E s) (hc : Careful C E s e) : Sound C E (s.step C E e) := by
  cases e with
  | tick d => exact ⟨h.digested, h.known, h.counters, h.distinct⟩
  | execute txID cmd context d =>
    rw [State.step]
    by_cases hretry : ∃ p ∈ s.posted, p.sameKey cmd = true
    · obtain ⟨p, hp, hkey⟩ := hretry
      rw [execute_retry h hc hp hkey]
      exact h
    have hnew : ∀ p ∈ s.posted, p.sameKey cmd = false := fun p hp =>
      Bool.eq_false_iff.2 fun hkey => hretry ⟨p, hp, hkey⟩
    have hany : s.posted.any (Posting.sameKey cmd) = false := List.any_eq_false.2 fun p hp => by simp [hnew p hp]
    rw [execute]
    cases hrefusal : refusal C E s cmd (context.normalized s.now cmd) d with
    | some refusal => exact h
    | none =>
      cases hprep : prepare E s.db s.now cmd with
      | error e =>
        simp only [handle, hprep]
        exact h
      | ok rc =>
        obtain ⟨hd, hk, hknown⟩ := handle_keeps txID h.digested hprep
        dsimp only
        split
        · next hok =>
          simp only [hany]
          refine h.post hd hk hprep (hknown hok) hnew fun k => ?_
          rw [Posting.usage]
          split
          · next hmetered => rw [record, if_pos (hc.2 hnew hmetered k)]
          · exact (add_zero _).symm
        · exact h.withDb hd hk

/-- **Retries outside the policy are silent.** In every run from an empty ledger whose steps are careful,
every retry of a posted scope and key succeeds and changes neither the ledger nor a counter, and every
counter is the sum of the usage of the posted commands, which are distinct. -/
theorem replays_silent (C : Config) (E : Env) (db : Db) (now : ℕ) (hdb : db.txs = ∅) (es : List Event)
    (hes : Along (State.step C E) (Careful C E) (.init db now) es) :
    Along (State.step C E) (Silent C E) (.init db now) es ∧
    (∀ k, (run (State.step C E) (.init db now) es).counters k =
      ((run (State.step C E) (.init db now) es).posted.map (Posting.usage C k)).sum) ∧
    (run (State.step C E) (.init db now) es).posted.Pairwise fun p q => p.sameKey q.cmd = false := by
  have hsound := run_inv_of_along (fun _ _ => step_sound) (Sound.init (C := C) (E := E) hdb now) hes
  refine ⟨Along.of_inv (fun _ _ => step_sound) (fun s e h hc => ?_) (Sound.init hdb now) hes, hsound.counters,
    hsound.distinct⟩
  cases e with
  | tick d => trivial
  | execute txID cmd context d =>
    rintro ⟨p, hp, hkey⟩
    rw [execute_retry h hc hp hkey]
    exact ⟨rfl, rfl, rfl⟩

namespace Trial

open Ledger.Sample

def config : Config := ⟨id, true, true, 0, fun _ => 0, fun _ => 0⟩

/-- An active subject, at most two commands a day, everything answers. -/
def draw : Draw :=
  ⟨some ⟨"active", "", 1, none⟩, some (some ⟨none, none, some 2, none, true⟩), fun _ => true, true⟩

def topup (source : String) (txID : UUID) : Event :=
  .execute txID (command "k" .moneyIn 500 0) ⟨source, "IDR", none⟩ draw

def after (es : List Event) : State := run (State.step config env) (.init zeroed 0) es

def countKey : CounterKey := ⟨1, .moneyIn, none, .dailyCount 0⟩

theorem retried_careful :
    Along (State.step config env) (Careful config env) (.init zeroed 0)
      [topup "internal-service" 7, topup "internal-service" 8] := by
  refine ⟨⟨(fun p hp => nomatch hp), fun _ hm => absurd hm (by decide +kernel)⟩,
    ⟨fun p hp _ => ⟨by decide +kernel, by decide +kernel, ?_, fun id r hr _ => ?_⟩, fun _ hm =>
      absurd hm (by decide +kernel)⟩,
    trivial⟩
  · have hall : (prepare env (after [topup "internal-service" 7]).db 0 (command "k" .moneyIn 500 0)).toOption.any
        (fun rc => (after [topup "internal-service" 7]).posted.all fun p => SameHeader rc p.rc) = true := by
          decide +kernel
    cases hprep : prepare env (after [topup "internal-service" 7]).db 0 (command "k" .moneyIn 500 0) with
    | error e => rw [hprep] at hall; cases hall
    | ok rc =>
      rw [hprep] at hall
      exact ⟨rc, hprep, of_decide_eq_true (List.all_eq_true.1 hall p hp)⟩
  · have hall : ∀ q ∈ (after [topup "internal-service" 7]).db.txs.entries, q.2.status = .posted := by
      decide +kernel
    exact hall ⟨id, r⟩ (AList.mem_lookup_iff.1 hr)

end Trial

open Trial in
/-- A retry of an internal service. -/
theorem replays_silent_retry : (after [topup "internal-service" 7]).posted.length = 1 ∧
    Along (State.step config Ledger.Sample.env) (Silent config Ledger.Sample.env) (.init Ledger.Sample.zeroed 0)
      [topup "internal-service" 7, topup "internal-service" 8] :=
  ⟨by decide +kernel, (replays_silent config _ _ 0 rfl _ retried_careful).1⟩

open Trial in
/-- **A retry under the policy.** The second execution posts nothing and is counted, and with a limit of two
a day the third is refused. -/
theorem replay_counted :
    (after [topup "public" 7, topup "public" 8]).db.entries.length =
    (after [topup "public" 7]).db.entries.length ∧
    (after [topup "public" 7]).counters countKey = 1 ∧
    (after [topup "public" 7, topup "public" 8]).counters countKey = 2 ∧
    (execute config Ledger.Sample.env (after [topup "public" 7, topup "public" 8]) 9
      (Ledger.Sample.command "k" .moneyIn 500 0) ⟨"public", "IDR", none⟩ draw).2 =
      some (.policyLimitExceeded "max_daily_count" "would exceed daily count limit 2 (used 2 so far today)") := by
  decide +kernel

end Executor

end Seev.Ledger
