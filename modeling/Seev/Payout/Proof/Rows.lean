import Seev.Lib.Result
import Seev.Payout.World

/-!
# What a statement does to the rows

A statement leaves the requests as they are, rewrites some of them or appends one
(`RowsMove`); the vendor of a request changes in a failover only. It leaves the commands
as they are up to their status, or appends one (`CommandsMove`): the first command of a
request, a recovered one, or the next one of a failover.
-/

namespace Seev.Payout

open Lib
open Ledger (UUID Decimal Currency FeeQuote)

variable {E : Env} {now : ℕ} {d : Draw} {t t' : Tables} {job : Job} {p : Phase} {n : Next} {db db' : Db}
  {rs : List PayoutRequest} {cmdID id : UUID} {r r' req : PayoutRequest} {q : VendorCommand → Bool}
  {f : VendorCommand → VendorCommand}

/-! ## Updates -/

theorem setRequests_eq_ok :
    db.setRequests rs = .ok db' ↔ ∃ h, db' = { db with requests := ⟨rs, h⟩ } := by
  unfold Db.setRequests
  split
  · rename_i h
    simp [h, eq_comm]
  · rename_i h
    simp [h]

theorem setCommands_eq_ok {cs : List VendorCommand} :
    db.setCommands cs = .ok db' ↔ ∃ h, db' = { db with commands := ⟨cs, h⟩ } := by
  unfold Db.setCommands
  split
  · rename_i h
    simp [h, eq_comm]
  · rename_i h
    simp [h]

theorem checkReference_eq_ok : db.checkReference id = .ok () ↔ ∃ r ∈ db.requests.1, r.id = id := by
  unfold Db.checkReference
  split
  · rename_i h
    simpa using h
  · rename_i h
    simpa using h

/-- How the statement of phase `p` rewrites a request. -/
inductive Rewrites (now : ℕ) (p : Phase) (r : PayoutRequest) : PayoutRequest → Prop
  | error {msg : String} : Rewrites now p r { r with errorMessage := msg, updatedAt := now }
  | quoted {req : PayoutRequest} {quoteID : UUID} {fee : Decimal} {feeGateway : String}
    (phase : p = .setQuotedFee req quoteID fee feeGateway) (id : r.id = req.id) :
    Rewrites now p r
      { r with
        feeQuoteID := some quoteID, feeAmount := some (fee.intPart : ℚ), feeGateway := feeGateway
        updatedAt := now }
  | rejected {id : UUID} {reason err msg : String} (phase : p = .reject id reason err) (hid : r.id = id)
    (was : r.status = .created) :
    Rewrites now p r { r with status := .rejected, errorMessage := msg, updatedAt := now }
  | held {req : PayoutRequest} {tx : UUID} (phase : p = .toHeld req tx) (id : r.id = req.id)
    (was : r.status = .created) :
    Rewrites now p r { r with status := .held, holdTxID := some tx, updatedAt := now }
  | submitted {id : UUID} {vendor : String} (phase : p = .enqueue id vendor) (hid : r.id = id)
    (was : r.status = .held ∨ r.status = .vendorPending) :
    Rewrites now p r { r with status := .submitted, updatedAt := now }
  | moved {cmd : VendorCommand} {req : PayoutRequest} {nextVendor : String}
    (phase : p = .failover cmd req nextVendor) (id : r.id = req.id) (current : r.vendor = cmd.vendor) :
    Rewrites now p r { r with vendor := nextVendor, updatedAt := now }
  | pending {cmd : VendorCommand} {req : PayoutRequest} {vendorRef : String}
    (phase : p = .toVendorPending cmd req vendorRef) (id : r.id = req.id) (was : r.status = .submitted) :
    Rewrites now p r { r with status := .vendorPending, vendorRef := some vendorRef, updatedAt := now }
  | settled {c : Caller} {id tx : UUID} (phase : p = .toClosed .settle c id tx) (hid : r.id = id)
    (was : r.status = .submitted ∨ r.status = .vendorPending) :
    Rewrites now p r { r with status := .settled, settleTxID := some tx, updatedAt := now }
  | cancelled {reason : String} {c : Caller} {id tx : UUID} (phase : p = .toClosed (.cancel reason) c id tx)
    (hid : r.id = id) (was : r.status = .submitted ∨ r.status = .vendorPending) :
    Rewrites now p r { r with status := .cancelled, settleTxID := some tx, updatedAt := now }

theorem Rewrites.id_eq (h : Rewrites now p r r') : r'.id = r.id := by
  cases h <;> rfl

/-- A statement changes the vendor of a request only in a failover. -/
theorem Rewrites.vendor_eq (h : Rewrites now p r r') :
    r'.vendor = r.vendor ∨
      ∃ cmd req nextVendor, p = .failover cmd req nextVendor ∧ r.id = req.id ∧ r.vendor = cmd.vendor ∧
        r' = { r with vendor := nextVendor, updatedAt := now } := by
  cases h with
  | moved hp hid hv => exact .inr ⟨_, _, _, hp, hid, hv, rfl⟩
  | _ => exact .inl rfl

/-- The row phase `p` inserts. -/
inductive Inserts (now : ℕ) : Phase → PayoutRequest → Prop
  | user {req : PayoutRequest} {quoteID : String} :
    Inserts now (.insert req quoteID) { Db.newRow now req with downstreamKey := "" }
  | merchant {req : PayoutRequest} : Inserts now (.insertMerchant req) (Db.newRow now req)

/-- What a statement does to the requests. -/
inductive RowsMove (now : ℕ) (p : Phase) (rs rs' : List PayoutRequest) : Prop
  | rewrite {g : PayoutRequest → PayoutRequest} (h : rs' = rs.map g)
    (rewrites : ∀ r ∈ rs, g r = r ∨ Rewrites now p r (g r))
  | insert {r : PayoutRequest} (h : rs' = rs ++ [r]) (inserts : Inserts now p r)

theorem RowsMove.same : RowsMove now p rs rs :=
  .rewrite (g := fun r => r) (by simp) fun _ _ => .inl rfl

theorem updateRequests_move {q : PayoutRequest → Bool} {f : PayoutRequest → PayoutRequest}
    (h : db.updateRequests q f = .ok db')
    (hf : ∀ r ∈ db.requests.1, q r = true → Rewrites now p r (f r)) :
    RowsMove now p db.requests.1 db'.requests.1 ∧ db'.commands = db.commands := by
  obtain ⟨_, rfl⟩ := setRequests_eq_ok.1 h
  refine ⟨.rewrite rfl fun r hr => ?_, rfl⟩
  split
  · rename_i hq
    exact .inr (hf r hr hq)
  · exact .inl rfl

theorem transition_move {allowed : List Status} {f : PayoutRequest → PayoutRequest}
    (h : db.transition now id allowed f = .ok db')
    (hf : ∀ r ∈ db.requests.1, r.id = id → r.status ∈ allowed → Rewrites now p r { f r with updatedAt := now }) :
    RowsMove now p db.requests.1 db'.requests.1 ∧ db'.commands = db.commands :=
  updateRequests_move h fun r hr hq => hf r hr (of_decide_eq_true hq).1 (of_decide_eq_true hq).2

theorem setError_move {reason : String} (h : db.setError now id reason = .ok db') :
    RowsMove now p db.requests.1 db'.requests.1 ∧ db'.commands = db.commands := by
  unfold Db.setError at h
  split at h
  · cases h
  · exact updateRequests_move h fun _ _ _ => .error

theorem insertVendorCall_eq {call : VendorCall} (h : db.insertVendorCall call = .ok db') :
    db'.requests = db.requests ∧ db'.commands = db.commands := by
  obtain ⟨_, -, h⟩ := bind_eq_ok.1 h
  cases h
  exact ⟨rfl, rfl⟩

/-! ## Commands -/

/-- The columns of a command that no update changes. -/
def VendorCommand.core (c : VendorCommand) : UUID × UUID × String × ℕ :=
  (c.id, c.payoutRequestID, c.vendor, c.attempt)

/-- An update keeps these columns, and it makes no command live. -/
def VendorCommand.Keeps (c c' : VendorCommand) : Prop := c'.core = c.core ∧ (c'.live = true → c.live = true)

theorem VendorCommand.Keeps.refl (c : VendorCommand) : c.Keeps c := ⟨rfl, fun h => h⟩

/-- The request and the vendor of the command phase `p` inserts. -/
inductive Enqueues : Phase → UUID → String → Prop
  | initial {id : UUID} {vendor : String} : Enqueues (.enqueue id vendor) id vendor
  | recovered {req : PayoutRequest} : Enqueues (.ensure req) req.id req.vendor
  | failover {cmd : VendorCommand} {req : PayoutRequest} {nextVendor : String} :
    Enqueues (.failover cmd req nextVendor) req.id nextVendor

/-- What a statement does to the commands, on the requests `rs` after it: a new command
has its request, and the one of a failover has its request's vendor. -/
inductive CommandsMove (p : Phase) (rs : List PayoutRequest) (cs cs' : List VendorCommand) : Prop
  | update {g : VendorCommand → VendorCommand} (h : cs' = cs.map g) (keeps : ∀ c : VendorCommand, c.Keeps (g c))
  | insert {g : VendorCommand → VendorCommand} {c : VendorCommand} (h : cs' = cs.map g ++ [c])
    (keeps : ∀ c : VendorCommand, c.Keeps (g c)) (enqueues : Enqueues p c.payoutRequestID c.vendor)
    (request : ∃ r ∈ rs, r.id = c.payoutRequestID ∧
      ((∃ cmd req nextVendor, p = .failover cmd req nextVendor) → r.vendor = c.vendor))

theorem CommandsMove.same {cs : List VendorCommand} : CommandsMove p rs cs cs :=
  .update (g := fun c => c) (by simp) .refl

/-- An update of live commands that keeps their core. -/
theorem updateFound_eq (h : db.updateFound q f = .ok db') (hf : ∀ c, (f c).core = c.core)
    (hq : ∀ c, q c = true → c.live = true) :
    ∃ g : VendorCommand → VendorCommand,
      (∀ c : VendorCommand, c.Keeps (g c)) ∧ db'.commands.1 = db.commands.1.map g ∧
        db'.requests = db.requests := by
  unfold Db.updateFound at h
  split at h
  · obtain ⟨_, rfl⟩ := setCommands_eq_ok.1 h
    refine ⟨_, fun c => ?_, rfl, rfl⟩
    split
    · rename_i hc
      exact ⟨hf c, fun _ => hq c hc⟩
    · exact .refl c
  · cases h

/-- Only a command that is processed fails or is completed. -/
theorem processing_live {c : VendorCommand} (h : decide (c.id = id ∧ c.status = .processing) = true) :
    c.live = true := by
  rw [VendorCommand.live, (of_decide_eq_true h).2]
  rfl

theorem insertVendorCommand_eq {vendor : String} {attempt : ℕ}
    (h : db.insertVendorCommand now cmdID id vendor attempt = .ok db') :
    db'.commands.1 = db.commands.1 ++ [Db.newCommand now cmdID id vendor attempt] ∧
      db'.requests = db.requests ∧ ∃ r ∈ db.requests.1, r.id = id := by
  obtain ⟨_, href, h⟩ := bind_eq_ok.1 h
  obtain ⟨_, rfl⟩ := setCommands_eq_ok.1 h
  exact ⟨rfl, rfl, checkReference_eq_ok.1 href⟩

/-! ## Statements -/

theorem insert_move {quoteID : String} (h : db.insert now req = .ok db') :
    RowsMove now (.insert req quoteID) db.requests.1 db'.requests.1 ∧ db'.commands = db.commands := by
  obtain ⟨_, rfl⟩ := setRequests_eq_ok.1 h
  exact ⟨.insert rfl .user, rfl⟩

theorem insertMerchant_move {stored : PayoutRequest} (h : db.insertMerchant now req = .ok (db', stored)) :
    RowsMove now (.insertMerchant req) db.requests.1 db'.requests.1 ∧ db'.commands = db.commands := by
  unfold Db.insertMerchant at h
  split at h
  · cases h
  · split at h
    · cases h
      exact ⟨.same, rfl⟩
    · obtain ⟨_, hset, h⟩ := bind_eq_ok.1 h
      cases h
      obtain ⟨_, rfl⟩ := setRequests_eq_ok.1 hset
      exact ⟨.insert rfl .merchant, rfl⟩

/-- What a statement of phase `p` does to the tables `db`. -/
def Moves (now : ℕ) (p : Phase) (db db' : Db) : Prop :=
  RowsMove now p db.requests.1 db'.requests.1 ∧ CommandsMove p db'.requests.1 db.commands.1 db'.commands.1

theorem Moves.same : Moves now p db db := ⟨.same, .same⟩

theorem enqueueInitialSubmit_move {vendor : String} {won : Bool}
    (h : db.enqueueInitialSubmit now cmdID id vendor = .ok (db', won)) :
    Moves now (.enqueue id vendor) db db' := by
  unfold Db.enqueueInitialSubmit at h
  dsimp only at h
  split at h
  · cases h
    exact .same
  · obtain ⟨db1, hup, h⟩ := bind_eq_ok.1 h
    obtain ⟨db2, hins, h⟩ := bind_eq_ok.1 h
    cases h
    obtain ⟨hcmds, hreqs, r, hr, hid⟩ := insertVendorCommand_eq hins
    obtain ⟨hrows, hkept⟩ := updateRequests_move (p := .enqueue id vendor) hup fun r _ hq => by
      obtain ⟨hid, hst⟩ := of_decide_eq_true hq
      exact .submitted rfl hid (by simpa using hst)
    refine ⟨hreqs ▸ hrows, ?_⟩
    rw [hcmds, hkept, hreqs]
    exact .insert (g := fun c => c) (c := Db.newCommand now cmdID id vendor 1) (by simp) .refl .initial
      ⟨r, hr, hid, fun ⟨_, _, _, hp⟩ => by cases hp⟩

/-- The tables stay, or a live command was inserted for the vendor the request is with then. -/
def Reissues (id : UUID) (db db' : Db) : Prop :=
  db' = db ∨ ∃ c ∈ db'.commands.1, c.live = true ∧ c.payoutRequestID = id ∧
    ∃ r ∈ db'.requests.1, r.id = id ∧ r.vendor = c.vendor

theorem completeAndEnqueueFailover_move {cmd : VendorCommand} {nextVendor : String} {attempt : ℕ} {won : Bool}
    (h : db.completeAndEnqueueFailover now cmdID req.id cmd.id cmd.vendor nextVendor attempt = .ok (db', won)) :
    Moves now (.failover cmd req nextVendor) db db' ∧ Reissues req.id db db' := by
  unfold Db.completeAndEnqueueFailover at h
  dsimp only at h
  split at h
  · cases h
    exact ⟨.same, .inl rfl⟩
  · rename_i hcurrent
    obtain ⟨r, hr, hq⟩ : ∃ r ∈ db.requests.1, r.id = req.id ∧ r.vendor = cmd.vendor := by simpa using hcurrent
    obtain ⟨db1, hup, h⟩ := bind_eq_ok.1 h
    obtain ⟨db2, hdone, h⟩ := bind_eq_ok.1 h
    obtain ⟨db3, hins, h⟩ := bind_eq_ok.1 h
    cases h
    obtain ⟨hrows, hkept⟩ := updateRequests_move (p := .failover cmd req nextVendor) hup fun r _ hq =>
      .moved rfl (of_decide_eq_true hq).1 (of_decide_eq_true hq).2
    obtain ⟨g, hg, hmap, hreqs⟩ := updateFound_eq hdone (fun _ => rfl) fun _ => processing_live
    obtain ⟨hcmds, hreqs', -⟩ := insertVendorCommand_eq hins
    have hmem : { r with vendor := nextVendor, updatedAt := now } ∈ db1.requests.1 := by
      obtain ⟨_, rfl⟩ := setRequests_eq_ok.1 hup
      exact List.mem_map.2 ⟨r, hr, by simp [hq]⟩
    rw [Moves, Reissues, hcmds, hmap, hkept, hreqs', hreqs]
    exact ⟨⟨hrows, .insert rfl hg .failover ⟨_, hmem, hq.1, fun _ => rfl⟩⟩,
      .inr ⟨_, List.mem_append_right _ List.mem_cons_self, rfl, rfl, _, hmem, hq.1, rfl⟩⟩

theorem ensureSubmitCommand_move {inserted : Bool}
    (h : db.ensureSubmitCommand now cmdID req.id req.vendor = .ok (db', inserted)) :
    db'.requests = db.requests ∧ CommandsMove (.ensure req) db'.requests.1 db.commands.1 db'.commands.1 := by
  obtain ⟨_, href, h⟩ := bind_eq_ok.1 h
  obtain ⟨r, hr, hid⟩ := checkReference_eq_ok.1 href
  split at h
  · rename_i hset
    cases h
    obtain ⟨_, rfl⟩ := setCommands_eq_ok.1 hset
    refine ⟨rfl, .insert (g := fun c => c)
      (c := Db.newCommand now cmdID req.id req.vendor (db.nextAttempt req.id)) ?_ .refl .recovered
      ⟨r, hr, hid, fun ⟨_, _, _, hp⟩ => by cases hp⟩⟩
    rw [List.map_id']
  · cases h
    exact ⟨rfl, .same⟩

/-- A statement that leaves the commands. -/
theorem Moves.rows (h : RowsMove now p db.requests.1 db'.requests.1 ∧ db'.commands = db.commands) :
    Moves now p db db' := ⟨h.1, h.2 ▸ .same⟩

theorem update_moves {s : Session} {x : Except String Db} (h : ∀ db, x = .ok db → Moves now p t.db db) :
    Moves now p t.db (s.update t n x).1.db := by
  cases x with
  | error e => exact .same
  | ok db => exact h db rfl

theorem transitionToRejected_move {reason err : String} (h : db.transitionToRejected now id reason = .ok db') :
    Moves now (.reject id reason err) db db' := by
  unfold Db.transitionToRejected at h
  split at h
  · cases h
  · exact .rows (transition_move h fun r _ hid hst => .rejected rfl hid (by simpa using hst))

theorem insertVendorCall_move {call : VendorCall} (h : db.insertVendorCall call = .ok db') :
    Moves now p db db' := by
  obtain ⟨hr, hc⟩ := insertVendorCall_eq h
  exact ⟨hr ▸ .same, hc ▸ .same⟩

theorem updateFound_move (h : db.updateFound q f = .ok db') (hf : ∀ c, (f c).core = c.core)
    (hq : ∀ c, q c = true → c.live = true) : Moves now p db db' := by
  obtain ⟨g, hg, hmap, hr⟩ := updateFound_eq h hf hq
  exact ⟨hr ▸ .same, .update hmap hg⟩

/-- **What a statement does to the rows.** -/
theorem exec_moves (s : Session) : Moves now s.phase t.db (s.exec E now d t).1.db := by
  obtain ⟨job, p⟩ := s
  cases p with
  | insert => exact update_moves fun db h => .rows (insert_move h)
  | setQuotedFee =>
    exact update_moves fun db h => .rows (updateRequests_move h fun r _ hq => .quoted rfl (of_decide_eq_true hq))
  | reject => exact update_moves fun db h => transitionToRejected_move h
  | toHeld =>
    exact update_moves fun db h => .rows (transition_move h fun r _ hid hst => .held rfl hid (by simpa using hst))
  | toVendorPending =>
    exact update_moves fun db h =>
      .rows (transition_move h fun r _ hid hst => .pending rfl hid (by simpa using hst))
  | toClosed k c id tx =>
    cases k with
    | settle =>
      exact update_moves fun db h =>
        .rows (transition_move h fun r _ hid hst => .settled rfl hid (by simpa using hst))
    | cancel =>
      exact update_moves fun db h =>
        .rows (transition_move h fun r _ hid hst => .cancelled rfl hid (by simpa using hst))
  | recordCall | recordQuery => exact update_moves fun db h => insertVendorCall_move h
  | setSubmitError | setReason | closeFailed | reconcileError =>
    exact update_moves fun db h => .rows (setError_move h)
  | failCommand | completeCommand =>
    exact update_moves fun db h => updateFound_move h (fun _ => rfl) fun _ => processing_live
  | insertMerchant =>
    simp only [Session.exec]
    split
    · exact .same
    · rename_i h
      exact .rows (insertMerchant_move h)
  | enqueue =>
    simp only [Session.exec]
    split
    · exact .same
    · rename_i h
      exact enqueueInitialSubmit_move h
  | failover =>
    simp only [Session.exec]
    split
    · exact .same
    · rename_i h
      exact (completeAndEnqueueFailover_move h).1
  | ensure =>
    simp only [Session.exec]
    split
    · exact .same
    · rename_i h
      obtain ⟨hr, hc⟩ := ensureSubmitCommand_move h
      exact ⟨hr ▸ .same, hc⟩
  -- the rest only reads
  | dispatch =>
    simp only [Session.exec]
    split
    · exact .same
    · split
      · exact .same
      · split <;> exact .same
  | retryLoad | cancelLoad =>
    simp only [Session.exec]
    split
    · exact .same
    · split <;> exact .same
  | list => cases job <;> exact .same
  | listTried | routeFailover | submit | awaitSubmit | query | resolveFee | postHold | awaitHold | holdTx
  | closePost
  | closeAwait | closeTx => exact .same
  | _ =>
    simp only [Session.exec]
    split <;> exact .same

end Seev.Payout
