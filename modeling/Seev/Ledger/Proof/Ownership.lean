import Seev.Ledger.Proof.Conservation
import Seev.Ledger.Proof.Legs

/-!
# Whose money a closer moves

The six closers of withdrawals and escrow holds find their accounts from the user and
the metadata of their own command; of the original they check type, status and amount.

* `MovesOwn`: the closer takes the money from where the original put it and, when it
  undoes the original, puts it back where it came from.
* `moves_own_iff`: a posted closer does so exactly when it names the original's user and
  currency, and a cancelled withdrawal did not come from a pocket.
* `cancel_takes_other_hold`: a cancellation by another user.
-/

namespace Seev.Ledger

open Lib

variable {E : Env} {db : Db} {txID : UUID} {rc o : ResolvedCommand} {a b x : UUID} {es : List EntryInstruction}
  {t : TxType} {b' c dst dst' r src src' : UUID}

/-- Transaction `txID` has an entry of direction `d` on account `a`. -/
def Db.moves (db : Db) (d : Direction) (txID a : UUID) : Prop :=
  ∃ e ∈ db.entries, e.transactionID = txID ∧ e.direction = d ∧ e.accountID = a

/-- The closers of withdrawals and escrow holds. -/
def heldCloser : TxType → Bool
  | .withdrawSettle | .withdrawCancel | .withdrawPendingSettle | .withdrawPendingCancel
  | .escrowRelease | .escrowRefund => true
  | _ => false

/-- The closers that undo their original. -/
def undoes : TxType → Bool
  | .withdrawCancel | .escrowRefund => true
  | _ => false

/-- Transaction `c` of type `t` moves the money of `r`: it debits an account, only such
that `r` credited, and when it undoes `r` it credits only what `r` debited. -/
structure MovesOwn (db : Db) (c r : UUID) (t : TxType) : Prop where
  debited : ∃ a, db.moves .debit c a
  debit : ∀ a, db.moves .debit c a → db.moves .credit r a
  credit : undoes t = true → ∀ a, db.moves .credit c a → db.moves .debit r a

/-- The closer `rc` names the user and the currency of the original `o`. -/
def SameMoney (rc o : ResolvedCommand) : Prop :=
  rc.currency = o.currency ∧
    match rc.type with
    | .withdrawSettle | .withdrawPendingSettle | .withdrawPendingCancel => rc.userID = o.userID
    | .withdrawCancel => rc.userID = o.userID ∧ o.pocketCode = ""
    | .escrowRefund => rc.targetUserID = o.userID
    | _ => True

/-! ## The sides of a movement -/

theorem moves_iff {d : Direction}
    (hrows : List.Forall₂ (RowFor txID) es (db.entries.filter (·.transactionID = txID))) :
    db.moves d txID x ↔ ∃ e ∈ es, e.direction = d ∧ e.accountID = x := by
  constructor
  · rintro ⟨r, hr, htx, hd, hx⟩
    obtain ⟨e, he, hrow⟩ := forall₂_mem_right hrows (List.mem_filter.2 ⟨hr, decide_eq_true htx⟩)
    exact ⟨e, he, hrow.direction.symm.trans hd, hrow.account.symm.trans hx⟩
  · rintro ⟨e, he, hd, hx⟩
    obtain ⟨r, hr, hrow⟩ := forall₂_mem_right hrows.flip he
    exact ⟨r, (List.mem_filter.1 hr).1, hrow.tx, hrow.direction.trans hd, hrow.account.trans hx⟩

variable (hm : Movement E rc a b es)
  (hrows : List.Forall₂ (RowFor txID) es (db.entries.filter (·.transactionID = txID)))

include hm hrows

theorem Movement.debit_iff : db.moves .debit txID x ↔ x = a := by
  rw [moves_iff hrows]
  cases hm <;> simp [eq_comm]

theorem Movement.credit_of : db.moves .credit txID b := by
  rw [moves_iff hrows]
  cases hm <;> simp

/-- A credit is on the destination, unless it is a fee. -/
theorem Movement.credit_cases (h : db.moves .credit txID x) : x = b ∨ SystemAccount E .fee x := by
  rw [moves_iff hrows] at h
  cases hm with
  | plain dn cn _ =>
    simp only [List.mem_cons, List.not_mem_nil, or_false, exists_eq_or_imp, reduceCtorEq, false_and,
      true_and, false_or, exists_eq_left] at h
    exact .inl h.symm
  | fee dn cn fn feeID fee _ _ hfee =>
    simp only [List.mem_cons, List.not_mem_nil, or_false, exists_eq_or_imp, reduceCtorEq, false_and,
      true_and, false_or, exists_eq_left] at h
    rcases h with h | h
    · exact .inl h.symm
    · exact .inr (h ▸ hfee)

theorem Movement.credit_iff (hplain : takesFee rc.type = false) : db.moves .credit txID x ↔ x = b := by
  rw [moves_iff hrows]
  cases hm with
  | plain dn cn _ => simp [eq_comm]
  | fee dn cn fn feeID fee htakes _ _ =>
    rw [hplain] at htakes
    cases htakes

omit hm hrows

/-! ## The closer and its original -/

/-- A posted movement, with its accounts. -/
structure Moved (E : Env) (db : Db) (txID : UUID) (rc : ResolvedCommand) (src dst b : UUID) : Prop where
  legs : TwoLegs E rc src dst
  sides : Sides E rc src dst
  movement : ∃ es, Movement E rc src b es ∧
    List.Forall₂ (RowFor txID) es (db.entries.filter (·.transactionID = txID))
  credited : src ≠ dst → b = dst
  source : (E.accounts.byID src).map AccountRow.currency = some rc.currency
  destination : (E.accounts.byID b).map AccountRow.currency = some rc.currency

theorem moved_of_recorded {cmd : Command} (h : Recorded E db txID rc) (ho : Origin E cmd rc)
    (ht : heldType rc.type = true) : ∃ src dst b, Moved E db txID rc src dst b := by
  obtain ⟨src, dst, b, es, hlegs, hsides, hmove, hb, hrows⟩ := recorded_moves h ho ht
  obtain ⟨e, he, htx, -, hsrc⟩ := (hmove.debit_iff hrows).2 rfl
  obtain ⟨e', he', htx', -, hdst⟩ := hmove.credit_of hrows
  exact ⟨src, dst, b, hlegs, hsides, ⟨es, hmove, hrows⟩, hb, hsrc ▸ h.currency e he htx,
    hdst ▸ h.currency e' he' htx'⟩

theorem takesFee_of_undoes (h : undoes t = true) : takesFee t = false := by
  cases t <;> first | rfl | cases h

/-- Only the accounts of the two legs matter. -/
theorem movesOwn_iff {b : UUID} {t : AccountType} (hc : Moved E db c rc src dst b)
    (hr : Moved E db r o src' dst' b') (ht : (E.accounts.byID src).map AccountRow.type = some t)
    (hfee : t ≠ .fee) :
    MovesOwn db c r rc.type ↔ src = b' ∧ (undoes rc.type = true → b = src') := by
  obtain ⟨es, hmove, hrows⟩ := hc.movement
  obtain ⟨es', hmove', hrows'⟩ := hr.movement
  constructor
  · intro h
    refine ⟨?_, fun hu => ?_⟩
    · have hcredit := h.debit src ((hmove.debit_iff hrows).2 rfl)
      exact (hmove'.credit_cases hrows' hcredit).resolve_right fun hsys => ne_of_type ht hsys.type hfee rfl
    · exact (hmove'.debit_iff hrows').1 (h.credit hu b (hmove.credit_of hrows))
  · rintro ⟨hsrc, hdst⟩
    refine ⟨⟨src, (hmove.debit_iff hrows).2 rfl⟩, fun a ha => ?_, fun hu a ha => ?_⟩
    · rw [(hmove.debit_iff hrows).1 ha, hsrc]
      exact hmove'.credit_of hrows'
    · rw [(hmove.credit_iff hrows (takesFee_of_undoes hu)).1 ha, hdst hu]
      exact (hmove'.debit_iff hrows').2 rfl

/-- What is withdrawn or held in escrow goes to another account. -/
theorem original_ne (ht : heldCloser t = true) (ho : requiredOriginal t = some o.type)
    (hs : Sides E o src dst) : src ≠ dst := by
  cases t <;> cases ht <;> simp only [requiredOriginal, Option.some.injEq] at ho <;> simp only [Sides, ← ho] at hs
  case withdrawSettle | withdrawCancel =>
    split at hs
    · exact ne_of_type hs.1.type hs.2.type (by decide)
    · exact ne_of_type hs.1.type hs.2.type (by decide)
  all_goals exact ne_of_type hs.1.type hs.2.type (by decide)

theorem closer_source (ht : heldCloser rc.type = true) (hs : Sides E rc src dst) :
    ∃ t ≠ AccountType.fee, (E.accounts.byID src).map AccountRow.type = some t := by
  cases htype : rc.type <;> rw [htype] at ht <;> cases ht <;> simp only [Sides, htype] at hs
  case escrowRelease => exact ⟨_, by decide, hs.type⟩
  all_goals exact ⟨_, by decide, hs.1.type⟩

/-- **The accounts agree exactly when the commands do.** -/
theorem sameMoney_iff {b : UUID} (hc : Moved E db c rc src dst b)
    (hr : Moved E db r o src' dst' b') (ht : heldCloser rc.type = true)
    (ho : requiredOriginal rc.type = some o.type) : MovesOwn db c r rc.type ↔ SameMoney rc o := by
  have hs := hc.sides
  have hs' := hr.sides
  have hsrc := hc.source
  have hdst := hc.destination
  have hsrc' := hr.source
  have hdst' := hr.destination
  have hcredited := hr.credited (original_ne ht ho hs')
  obtain ⟨t, hfee, hsource⟩ := closer_source ht hs
  rw [movesOwn_iff hc hr hsource hfee, hcredited]
  rw [hcredited] at hdst'
  unfold SameMoney
  cases htype : rc.type <;> rw [htype] at ht ho <;> cases ht <;>
    simp only [requiredOriginal, Option.some.injEq] at ho <;>
    simp only [Sides, htype, ← ho] at hs hs'
  case withdrawSettle | withdrawPendingSettle | withdrawPendingCancel =>
    rw [hs.1.eq_iff hs'.2 hsrc hdst']
    simp [undoes, and_comm]
  case withdrawCancel =>
    have hne : src ≠ dst := ne_of_type hs.1.type hs.2.type (by decide)
    rw [hc.credited hne] at hdst
    rw [hc.credited hne, hs.1.eq_iff hs'.2 hsrc hdst']
    -- what was withdrawn from a pocket goes back to cash
    by_cases hpocket : o.pocketCode = ""
    · rw [if_pos hpocket] at hs'
      rw [hs.2.eq_iff hs'.1 hdst hsrc']
      simp only [undoes, hpocket, forall_const]
      tauto
    · rw [if_neg hpocket] at hs'
      have hcash : dst ≠ src' := ne_of_type hs.2.type hs'.1.type (by decide)
      simp [undoes, hpocket, hcash]
  case escrowRelease =>
    rw [hs.eq_iff hs'.2 hsrc hdst']
    simp [undoes]
  case escrowRefund =>
    have hne : src ≠ dst := ne_of_type hs.1.type hs.2.type (by decide)
    rw [hc.credited hne] at hdst
    rw [hc.credited hne, hs.1.eq_iff hs'.2 hsrc hdst', hs.2.eq_iff hs'.1 hdst hsrc']
    simp only [undoes, forall_const]
    tauto

theorem heldType_of_closer {t' : TxType} (h : heldCloser t = true) (ho : requiredOriginal t = some t') :
    heldType t = true ∧ heldType t' = true := by
  cases t <;> cases h <;> cases ho <;> exact ⟨rfl, rfl⟩

theorem requiredOriginal_of_closer (h : heldCloser t = true) :
    ∃ t', requiredOriginal t = some t' := by
  cases t <;> cases h <;> exact ⟨_, rfl⟩

/-- **Whose money a closer moves.** In every state reached from a ledger without
transactions, a posted closer of a withdrawal or an escrow hold has a posted original,
and moves the original's own money exactly when it names the original's user (as
`TargetUserID` for an escrow refund) and resolves to its currency, and for a cancelled
withdrawal the money came from cash. -/
theorem moves_own_iff (E : Env) (db : Db) (now : ℕ) (hdb : DbOK E db) (hempty : db.txs = ∅)
    (evs : List Event) (c : UUID) (rc : ResolvedCommand)
    (hc : (c, rc) ∈ (run (World.step E) (.idle db now) evs).posted) (ht : heldCloser rc.type = true) :
    ∃ o, (rc.referenceID, o) ∈ (run (World.step E) (.idle db now) evs).posted ∧
      requiredOriginal rc.type = some o.type ∧
      (MovesOwn (run (World.step E) (.idle db now) evs).db c rc.referenceID rc.type ↔ SameMoney rc o) := by
  have hhist : HistoryOK E (fun _ => True) (run (World.step E) (.idle db now) evs) :=
    (run_history hdb hempty now fun ev _ => by cases ev <;> trivial).2
  obtain ⟨t, hreq⟩ := requiredOriginal_of_closer ht
  obtain ⟨o, ho, rfl, -⟩ := hhist.linked _ hc t hreq
  obtain ⟨hheld, hheld'⟩ := heldType_of_closer ht hreq
  obtain ⟨cmd, -, horigin⟩ := hhist.origins _ hc
  obtain ⟨cmd', -, horigin'⟩ := hhist.origins _ ho
  obtain ⟨src, dst, b, hmoved⟩ := moved_of_recorded (hhist.recorded _ hc) horigin hheld
  obtain ⟨src', dst', b', hmoved'⟩ := moved_of_recorded (hhist.recorded _ ho) horigin' hheld'
  exact ⟨o, ho, hreq, sameMoney_iff hmoved hmoved' ht hreq⟩

/-! ## Another user's hold -/

instance (db : Db) (d : Direction) (txID a : UUID) : Decidable (db.moves d txID a) :=
  inferInstanceAs (Decidable (∃ e ∈ db.entries, _))

namespace Sample

/-- The same command from user 2. -/
def asUser2 (cmd : Command) : Command := { cmd with userID := 2 }

/-- Both users have 100 and withdraw 30 of it: transactions 103 and 104. -/
def withdrawals : List Event :=
  call 1 101 (command "k1" .moneyIn 100 UUID.nil) ++ call 2 102 (asUser2 (command "k2" .moneyIn 100 UUID.nil)) ++
    call 3 103 (command "k3" .withdrawInitiate 30 UUID.nil) ++
    call 4 104 (asUser2 (command "k4" .withdrawInitiate 30 UUID.nil))

/-- The withdrawal of user 1 is cancelled by user 1. -/
def ownCancel : List Event := withdrawals ++ call 5 105 (command "k5" .withdrawCancel 30 103)

/-- The withdrawal of user 1 is cancelled by user 2. -/
def otherCancel : List Event := withdrawals ++ call 5 105 (asUser2 (command "k5" .withdrawCancel 30 103))

end Sample

set_option maxRecDepth 20000 in
theorem moves_own_iff_cancel : ∃ rc o,
    (105, rc) ∈ (run (World.step Sample.env) (.idle Sample.zeroed 0) Sample.ownCancel).posted ∧
    heldCloser rc.type = true ∧
    (rc.referenceID, o) ∈ (run (World.step Sample.env) (.idle Sample.zeroed 0) Sample.ownCancel).posted ∧
    (MovesOwn (run (World.step Sample.env) (.idle Sample.zeroed 0) Sample.ownCancel).db 105 rc.referenceID
      rc.type ↔
      SameMoney rc o) := by
  have hposted : ∃ p ∈ (run (World.step Sample.env) (.idle Sample.zeroed 0) Sample.ownCancel).posted,
      p.1 = 105 ∧ heldCloser p.2.type = true := by decide +kernel
  obtain ⟨⟨c, rc⟩, hmem, rfl, ht⟩ := hposted
  obtain ⟨o, ho, -, hiff⟩ := moves_own_iff Sample.env Sample.zeroed 0 (dbOK_empty rfl Sample.zeroed_zero) rfl
    Sample.ownCancel 105 rc hmem ht
  exact ⟨rc, o, hmem, ht, ho, hiff⟩

set_option maxRecDepth 20000 in
/-- **A cancellation takes another user's hold.** Transaction 105 closes the withdrawal of
user 1 and posts; it debits the hold account of user 2, which transaction 103 never
credited. -/
theorem cancel_takes_other_hold :
    105 ∈ (run (World.step Sample.env) (.idle Sample.zeroed 0) Sample.otherCancel).posted.map Prod.fst ∧
    ¬ MovesOwn (run (World.step Sample.env) (.idle Sample.zeroed 0) Sample.otherCancel).db 105 103
      .withdrawCancel := by
  refine ⟨by decide +kernel, fun h => ?_⟩
  have hdebit : (run (World.step Sample.env) (.idle Sample.zeroed 0) Sample.otherCancel).db.moves .debit 105
      22 := by
    decide +kernel
  have hcredit : ¬ (run (World.step Sample.env) (.idle Sample.zeroed 0) Sample.otherCancel).db.moves .credit 103
      22 := by
    decide +kernel
  exact hcredit (h.debit 22 hdebit)

end Seev.Ledger
