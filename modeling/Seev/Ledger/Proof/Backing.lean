import Mathlib.Tactic.Linarith
import Seev.Ledger.Proof.Ownership

/-!
# Backing of open withdrawals

All open withdrawals of a user share one hold account. Three kinds of commands take
from it without closing a withdrawal of the same size, or put less into it than the
header of the withdrawal says.

* `holdDelta`: what a command of a withdrawal's life adds to a hold account.
* `Harmless`: the commands that keep the account in step with the open headers.
* `withdrawals_backed`: in a run of such commands the hold account of every user covers
  the open withdrawals.
* `pending_leaves_unbacked`: `withdraw_pending` empties it under an open withdrawal.
-/

namespace Seev.Ledger

open Lib

variable {E : Env} {w : World} {db db' : Db} {s : Session} {txID : UUID} {rc o : ResolvedCommand} {a b src : UUID}
  {es : List EntryInstruction} {c dst r t : UUID}

/-- The commands of a withdrawal's life, and the top-up that pays for it. -/
def withdrawalType : TxType → Bool
  | .moneyIn | .withdrawInitiate | .withdrawPending | .withdrawSettle | .withdrawCancel
  | .withdrawPendingSettle | .withdrawPendingCancel | .reversal => true
  | _ => false

/-- The header of `txID` is there and not closed. -/
def Db.isOpen (db : Db) (txID : UUID) : Bool := (db.txs.lookup txID).any (·.closedByTxID.isNone)

/-- The open withdrawals of a user in a currency. -/
def World.openTotal (w : World) (userID : UUID) (c : Currency) : Decimal :=
  (w.posted.map fun p =>
    if p.2.type = .withdrawInitiate ∧ p.2.userID = userID ∧ p.2.currency = c ∧ w.db.isOpen p.1 then p.2.amount
    else 0).sum

/-- The hold account of every user covers the open withdrawals. -/
def Backed (E : Env) (w : World) : Prop :=
  ∀ u a r, UserAccount E u .hold a → E.accounts.byID a = some r →
    w.openTotal u r.currency ≤ (w.db.balances a).getD 0

/-- A command that, posted now, moves as much of a hold account as it opens or closes:
not `withdraw_pending`, no inline fee on a `withdraw_initiate`, and a settlement or
cancellation names the user and the currency of its original. -/
def Harmless (E : Env) (w : World) (rc : ResolvedCommand) : Prop :=
  rc.type ≠ .withdrawPending ∧ (rc.type = .withdrawInitiate → hasFee E rc = none) ∧
    (rc.type = .withdrawSettle ∨ rc.type = .withdrawCancel → ∀ p ∈ w.posted, p.1 = rc.referenceID →
      rc.userID = p.2.userID ∧ rc.currency = p.2.currency)

/-- Only harmless commands commit. -/
def HarmlessCommit (E : Env) (w : World) : Event → Prop
  | .advance sid => ∀ s, w.sessions sid = some s → s.phase = .commit → Harmless E w s.rc
  | _ => True

/-! ## What a command does to a hold account -/

/-- What a posted command that is not a reversal adds to the hold account `a`. -/
def holdDelta (rc : ResolvedCommand) (a : UUID) : Decimal :=
  match rc.type with
  | .withdrawInitiate => if rc.destination = a then rc.amount else 0
  | .withdrawPending | .withdrawSettle | .withdrawCancel => if rc.source = a then -rc.amount else 0
  | _ => 0

theorem Movement.net_source (hm : Movement E rc src b es)
    (ha : (E.accounts.byID a).map AccountRow.type = some .hold) (hb : b ≠ a) :
    net (es.map EntryInstruction.posting) a = if src = a then -rc.amount else 0 := by
  cases hm with
  | plain dn cn _ => simp [EntryInstruction.posting, Posting.signed, hb]
  | fee dn cn fn feeID fee _ _ hfee =>
    have hne : feeID ≠ a := ne_of_type hfee.type ha (by decide)
    simp [EntryInstruction.posting, Posting.signed, hb, hne]

theorem Movement.net_destination (hm : Movement E rc src b es) (hsrc : src ≠ a)
    (hfee : takesFee rc.type = true → hasFee E rc = none) :
    net (es.map EntryInstruction.posting) a = if b = a then rc.amount else 0 := by
  cases hm with
  | plain dn cn _ => simp [EntryInstruction.posting, Posting.signed, hsrc]
  | fee dn cn fn feeID fee htakes hhas _ =>
    rw [hfee htakes] at hhas
    cases hhas

/-- A top-up is between a settlement account, cash or a pocket, and a fee account. -/
theorem moneyIn_accounts {cmd : Command} (ho : Origin E cmd rc) (ht : rc.type = .moneyIn)
    (ha : (E.accounts.byID a).map AccountRow.type = some .hold) : a ∉ rc.accountIDs := by
  obtain ⟨db, rc₀, hprep, m, rfl, -⟩ := ho
  obtain ⟨p, m₀, acc, c, hreg, -, -, hacc, rfl⟩ := hprep.resolved
  have ht : cmd.type = .moneyIn := ht
  rw [ht] at hreg
  cases hreg
  simp only [moneyIn] at hacc
  obtain ⟨_, -, hacc⟩ := bind_eq_ok.1 hacc
  obtain ⟨dst, hdst, hacc⟩ := bind_eq_ok.1 hacc
  obtain ⟨_, -, hacc⟩ := bind_eq_ok.1 hacc
  obtain ⟨sys, hsys, hacc⟩ := bind_eq_ok.1 hacc
  obtain ⟨fees, rfl, hfees⟩ := withInlineFee_ok hacc
  have hsys : a ≠ sys := ne_of_type ha (systemAccount_ok (inContext_eq_ok.1 hsys)).type (by decide)
  have hdst : a ≠ dst := by
    have := cashOrPocket_ok hdst
    split at this
    · exact ne_of_type ha this.type (by decide)
    · exact ne_of_type ha this.type (by decide)
  intro hmem
  have hmem := (mem_deduplicate.1 hmem).1
  simp only [List.mem_cons] at hmem
  rcases hmem with hmem | hmem | hmem
  · exact hsys hmem
  · exact hdst hmem
  · exact ne_of_type ha (hfees a hmem).type (by decide) rfl

theorem withdrawalType_cases {t : TxType} (h : withdrawalType t = true) :
    t = .moneyIn ∨ t = .reversal ∨ heldType t = true := by
  cases t <;> cases h <;> decide

section Hold

variable {cmd : Command} (h : Recorded E db txID rc) (ho : Origin E cmd rc) (ht : withdrawalType rc.type = true)
  (hfee : rc.type = .withdrawInitiate → hasFee E rc = none)
    (ha : (E.accounts.byID a).map AccountRow.type = some .hold)

include h ho ht hfee ha

/-- A movement of one of the withdrawal types. -/
theorem net_hold_of_held (hheld : heldType rc.type = true) :
    ((net ((db.entries.filter (·.transactionID = txID)).map LedgerEntry.posting) a : ℤ) : ℚ) =
      holdDelta rc a := by
  obtain ⟨src, dst, b, es, hlegs, hsides, hmove, hb, hrows⟩ := recorded_moves h ho hheld
  rw [← net_of_rowFor hrows]
  cases htype : rc.type <;> rw [htype] at ht hheld <;> cases ht <;> cases hheld <;>
    simp only [Sides, htype] at hsides <;>
    simp only [holdDelta, htype, hlegs.source, hlegs.destination]
  case withdrawInitiate =>
    -- the source is cash or a pocket, and without a fee all of it arrives
    have hsrc : ∃ t, (E.accounts.byID src).map AccountRow.type = some t ∧ t ≠ .hold := by
      rcases ite_prop_iff_or.1 hsides.1 with ⟨-, h⟩ | ⟨-, h⟩
      · exact ⟨_, h.type, by decide⟩
      · exact ⟨_, h.type, by decide⟩
    obtain ⟨t, hsrc, hne⟩ := hsrc
    rw [hmove.net_destination (ne_of_type hsrc ha hne) fun _ => hfee htype,
      hb (ne_of_type hsrc hsides.2.type hne)]
  case withdrawPending | withdrawSettle | withdrawCancel =>
    have hne : src ≠ dst := ne_of_type hsides.1.type hsides.2.type (by decide)
    rw [hmove.net_source ha (hb hne ▸ ne_of_type hsides.2.type ha (by decide))]
  case withdrawPendingSettle | withdrawPendingCancel =>
    have hne : src ≠ dst := ne_of_type hsides.1.type hsides.2.type (by decide)
    rw [hmove.net_source ha (hb hne ▸ ne_of_type hsides.2.type ha (by decide)),
      if_neg (ne_of_type hsides.1.type ha (by decide))]

/-- **What a posted command adds to a hold account.** -/
theorem net_hold (hrev : rc.type ≠ .reversal) :
    ((net ((db.entries.filter (·.transactionID = txID)).map LedgerEntry.posting) a : ℤ) : ℚ) =
      holdDelta rc a := by
  rcases withdrawalType_cases ht with hm | hm | hm
  · obtain ⟨p, db₀, bal, es, hreg, hbuilt, hrows⟩ := h.entries
    have htouches := buildEntries_touches hreg hrev hbuilt
    rw [← net_of_rowFor hrows]
    simp only [holdDelta, hm]
    refine net_eq_zero fun q hq hqa => ?_
    obtain ⟨e, he, rfl⟩ := List.mem_map.1 hq
    have hea : e.accountID = a := hqa
    exact moneyIn_accounts ho hm ha (hea ▸ htouches e he)
  · exact absurd hm hrev
  · exact net_hold_of_held h ho ht hfee ha hm

end Hold

/-! ## The open headers -/

/-- What an open withdrawal needs on the hold account `a`. -/
def owed (db : Db) (a : UUID) (p : UUID × ResolvedCommand) : Decimal :=
  if p.2.type = .withdrawInitiate ∧ p.2.destination = a ∧ db.isOpen p.1 then p.2.amount else 0

/-- One command of a list without repetitions changes what it owes. -/
theorem sum_owed_of_closed {l : List (UUID × ResolvedCommand)} (hnodup : (l.map Prod.fst).Nodup)
    (ho : (r, o) ∈ l) (hother : ∀ t, t ≠ r → t ∈ l.map Prod.fst → db'.isOpen t = db.isOpen t)
    (hclosed : db'.isOpen r = false) :
    (l.map (owed db' a)).sum = (l.map (owed db a)).sum - owed db a (r, o) := by
  obtain ⟨l₁, l₂, rfl⟩ := List.append_of_mem ho
  have hne : ∀ p ∈ l₁ ++ l₂, p.1 ≠ r := by
    have hperm : ((l₁ ++ (r, o) :: l₂).map Prod.fst).Perm (((r, o) :: (l₁ ++ l₂)).map Prod.fst) :=
      List.perm_middle.map _
    have hnodup := hperm.nodup_iff.1 hnodup
    rw [List.map_cons, List.nodup_cons] at hnodup
    intro p hp heq
    have hmem : p.1 ∈ (l₁ ++ l₂).map Prod.fst := List.mem_map_of_mem hp
    rw [heq] at hmem
    exact hnodup.1 hmem
  have hsame : ∀ p ∈ l₁ ++ l₂, owed db' a p = owed db a p := fun p hp => by
    have hmem : p.1 ∈ (l₁ ++ (r, o) :: l₂).map Prod.fst := by
      refine List.mem_map_of_mem ?_
      simp only [List.mem_append, List.mem_cons] at hp ⊢
      tauto
    rw [owed, owed, hother p.1 (hne p hp) hmem]
  have hzero : owed db' a (r, o) = 0 := by simp [owed, hclosed]
  have h₁ : l₁.map (owed db' a) = l₁.map (owed db a) :=
    List.map_congr_left fun p hp => hsame p (List.mem_append_left _ hp)
  have h₂ : l₂.map (owed db' a) = l₂.map (owed db a) :=
    List.map_congr_left fun p hp => hsame p (List.mem_append_right _ hp)
  simp only [List.map_append, List.map_cons, List.sum_append, List.sum_cons, h₁, h₂, hzero]
  linarith

/-- A posting opens its own header. -/
theorem Posts.isOpen_self (h : Posts E db s db') : db'.isOpen s.txID = true := by
  obtain ⟨hd, hhd, -, hof⟩ := h.header
  simp [Db.isOpen, hhd, hof.isOpen]

theorem Posts.isOpen_other (h : Posts E db s db') (ht : t ≠ s.txID)
    (href : (lifecycleCloseReason s.rc.type).isSome → t ≠ s.rc.referenceID) : db'.isOpen t = db.isOpen t := by
  rw [Db.isOpen, Db.isOpen, h.others t ht href]

/-- An open withdrawal owes what it put on the account; nothing else put anything there. -/
theorem holdDelta_le_owed (hopen : db.isOpen t = true) (hpos : 0 ≤ o.amount) :
    holdDelta o a ≤ owed db a (t, o) := by
  unfold holdDelta owed
  cases htype : o.type <;> simp only [hopen, reduceCtorEq, false_and, if_false, true_and, and_true, le_refl]
  all_goals
    split
    · exact neg_nonpos.2 hpos
    · exact le_refl _

/-! ## Whose hold account -/

theorem Origin.type_eq {cmd : Command} (h : Origin E cmd rc) : rc.type = cmd.type := by
  obtain ⟨db, rc₀, hprep, m, rfl, -⟩ := h
  obtain ⟨p, m₀, acc, c, -, -, -, -, rfl⟩ := hprep.resolved
  rfl

theorem recorded_amount_pos {cmd : Command} (h : Recorded E db txID rc) (ho : Origin E cmd rc)
    (ht : heldType rc.type = true) : 0 ≤ rc.amount := by
  obtain ⟨src, dst, b, es, -, -, hmove, -, hrows⟩ := recorded_moves h ho ht
  have hdebit : ∃ dn, (⟨src, .debit, rc.amount, dn⟩ : EntryInstruction) ∈ es := by
    cases hmove with
    | plain dn _ _ => exact ⟨dn, List.mem_cons_self⟩
    | fee dn _ _ _ _ _ _ _ => exact ⟨dn, List.mem_cons_self⟩
  obtain ⟨dn, hmem⟩ := hdebit
  obtain ⟨r, -, hrow⟩ := forall₂_mem_right hrows.flip hmem
  have hamount : (r.amount : ℚ) = rc.amount := hrow.amount
  rw [← hamount]
  exact_mod_cast hrow.pos.le

/-- The hold account a withdrawal credits is the one of its user and currency. -/
theorem Moved.hold {src : UUID} (h : Moved E db c rc src dst b) (ht : rc.type = .withdrawInitiate) :
    rc.destination = dst ∧ UserAccount E rc.userID .hold dst ∧
      (E.accounts.byID dst).map AccountRow.currency = some rc.currency := by
  have hsides := h.sides
  simp only [Sides, ht] at hsides
  have hne : src ≠ dst := by
    rcases ite_prop_iff_or.1 hsides.1 with ⟨-, hsrc⟩ | ⟨-, hsrc⟩
    · exact ne_of_type hsrc.type hsides.2.type (by decide)
    · exact ne_of_type hsrc.type hsides.2.type (by decide)
  exact ⟨h.legs.destination, hsides.2, h.credited hne ▸ h.destination⟩

/-- A closer of the same user and currency debits the account the withdrawal credited. -/
theorem source_eq_destination {src src' dst' b' : UUID} (hc : Moved E db c rc src dst b)
    (hr : Moved E db' r o src' dst' b') (ht : rc.type = .withdrawSettle ∨ rc.type = .withdrawCancel)
    (ho : o.type = .withdrawInitiate) (hu : rc.userID = o.userID) (hcur : rc.currency = o.currency) :
    rc.source = o.destination := by
  have hhold : UserAccount E rc.userID .hold src := by
    have hsides := hc.sides
    rcases ht with ht | ht
    · simp only [Sides, ht] at hsides
      exact hsides.1
    · simp only [Sides, ht] at hsides
      exact hsides.1
  obtain ⟨hdst, hhold', hcur'⟩ := hr.hold ho
  rw [hc.legs.source, hdst]
  exact (hhold.eq_iff hhold' hc.source hcur').2 ⟨hu, hcur⟩

/-! ## The invariant -/

/-- The commands of the run. -/
def Withdrawing (cmd : Command) : Prop := withdrawalType cmd.type = true

/-- Every posted withdrawal is on its hold account in full, no money is pending, and the
account covers what is open. -/
structure Covered (E : Env) (w : World) : Prop where
  unfeed : ∀ p ∈ w.posted, p.2.type = .withdrawInitiate → hasFee E p.2 = none
  notPending : ∀ p ∈ w.posted, p.2.type ≠ .withdrawPending
  covers : ∀ a, (E.accounts.byID a).map AccountRow.type = some .hold →
    (w.posted.map (owed w.db a)).sum ≤ (w.db.balances a).getD 0

theorem HistoryOK.withdrawalType (h : HistoryOK E Withdrawing w) {p : UUID × ResolvedCommand}
    (hp : p ∈ w.posted) : withdrawalType p.2.type = true := by
  obtain ⟨cmd, hcmd, ho⟩ := h.origins p hp
  rw [ho.type_eq]
  exact hcmd

/-- What the posted commands owe does not change while their headers do not. -/
theorem sum_owed_congr {l : List (UUID × ResolvedCommand)}
    (h : ∀ p ∈ l, db'.isOpen p.1 = db.isOpen p.1) : (l.map (owed db' a)).sum = (l.map (owed db a)).sum := by
  congr 1
  refine List.map_congr_left fun p hp => ?_
  rw [owed, owed, h p hp]

theorem HistoryOK.ne_of_fresh (h : HistoryOK E Withdrawing w) (hfresh : t ∉ w.db.txs)
    {p : UUID × ResolvedCommand} (hp : p ∈ w.posted) : p.1 ≠ t := by
  obtain ⟨r, hr, -⟩ := (h.recorded p hp).header
  rintro rfl
  exact hfresh (AList.lookup_isSome.1 (by simp [hr]))

section Posting

variable (hw : WorldOK E w) (hh : HistoryOK E Withdrawing w) (hc : Covered E w)
  (hposts : Posts E w.db s db') (hharmless : Harmless E w s.rc) {cmd : Command} (hcmd : Withdrawing cmd)
  (horigin : Origin E cmd s.rc) (ha : (E.accounts.byID a).map AccountRow.type = some .hold)

include hw hh hposts hharmless hcmd horigin ha

omit hh in
/-- The new rows on the hold account, for anything but a reversal. -/
theorem Posts.net_hold (hrev : s.rc.type ≠ .reversal) :
    ((net (s.writes.entries.map LedgerEntry.posting) a : ℤ) : ℚ) = holdDelta s.rc a := by
  have hrec := hposts.recorded hw.db
  rw [← hposts.filter_entries_self hw.db]
  exact Ledger.net_hold hrec horigin (horigin.type_eq ▸ hcmd) hharmless.2.1 ha hrev

/-- A command that closes nothing owes what it adds. -/
theorem Posts.covers_open (hnone : lifecycleCloseReason s.rc.type = none) :
    (w.posted.map (owed db' a)).sum + owed db' a (s.txID, s.rc) =
      (w.posted.map (owed w.db a)).sum + (net (s.writes.entries.map LedgerEntry.posting) a : ℤ) := by
  have hrev : s.rc.type ≠ .reversal := fun ht => by simp [ht, lifecycleCloseReason] at hnone
  have hsum : (w.posted.map (owed db' a)).sum = (w.posted.map (owed w.db a)).sum := by
    refine sum_owed_congr fun p hp => hposts.isOpen_other (hh.ne_of_fresh hposts.fresh hp) ?_
    simp [hnone]
  have htype : withdrawalType s.rc.type = true := horigin.type_eq ▸ hcmd
  -- a top-up, or a withdrawal that is open now
  have howed : owed db' a (s.txID, s.rc) = holdDelta s.rc a := by
    unfold owed holdDelta
    cases ht : s.rc.type <;> rw [ht] at htype hnone <;> cases htype <;> cases hnone
    case withdrawPending => exact absurd ht hharmless.1
    all_goals simp [hposts.isOpen_self]
  rw [hsum, hposts.net_hold hw hharmless hcmd horigin ha hrev, howed]

/-- A settlement or cancellation takes what its original owed. -/
theorem Posts.net_close (ht : s.rc.type = .withdrawSettle ∨ s.rc.type = .withdrawCancel)
    (ho : (s.rc.referenceID, o) ∈ w.posted) (hopen : w.db.isOpen s.rc.referenceID = true)
    (htype : o.type = .withdrawInitiate) (hamount : o.amount = s.rc.amount) :
    -((net (s.writes.entries.map LedgerEntry.posting) a : ℤ) : ℚ) = owed w.db a (s.rc.referenceID, o) := by
  have hheld : heldType s.rc.type = true := by rcases ht with ht | ht <;> rw [ht] <;> rfl
  obtain ⟨cmd', -, horigin'⟩ := hh.origins _ ho
  obtain ⟨src, dst, b, hmoved⟩ := moved_of_recorded (hposts.recorded hw.db) horigin hheld
  obtain ⟨src', dst', b', hmoved'⟩ :=
    moved_of_recorded (hh.recorded _ ho) horigin' (by rw [htype]; rfl)
  obtain ⟨huser, hcur⟩ := hharmless.2.2 ht _ ho rfl
  have hsource := source_eq_destination hmoved hmoved' ht htype huser hcur
  have hrev : s.rc.type ≠ .reversal := by rcases ht with ht | ht <;> rw [ht] <;> decide
  rw [hposts.net_hold hw hharmless hcmd horigin ha hrev]
  rcases ht with ht | ht
  all_goals
    simp only [holdDelta, owed, ht, htype, hopen, hsource, hamount, true_and, and_true]
    split
    · exact neg_neg _
    · exact neg_zero

/-- A closer takes no more than its original owed. -/
theorem Posts.covers_close (hsome : (lifecycleCloseReason s.rc.type).isSome) (hc : Covered E w) :
    (w.posted.map (owed db' a)).sum + owed db' a (s.txID, s.rc) ≤
      (w.posted.map (owed w.db a)).sum + (net (s.writes.entries.map LedgerEntry.posting) a : ℤ) := by
  obtain ⟨reason, hreason⟩ := Option.isSome_iff_exists.1 hsome
  obtain ⟨-, r, hr, hopen, hafter⟩ := hposts.closes reason hreason
  obtain ⟨r', hr', hstatus, hnotrev, -⟩ := hposts.checked.original (.inl hsome)
  rw [hr, Option.some.injEq] at hr'
  subst hr'
  have hopen : w.db.isOpen s.rc.referenceID = true := by simp [Db.isOpen, hr, hopen]
  have hown : owed db' a (s.txID, s.rc) = 0 := by
    have hne : s.rc.type ≠ .withdrawInitiate := fun ht => by simp [ht, lifecycleCloseReason] at hreason
    simp [owed, hne]
  -- whichever posted command the original is, closing it takes away what it owes
  suffices ∃ o, (s.rc.referenceID, o) ∈ w.posted ∧
      -((net (s.writes.entries.map LedgerEntry.posting) a : ℤ) : ℚ) ≤ owed w.db a (s.rc.referenceID, o) by
    obtain ⟨o, ho, hle⟩ := this
    have hsum : (w.posted.map (owed db' a)).sum =
        (w.posted.map (owed w.db a)).sum - owed w.db a (s.rc.referenceID, o) := by
      refine sum_owed_of_closed hh.nodup ho (fun t ht hmem => ?_) (by simp [Db.isOpen, hafter, TxRow.close])
      obtain ⟨p, hp, rfl⟩ := List.mem_map.1 hmem
      exact hposts.isOpen_other (hh.ne_of_fresh hposts.fresh hp) fun _ => ht
    rw [hsum, hown]
    linarith
  have htype : withdrawalType s.rc.type = true := horigin.type_eq ▸ hcmd
  cases ht : s.rc.type <;> rw [ht] at htype hsome <;> cases htype <;> cases hsome
  case withdrawSettle =>
    obtain ⟨o, ho, hot, hamount⟩ := hh.original hposts (t := .withdrawInitiate) (by rw [ht]; rfl)
    exact ⟨o, ho, (hposts.net_close hw hh hharmless hcmd horigin ha (.inl ht) ho hopen hot hamount).le⟩
  case withdrawCancel =>
    obtain ⟨o, ho, hot, hamount⟩ := hh.original hposts (t := .withdrawInitiate) (by rw [ht]; rfl)
    exact ⟨o, ho, (hposts.net_close hw hh hharmless hcmd horigin ha (.inr ht) ho hopen hot hamount).le⟩
  case withdrawPendingSettle | withdrawPendingCancel =>
    obtain ⟨o, ho, hot, -⟩ := hh.original hposts (t := .withdrawPending) (by rw [ht]; rfl)
    exact absurd hot (hc.notPending _ ho)
  case reversal =>
    obtain ⟨o, ho, hot, -⟩ := hh.posted_of_header hr hstatus.symm
    have hnotrev : o.type ≠ .reversal := hot ▸ hnotrev ht
    have hotype := hh.withdrawalType ho
    obtain ⟨cmd', -, horigin'⟩ := hh.origins _ ho
    have hrec := hh.recorded _ ho
    have hnet := Ledger.net_hold hrec horigin' hotype (hc.unfeed _ ho) ha hnotrev
    refine ⟨o, ho, ?_⟩
    rw [hposts.net_reversal ht, Int.cast_neg, neg_neg, hnet]
    rcases withdrawalType_cases hotype with hm | hm | hm
    · have hm : o.type = .moneyIn := hm
      simp [holdDelta, owed, hm]
    · exact absurd hm hnotrev
    · exact holdDelta_le_owed hopen (recorded_amount_pos hrec horigin' hm)

end Posting

/-- **One step of a run of harmless commands.** -/
theorem Covered.step {ev : Event} (hw : WorldOK E w) (hh : HistoryOK E Withdrawing w) (hc : Covered E w)
    (hev : HarmlessCommit E w ev) : Covered E (w.step E ev) := by
  cases step_effect hw ev with
  | quiet hdb hposted =>
    refine ⟨?_, ?_, ?_⟩ <;> rw [hposted]
    · exact hc.unfeed
    · exact hc.notPending
    · rw [hdb]
      exact hc.covers
  | posts sid s hs hp hposts hposted _ hevent =>
    have hharmless : Harmless E w s.rc := by
      rw [hevent] at hev
      exact hev s hs hp
    obtain ⟨cmd, hcmd, horigin⟩ := hh.sessions sid s hs
    refine ⟨fun p hp ht => ?_, fun p hp ht => ?_, fun a ha => ?_⟩
    · rw [hposted, List.mem_append, List.mem_singleton] at hp
      rcases hp with hp | rfl
      · exact hc.unfeed p hp ht
      · exact hharmless.2.1 ht
    · rw [hposted, List.mem_append, List.mem_singleton] at hp
      rcases hp with hp | rfl
      · exact hc.notPending p hp ht
      · exact hharmless.1 ht
    · have hle : (w.posted.map (owed (w.step E ev).db a)).sum + owed (w.step E ev).db a (s.txID, s.rc) ≤
          (w.posted.map (owed w.db a)).sum + (net (s.writes.entries.map LedgerEntry.posting) a : ℤ) := by
        cases hcl : lifecycleCloseReason s.rc.type with
        | none => exact (hposts.covers_open hw hh hharmless hcmd horigin ha hcl).le
        | some reason => exact hposts.covers_close hw hh hharmless hcmd horigin ha (by simp [hcl]) hc
      rw [hposted, List.map_append, List.sum_append, List.map_singleton, List.sum_singleton, hposts.balance a]
      have hcovers := hc.covers a ha
      push_cast
      linarith
  | rejects sid s _ _ hrejects hposted _ =>
    obtain ⟨hd, htxs, -, -⟩ := hrejects.header
    refine ⟨?_, ?_, ?_⟩ <;> rw [hposted]
    · exact hc.unfeed
    · exact hc.notPending
    · intro a ha
      have hsame : ∀ p ∈ w.posted, (w.step E ev).db.isOpen p.1 = w.db.isOpen p.1 := fun p hp => by
        rw [Db.isOpen, Db.isOpen, htxs, AList.lookup_insert_ne (hh.ne_of_fresh hrejects.fresh hp)]
      rw [sum_owed_congr hsame, hrejects.balances]
      exact hc.covers a ha

/-- The accounts of the posted withdrawals are those of their users. -/
theorem Covered.backed (hh : HistoryOK E Withdrawing w) (hc : Covered E w) : Backed E w := by
  intro u a r ha hr
  have hsum : w.openTotal u r.currency = (w.posted.map (owed w.db a)).sum := by
    unfold World.openTotal
    congr 1
    refine List.map_congr_left fun p hp => ?_
    by_cases ht : p.2.type = .withdrawInitiate
    · obtain ⟨cmd, -, horigin⟩ := hh.origins p hp
      obtain ⟨src, dst, b, hmoved⟩ := moved_of_recorded (hh.recorded p hp) horigin (by rw [ht]; rfl)
      obtain ⟨hdst, hhold, hcur⟩ := hmoved.hold ht
      have hiff := hhold.eq_iff ha hcur (by rw [hr]; rfl)
      simp only [owed, ht, true_and, hdst, hiff, and_assoc]
    · simp [owed, ht]
  rw [hsum]
  exact hc.covers a ha.type

/-- **Open withdrawals stay backed.** From a ledger without transactions whose hold
accounts are not negative, in every run of withdrawal commands, reversals and top-ups of
any users, interleaved in any way, in which only harmless commands commit, the hold
account of every user covers the user's open withdrawals. -/
theorem withdrawals_backed (E : Env) (db : Db) (now : ℕ) (hdb : DbOK E db) (hempty : db.txs = ∅)
    (hhold : ∀ a, (E.accounts.byID a).map AccountRow.type = some .hold → 0 ≤ (db.balances a).getD 0)
    (evs : List Event) (hevs : ∀ ev ∈ evs, Issued Withdrawing ev)
    (hharmless : Along (World.step E) (HarmlessCommit E) (.idle db now) evs) :
    Backed E (run (World.step E) (.idle db now) evs) := by
  have hstart : Covered E (.idle db now) := by
    refine ⟨fun p hp => ?_, fun p hp => ?_, fun a ha => ?_⟩
    · cases hp
    · cases hp
    · have hnonneg := hhold a ha
      simp only [World.idle, List.map_nil, List.sum_nil]
      exact_mod_cast hnonneg
  have hinv := run_inv_of_along
    (I := fun w => (WorldOK E w ∧ HistoryOK E Withdrawing w) ∧ Covered E w)
    (C := fun w ev => Issued Withdrawing ev ∧ HarmlessCommit E w ev)
    (fun w ev h hev => ⟨⟨step_ok h.1.1 ev, h.1.2.step h.1.1 hev.1⟩, h.2.step h.1.1 h.1.2 hev.2⟩)
    ⟨⟨idle_ok hdb, history_idle hempty now⟩, hstart⟩
    ((Along.of_forall (fun ev hev _ => hevs ev hev) _).and hharmless)
  exact hinv.2.backed hinv.1.2

/-! ## A hold emptied under an open withdrawal -/

instance (E : Env) (w : World) (rc : ResolvedCommand) : Decidable (Harmless E w rc) :=
  inferInstanceAs (Decidable (_ ∧ _ ∧ _))

instance (E : Env) (w : World) : (ev : Event) → Decidable (HarmlessCommit E w ev)
  | .advance sid => inferInstanceAs (Decidable (∀ s ∈ w.sessions sid, _))
  | .handle _ _ _ | .fail _ _ | .tick _ => .isTrue trivial

instance : (ev : Event) → Decidable (Issued Withdrawing ev)
  | .handle _ _ cmd => inferInstanceAs (Decidable (withdrawalType cmd.type = true))
  | .advance _ | .fail _ _ | .tick _ => .isTrue trivial

namespace Sample

/-- User 1 has 100, withdraws 30 and 20 of it and cancels the first. -/
def backedWithdrawals : List Event :=
  call 1 101 (command "k1" .moneyIn 100 UUID.nil) ++ call 2 102 (command "k2" .withdrawInitiate 30 UUID.nil) ++
    call 3 103 (command "k3" .withdrawInitiate 20 UUID.nil) ++ call 4 104 (command "k4" .withdrawCancel 30 102)

/-- User 1 has 100, withdraws 30 of it and moves 30 from hold to pending. -/
def pendingWithdrawal : List Event :=
  call 1 101 (command "k1" .moneyIn 100 UUID.nil) ++ call 2 102 (command "k2" .withdrawInitiate 30 UUID.nil) ++
    call 3 103 (command "k3" .withdrawPending 30 UUID.nil)

end Sample

set_option maxRecDepth 20000 in
theorem withdrawals_backed_cancel :
    (run (World.step Sample.env) (.idle Sample.zeroed 0) Sample.backedWithdrawals).openTotal 1 "IDR" = 20 ∧
    Backed Sample.env (run (World.step Sample.env) (.idle Sample.zeroed 0) Sample.backedWithdrawals) := by
  refine ⟨by decide +kernel, ?_⟩
  refine withdrawals_backed Sample.env Sample.zeroed 0 (dbOK_empty rfl Sample.zeroed_zero) rfl (fun a _ => ?_)
    Sample.backedWithdrawals (by decide) (by decide +kernel)
  cases h : Sample.zeroed.balances a with
  | none => exact le_refl _
  | some x => exact (Sample.zeroed_zero a x h).ge

set_option maxRecDepth 20000 in
/-- **`withdraw_pending` leaves a withdrawal unbacked.** It moves the money of user 1 from
hold to pending while the withdrawal of 30 is posted and open: 30 are owed by a hold
account with balance 0. -/
theorem pending_leaves_unbacked :
    (∀ ev ∈ Sample.pendingWithdrawal, Issued Withdrawing ev) ∧
    (run (World.step Sample.env) (.idle Sample.zeroed 0) Sample.pendingWithdrawal).openTotal 1 "IDR" = 30 ∧
    (run (World.step Sample.env) (.idle Sample.zeroed 0) Sample.pendingWithdrawal).db.balances 12 = some 0 ∧
    ¬ Backed Sample.env (run (World.step Sample.env) (.idle Sample.zeroed 0) Sample.pendingWithdrawal) := by
  have hopen : (run (World.step Sample.env) (.idle Sample.zeroed 0) Sample.pendingWithdrawal).openTotal 1 "IDR" =
      30 := by decide +kernel
  have hbal : (run (World.step Sample.env) (.idle Sample.zeroed 0) Sample.pendingWithdrawal).db.balances 12 =
      some 0 := by decide +kernel
  refine ⟨by decide, hopen, hbal, fun h => ?_⟩
  have hle := h 1 12 (Sample.account 12 .user 1 .hold none none) ⟨_, rfl, rfl, rfl, rfl, rfl⟩ rfl
  have hcur : (Sample.account 12 .user 1 .hold none none).currency = "IDR" := rfl
  rw [hcur, hopen, hbal] at hle
  norm_num at hle

end Seev.Ledger
