import Seev.Ledger.Proof.Conservation
import Seev.Ledger.Proof.Roles

/-!
# The fee of a consumed quote

`Handle` reads the quote twice: once before the transaction, to learn whether the fee
account has to be resolved, and once inside it, to consume it. The first read is a
best effort and may come back with an error.

* `PeekEvent`: the ledger with calls whose first read fails.
* `Tracks`: what a session keeps of its call, and the fee it has in its metadata once the
  quote is consumed.
* `SameFee`: the fee and the gateway of a quote never change.
* `quoted_fee_charged`: a consumed fee is in the entries whenever the call knew of it.
-/

namespace Seev.Ledger

open Lib

variable {now : ℕ} {q : FeeQuote} {cn dn fn g name : String} {dst feeID quoteID src : UUID}
  {es : List EntryInstruction}

/-! ## Calls whose peek fails -/

/-- What the peek can read. An error of the infrastructure leaves the metadata as a
missing quote does. -/
def Db.peeked (db : Db) (fails : Bool) : Db := if fails then { db with quotes := fun _ => none } else db

inductive PeekEvent where
  /-- a `Handle` call; its peek may fail -/
  | call (sid : SessionID) (txID : UUID) (cmd : Command) (fails : Bool)
  | ledger (ev : Event)

def World.peekStep (E : Env) (w : World) : PeekEvent → World
  | .call sid txID cmd fails =>
    match w.sessions sid, prepare E (w.db.peeked fails) w.now cmd with
    | none, .ok rc => w.setSession sid (some (.start rc 0 txID))
    | _, _ => w
  | .ledger ev => w.step E ev

/-- The event opens session `sid`. -/
def Opens (sid : SessionID) : PeekEvent → Prop
  | .call sid' _ _ _ => sid' = sid
  | .ledger (.handle sid' _ _) => sid' = sid
  | .ledger _ => False

instance (sid : SessionID) (ev : PeekEvent) : Decidable (Opens sid ev) := by
  unfold Opens
  split <;> infer_instance

variable {E : Env} {w w' : World} {sid : SessionID} {s s' : Session} {rc : ResolvedCommand}

theorem DbOK.peeked {db : Db} (h : DbOK E db) (fails : Bool) : DbOK E (db.peeked fails) := by
  cases fails
  · exact h
  · exact ⟨h.owned, h.range⟩

theorem resolved_of_peeked {db : Db} {fails : Bool} (h : Resolved (db.peeked fails) s) : Resolved db s := by
  cases fails <;> exact h

/-- What a call does: nothing, or a new session on the accepted command. -/
theorem call_cases (E : Env) (w : World) (sid : SessionID) (txID : UUID) (cmd : Command) (fails : Bool) :
    w.peekStep E (.call sid txID cmd fails) = w ∨
    ∃ rc, w.sessions sid = none ∧ prepare E (w.db.peeked fails) w.now cmd = .ok rc ∧
      w.peekStep E (.call sid txID cmd fails) = w.setSession sid (some (.start rc 0 txID)) := by
  simp only [World.peekStep]
  split
  · rename_i rc hfree hprep
    exact .inr ⟨rc, hfree, hprep, rfl⟩
  · exact .inl rfl

/-- **A failing peek keeps the invariant of the ledger.** -/
theorem peekStep_ok (h : WorldOK E w) (ev : PeekEvent) : WorldOK E (w.peekStep E ev) := by
  cases ev with
  | ledger ev => exact step_ok h ev
  | call sid txID cmd fails =>
    rcases call_cases E w sid txID cmd fails with heq | ⟨rc, -, hprep, heq⟩
    · rw [heq]
      exact h
    rw [heq]
    refine ⟨h.db, fun sid' s' hs' => ?_⟩
    rcases setSession_sessions hs' with ⟨rfl, ht⟩ | ⟨-, hs'⟩
    · cases ht
      exact start_ok (resolved_of_peeked ((prepare_ok hprep).resolved_session (h.db.peeked fails) 0 txID))
    · exact h.sessions sid' s' hs'

/-! ## What a session keeps of its call -/

/-- Only the two keys of the inline fee may differ. -/
def SameButFee (m m' : Metadata) : Prop := ∀ k, k ≠ .feeAmount → k ≠ .feeGateway → m' k = m k

theorem SameButFee.refl (m : Metadata) : SameButFee m m := fun _ _ _ => rfl

theorem SameButFee.trans {m m' m'' : Metadata} (h : SameButFee m m') (h' : SameButFee m' m'') :
    SameButFee m m'' := fun k h1 h2 => (h' k h1 h2).trans (h k h1 h2)

theorem sameButFee_withFee (m : Metadata) (q : FeeQuote) : SameButFee m (m.withFee E q) := by
  intro k h1 h2
  simp [Metadata.withFee, Metadata.set, h1, h2]

theorem SameButFee.metaStringD {m m' : Metadata} (h : SameButFee m m') {k : MetaKey} (h1 : k ≠ .feeAmount)
    (h2 : k ≠ .feeGateway) : metaStringD m' k = metaStringD m k := by
  unfold Seev.Ledger.metaStringD metaString
  rw [h k h1 h2]

/-- Session `s` works on the resolved command `rc`, and has the fee of the quote it
consumed in its metadata. -/
structure Tracks (E : Env) (rc : ResolvedCommand) (s : Session) : Prop where
  request : ∃ m, s.rc = { rc with metadata := m } ∧ SameButFee rc.metadata m
  fee : ∀ quoteID q, s.writes.quote = some (quoteID, q) → ∃ m, s.rc.metadata = Metadata.withFee E m q

theorem Tracks.start (attempt : ℕ) (txID : UUID) : Tracks E rc (.start rc attempt txID) where
  request := ⟨rc.metadata, rfl, .refl _⟩
  fee _ _ h := by cases h

/-- A retry keeps the metadata the failed attempt left. -/
theorem Tracks.retry (h : Tracks E rc s) (attempt : ℕ) (txID : UUID) :
    Tracks E rc (.start s.rc attempt txID) where
  request := h.request
  fee _ _ h := by cases h

theorem Tracks.same (h : Tracks E rc s) (hrc : s'.rc = s.rc) (hq : s'.writes.quote = s.writes.quote) :
    Tracks E rc s' where
  request := by rw [hrc]; exact h.request
  fee := by rw [hrc, hq]; exact h.fee

/-- Only the statement of the quote touches it. -/
theorem exec_quote {db : Db} (hp : s.phase ≠ .quote) (h : s.exec E now db = .ok s') :
    s'.writes.quote = s.writes.quote := by
  cases exec_executes h with
  | quoted _ _ hq _ => exact absurd hq hp
  | insert | unquoted | preLock | flags | lock | validate | keep | close | build | deltas | entries | update
  | finish
  | reject | done => rfl

theorem quoteStep_tracks {db : Db} (ht : Tracks E rc s) (h : s.quoteStep E now db = .ok s') : Tracks E rc s' := by
  unfold Session.quoteStep at h
  obtain ⟨r, hr, h⟩ := bind_eq_ok.1 h
  rcases consumeFeeQuote_ok hr with ⟨-, rfl⟩ | ⟨quoteID, q, -, -, -, -, rfl⟩
  · obtain ⟨-, -, h⟩ := bind_eq_ok.1 h
    cases h
    exact ht.same rfl rfl
  · obtain ⟨-, -, h⟩ := bind_eq_ok.1 h
    cases h
    obtain ⟨m, hm, hsame⟩ := ht.request
    refine ⟨⟨_, by rw [hm], hsame.trans (sameButFee_withFee m _)⟩, fun quoteID' q' hq => ?_⟩
    · cases hq
      exact ⟨s.rc.metadata, rfl⟩

theorem exec_tracks {db : Db} (ht : Tracks E rc s) (h : s.exec E now db = .ok s') :
    Tracks E rc s' := by
  by_cases hp : s.phase = .quote
  · unfold Session.exec at h
    obtain ⟨p, -, h⟩ := bind_eq_ok.1 h
    rw [hp] at h
    exact quoteStep_tracks ht h
  · exact ht.same ((exec_continues h).command hp) (exec_quote hp h)

/-- **The induction rule for one session.** What every statement and every retry keeps is
kept until another call opens a session under this id. -/
theorem run_session {P : Session → Prop} (hexec : ∀ s s' db now, P s → s.exec E now db = .ok s' → P s')
    (hretry : ∀ s attempt txID, P s → P (.start s.rc attempt txID)) {evs : List PeekEvent}
    (hevs : ∀ ev ∈ evs, ¬ Opens sid ev) (h : ∀ s, w.sessions sid = some s → P s) :
    ∀ s, (run (World.peekStep E) w evs).sessions sid = some s → P s := by
  refine run_inv_of_along (C := fun _ ev => ¬ Opens sid ev)
    (I := fun w => ∀ s, w.sessions sid = some s → P s) ?_ h (Along.of_forall (fun ev hev _ => hevs ev hev) w)
  intro w ev h hev s' hs'
  cases ev with
  | call sid' txID cmd fails =>
    rcases call_cases E w sid' txID cmd fails with heq | ⟨rc', -, -, heq⟩
    · rw [heq] at hs'
      exact h s' hs'
    rw [heq] at hs'
    rcases setSession_sessions hs' with ⟨rfl, -⟩ | ⟨-, hs'⟩
    · exact absurd rfl hev
    · exact h s' hs'
  | ledger ev =>
    simp only [World.peekStep] at hs'
    cases step_move E w ev with
    | resumes _ _ hsessions =>
      cases hsessions sid s' hs' with
      | untouched hs _ => exact h s' hs
      | accepted txID cmd rc' hopen _ _ _ =>
        subst hopen
        exact absurd rfl hev
      | retried s txID hs hstart =>
        rw [hstart]
        exact hretry s _ _ (h s hs)
      | statement s hs _ hstmt _ => exact hexec s s' _ _ (h s hs) hstmt
    | commits sid₀ s _ _ _ heq =>
      rw [heq] at hs'
      exact h s' (endSession_sessions hs').2.1

/-! ## A quote's fee never changes -/

/-- Every quote of `db` is still there, with its fee and gateway. -/
def SameFee (db db' : Db) : Prop :=
  ∀ id q, db.quotes id = some q → ∃ q', db'.quotes id = some q' ∧ q'.feeAmount = q.feeAmount ∧
    q'.feeGateway = q.feeGateway

theorem SameFee.refl (db : Db) : SameFee db db := fun _ q hq => ⟨q, hq, rfl, rfl⟩

theorem SameFee.trans {db db' db'' : Db} (h : SameFee db db') (h' : SameFee db' db'') : SameFee db db'' := by
  intro id q hq
  obtain ⟨q', hq', ha, hg⟩ := h id q hq
  obtain ⟨q'', hq'', ha', hg'⟩ := h' id q' hq'
  exact ⟨q'', hq'', ha'.trans ha, hg'.trans hg⟩

theorem QuoteEffect.sameFee {db db' : Db} (h : QuoteEffect E db s db') : SameFee db db' := by
  intro id q hq
  cases h with
  | none _ hsame => exact ⟨q, by rw [hsame, hq], rfl, rfl⟩
  | consumed quoteID q₀ now _ _ hrow _ hafter =>
    by_cases hid : id = quoteID
    · subst hid
      rw [hrow] at hq
      cases hq
      refine ⟨q.consume now (.tx s.txID), ?_, rfl, rfl⟩
      rw [hafter, Function.update_self]
    · exact ⟨q, by rw [hafter, Function.update_of_ne hid, hq], rfl, rfl⟩

theorem peekStep_sameFee (hw : WorldOK E w) (ev : PeekEvent) : SameFee w.db (w.peekStep E ev).db := by
  cases ev with
  | call sid txID cmd fails =>
    rcases call_cases E w sid txID cmd fails with heq | ⟨rc, -, -, heq⟩
    · rw [heq]
      exact .refl _
    · rw [heq]
      exact .refl _
  | ledger ev =>
    cases step_effect hw ev with
    | quiet hdb _ =>
      simp only [World.peekStep]
      rw [hdb]
      exact .refl _
    | posts _ s _ _ heffect _ _ _ => exact heffect.quote.sameFee
    | rejects _ s _ _ heffect _ _ => exact heffect.quote.sameFee

theorem run_peek_ok (hw : WorldOK E w) (evs : List PeekEvent) :
    WorldOK E (run (World.peekStep E) w evs) ∧ SameFee w.db (run (World.peekStep E) w evs).db :=
  run_inv (I := fun w' => WorldOK E w' ∧ SameFee w.db w'.db)
    (fun _ ev h => ⟨peekStep_ok h.1 ev, h.2.trans (peekStep_sameFee h.1 ev)⟩) ⟨hw, .refl _⟩ evs

/-! ## The fee account -/

/-- The types with an inline fee. -/
def inlineFee : TxType → Bool
  | .moneyIn | .moneyOut | .withdrawInitiate | .withdrawSettle | .transferP2P | .escrowHold
  | .escrowRelease | .merchantPayinCredit | .merchantPayoutHold | .merchantPayoutSettle => true
  | _ => false

/-- The metadata has a positive fee for gateway `g`. -/
def NamesFee (E : Env) (m : Metadata) (g : String) : Prop :=
  ∃ fee, metaDecimal E.text m .feeAmount = .ok fee ∧ 0 < fee ∧ metaString m .feeGateway = .ok g

theorem metaDecimal_withFee (m : Metadata)
    (htext : E.text.newFromString (E.text.decimalString q.feeAmount) = .ok (q.feeAmount : ℚ)) :
    metaDecimal E.text (m.withFee E q) .feeAmount = .ok (q.feeAmount : ℚ) := by
  simp [metaDecimal, Metadata.withFee, Metadata.set, htext]

theorem namesFee_withFee (m : Metadata)
    (htext : E.text.newFromString (E.text.decimalString q.feeAmount) = .ok (q.feeAmount : ℚ))
    (hpos : 0 < q.feeAmount) : NamesFee E (m.withFee E q) q.feeGateway := by
  refine ⟨q.feeAmount, metaDecimal_withFee m htext, by exact_mod_cast hpos, ?_⟩
  simp [metaString, Metadata.withFee, Metadata.set]

theorem NamesFee.resolve {cmd : Command} (h : NamesFee E cmd.metadata g) {c : Currency}
    {r : Option UUID} (hr : resolveInlineFee E cmd c = .ok r) :
    ∃ feeID, r = some feeID ∧ getSystemAccountID E .fee g c = .ok feeID := by
  obtain ⟨fee, hfee, hpos, hg⟩ := h
  unfold resolveInlineFee at hr
  split at hr
  · rename_i hnone
    simp [metaDecimal, hnone] at hfee
  · rename_i hnull
    simp [metaDecimal, hnull] at hfee
  rw [hfee, hg] at hr
  dsimp only at hr
  rw [if_neg hpos.ne', if_neg hpos.not_gt] at hr
  split at hr
  · cases hr
  · cases hx : inContext ("inline fee: fee[" ++ g ++ "]") (getSystemAccountID E .fee g c) with
    | error e =>
      rw [hx] at hr
      cases hr
    | ok feeID =>
      rw [hx] at hr
      cases hr
      exact ⟨feeID, rfl, inContext_eq_ok.1 hx⟩

/-- An `escrow_release` names neither the escrow account of its currency nor the fee
account of `g` as its merchant account. -/
def ReleasesElsewhere (E : Env) (cmd : Command) (g : String) : Prop :=
  ∀ id c, metaUUID E.text cmd.metadata .merchantAccountID = .ok id → getAccountCurrency E id = .ok c →
    getSystemAccountID E .escrow c c ≠ .ok id ∧ getSystemAccountID E .fee g c ≠ .ok id

section Accounts

variable {cmd : Command} {db : Db} {acc : ResolvedAccounts} {c : Currency}

@[grind →] theorem withInlineFee_currency {c' : Currency} {r : ResolvedAccounts}
    (h : withInlineFee E name cmd c' r = .ok (acc, c)) : c' = c := by
  unfold withInlineFee at h
  obtain ⟨fee, -, h⟩ := bind_eq_ok.1 h
  cases fee with
  | none =>
    cases h
    rfl
  | some feeID =>
    dsimp only at h
    split at h <;> cases h <;> rfl

/-- Every one of these types appends the fee account to two others. -/
theorem inlineFee_legs {p : TxProcessor} (hp : registry E cmd.type = .ok p) (ht : inlineFee cmd.type = true)
    (h : p.resolveAccounts db cmd = .ok (acc, c)) :
    ∃ name src dst, withInlineFee E name cmd c (twoLeg src dst) = .ok (acc, c) := by
  cases htype : cmd.type <;> rw [htype] at hp ht <;> simp only [registry, Except.ok.injEq, reduceCtorEq] at hp <;>
    subst hp <;> simp only [inlineFee, reduceCtorEq] at ht
  all_goals
    simp only [moneyIn, moneyOut, withdrawInitiate, withdrawSettle, transferP2P, escrowHold, escrowRelease,
      merchantPayinCredit, merchantPayoutHold, merchantPayoutSettle, bind_eq_ok, guard_eq_ok] at h
    grind

theorem withInlineFee_eq (hg : NamesFee E cmd.metadata g)
    (hid : getSystemAccountID E .fee g c = .ok feeID) (hnil : feeID ≠ UUID.nil)
    (h : withInlineFee E name cmd c (twoLeg src dst) = .ok (acc, c)) : acc.ordered = [src, dst, feeID] := by
  unfold withInlineFee at h
  obtain ⟨fee, hfee, h⟩ := bind_eq_ok.1 h
  obtain ⟨feeID', rfl, hid'⟩ := hg.resolve (inContext_eq_ok.1 hfee)
  rw [hid] at hid'
  cases hid'
  dsimp only at h
  rw [if_pos hnil] at h
  cases h
  rfl

/-- **The three accounts are three.** -/
theorem inlineFee_apart {p : TxProcessor} (hp : registry E cmd.type = .ok p) (ht : inlineFee cmd.type = true)
    (h : p.resolveAccounts db cmd = .ok (acc, c))
    (hacc : acc.ordered = [src, dst, feeID]) (hid : getSystemAccountID E .fee g c = .ok feeID)
    (hm : cmd.type = .escrowRelease → ReleasesElsewhere E cmd g) : src ≠ dst ∧ feeID ≠ src ∧ feeID ≠ dst := by
  have hfee := getSystemAccountID_type hid
  by_cases hrelease : cmd.type = .escrowRelease
  · have hm := hm hrelease
    rw [hrelease] at hp
    cases hp
    obtain ⟨merchantID, hmerchant, h⟩ := bind_eq_ok.1 h
    obtain ⟨c', hc, h⟩ := bind_eq_ok.1 h
    obtain ⟨escrowID, hescrow, h⟩ := bind_eq_ok.1 h
    have hcur := withInlineFee_currency h
    subst hcur
    obtain ⟨fees, hlegs⟩ := withInlineFee_ordered h
    rw [inContext_eq_ok] at hmerchant hc hescrow
    obtain ⟨hne, hne'⟩ := hm merchantID c' hmerchant hc
    rw [hacc] at hlegs
    cases hlegs
    refine ⟨?_, ?_, ?_⟩
    · rintro rfl
      exact hne hescrow
    · rintro rfl
      cases (getSystemAccountID_type hescrow).symm.trans hfee
    · rintro rfl
      exact hne' hid
  · -- the other accounts are looked up by types that are not `fee`
    obtain ⟨t, t', htypes, hne, hne'⟩ : ∃ t t', legTypes cmd = some (t, t') ∧ t ≠ .fee ∧ t' ≠ .fee := by
      unfold legTypes userLeg
      cases htype : cmd.type <;> simp only [htype, inlineFee, reduceCtorEq] at ht hrelease <;> grind
    obtain ⟨src', dst', fees, hlegs, hsrc, hdst⟩ := resolveAccounts_types hp h htypes
    rw [hacc] at hlegs
    cases hlegs
    refine ⟨?_, ?_, ?_⟩
    · rintro rfl
      by_cases hp2p : cmd.type = .transferP2P
      · rw [hp2p] at hp
        cases hp
        obtain ⟨src', dst', fees, hlegs, hne⟩ := transferP2P_legs h
        rw [hacc] at hlegs
        cases hlegs
        exact hne rfl
      · exact legTypes_ne htypes hp2p (Option.some.inj (hsrc.symm.trans hdst))
    · rintro rfl
      exact hne (Option.some.inj (hsrc.symm.trans hfee))
    · rintro rfl
      exact hne' (Option.some.inj (hdst.symm.trans hfee))

end Accounts

/-! ## The entries -/

/-- What is left of the credit: the amount without the fee, or all of it when the fee of a
top-up is charged above it. -/
def netCredit (cmd : Command) (fee : Decimal) : Decimal :=
  if cmd.type = .moneyIn ∧ metaStringD cmd.metadata .feeApplication = "added_on_top" then cmd.amount
  else cmd.amount - fee

theorem movementWithFee_fee {fee : Decimal}
    (hfee : hasFee E rc = some (feeID, fee)) (h : movementWithFee E dn cn fn rc = .ok es) :
    ∃ a b, es = [⟨a, .debit, rc.amount, dn⟩, ⟨b, .credit, rc.amount - fee, cn⟩, ⟨feeID, .credit, fee, fn⟩] := by
  unfold movementWithFee at h
  obtain ⟨a, -, h⟩ := bind_eq_ok.1 h
  obtain ⟨b, -, h⟩ := bind_eq_ok.1 h
  rw [hfee] at h
  cases h
  exact ⟨a, b, rfl⟩

theorem moneyIn_fee {db : Db} {bal : Balances} {fee : Decimal}
    (htype : rc.type = .moneyIn) (hfee : hasFee E rc = some (feeID, fee))
    (h : (moneyIn E).buildEntries db rc bal = .ok es) :
    ∃ a b x dn cn fn, es = [⟨a, .debit, x, dn⟩, ⟨b, .credit, netCredit rc.toCommand fee, cn⟩,
      ⟨feeID, .credit, fee, fn⟩] := by
  obtain ⟨a, -, h⟩ := bind_eq_ok.1 h
  obtain ⟨b, -, h⟩ := bind_eq_ok.1 h
  rw [hfee] at h
  dsimp only at h
  unfold netCredit
  split at h
  · rename_i htop
    cases h
    rw [if_pos ⟨htype, htop⟩]
    exact ⟨a, b, _, _, _, _, rfl⟩
  · rename_i htop
    cases h
    rw [if_neg fun hboth => htop hboth.2]
    exact ⟨a, b, _, _, _, _, rfl⟩

/-- **The entries of a command with a fee.** -/
theorem inlineFee_entries {p : TxProcessor} (hp : registry E rc.type = .ok p) (ht : inlineFee rc.type = true)
    {db : Db} {bal : Balances} {fee : Decimal}
    (hfee : hasFee E rc = some (feeID, fee)) (h : p.buildEntries db rc bal = .ok es) :
    ∃ a b x dn cn fn, es = [⟨a, .debit, x, dn⟩, ⟨b, .credit, netCredit rc.toCommand fee, cn⟩,
      ⟨feeID, .credit, fee, fn⟩] := by
  cases htype : rc.type <;> rw [htype] at hp ht <;> simp only [registry, Except.ok.injEq, reduceCtorEq] at hp <;>
    subst hp <;> simp only [inlineFee, reduceCtorEq] at ht
  case moneyIn => exact moneyIn_fee htype hfee h
  all_goals
    have hnet : netCredit rc.toCommand fee = rc.amount - fee := by
      unfold netCredit
      rw [if_neg]
      simp [htype]
    obtain ⟨a, b, hes⟩ := movementWithFee_fee hfee h
    rw [hnet]
    exact ⟨a, b, _, _, _, _, hes⟩

/-- The rows credit the fee account with exactly the fee, and `rest` is all other credit. -/
def ChargesFee (rows : List LedgerEntry) (feeID : UUID) (fee : ℤ) (rest : Decimal) : Prop :=
  (∃ e ∈ rows, e.accountID = feeID ∧ e.direction = .credit ∧ e.amount = fee) ∧
    ((total .credit (rows.map LedgerEntry.posting) - fee : ℤ) : ℚ) = rest

instance (rows : List LedgerEntry) (feeID : UUID) (fee : ℤ) (rest : Decimal) :
    Decidable (ChargesFee rows feeID fee rest) :=
  inferInstanceAs (Decidable (_ ∧ _))

theorem chargesFee_of_rows {txID a b : UUID} {x rest : Decimal} {fee : ℤ}
    {rows : List LedgerEntry} (h : List.Forall₂ (RowFor txID)
      [⟨a, .debit, x, dn⟩, ⟨b, .credit, rest, cn⟩, ⟨feeID, .credit, fee, fn⟩] rows) :
    ChargesFee rows feeID fee rest := by
  obtain _ | ⟨h0, _ | ⟨h1, _ | ⟨h2, _ | _⟩⟩⟩ := h
  rename_i r0 r1 r2
  have hrest : (r1.amount : ℚ) = rest := h1.amount
  have hfee : (r2.amount : ℚ) = (fee : ℚ) := h2.amount
  rw [Int.cast_inj] at hfee
  refine ⟨⟨r2, by simp, h2.account, h2.direction, hfee⟩, ?_⟩
  simp only [List.map_cons, List.map_nil, total_cons, total_nil, LedgerEntry.posting, Posting.side, h0.direction,
    h1.direction, h2.direction, hfee]
  rw [← hrest]
  simp

/-! ## The call -/

/-- The peek finds the quote. -/
def PeekFinds (E : Env) (db : Db) (now : ℕ) (cmd : Command) : Prop :=
  E.feePolicy = true ∧ ∃ quoteID q, E.text.parseUUID cmd.quoteID = .ok quoteID ∧
    getQuote db now quoteID cmd.userID = some q

theorem peekQuote_sameButFee (db : Db) (now : ℕ) (cmd : Command) :
    SameButFee cmd.metadata (peekQuote E db now cmd).metadata := by
  unfold peekQuote
  split
  · split
    · exact .refl _
    split
    · exact .refl _
    · exact sameButFee_withFee _ _
  · exact .refl _

theorem prepare_metadata {db : Db} {cmd : Command} (h : prepare E db now cmd = .ok rc) :
    rc.metadata = (peekQuote E db now cmd).metadata := by
  unfold prepare at h
  obtain ⟨-, -, h⟩ := bind_eq_ok.1 h
  obtain ⟨p, -, h⟩ := bind_eq_ok.1 h
  dsimp only at h
  obtain ⟨-, -, h⟩ := bind_eq_ok.1 h
  obtain ⟨⟨acc, c⟩, -, h⟩ := bind_eq_ok.1 h
  obtain ⟨-, h⟩ := guard_eq_ok.1 h
  obtain ⟨-, h⟩ := guard_eq_ok.1 h
  obtain ⟨-, h⟩ := guard_eq_ok.1 h
  cases h
  rfl

/-- The quote the peek finds is the quote the transaction consumes. -/
theorem peek_namesFee {db db' : Db} {cmd : Command} {fails : Bool}
    (hfound : PeekFinds E (db.peeked fails) now cmd ∨ NamesFee E cmd.metadata q.feeGateway)
    (hsame : SameFee db db') (hparse : E.text.parseUUID cmd.quoteID = .ok quoteID) (hquote : cmd.quoteID ≠ "")
    (hrow : ∃ q', db'.quotes quoteID = some q' ∧ q.feeAmount = q'.feeAmount ∧ q.feeGateway = q'.feeGateway)
    (htext : E.text.newFromString (E.text.decimalString q.feeAmount) = .ok (q.feeAmount : ℚ))
    (hpos : 0 < q.feeAmount) :
    NamesFee E (peekQuote E (db.peeked fails) now cmd).metadata q.feeGateway := by
  obtain ⟨q', hq', hamount, hgateway⟩ := hrow
  unfold peekQuote
  split
  · rw [hparse]
    dsimp only
    split
    · -- not found: the caller's own metadata has it
      rename_i hnone
      rcases hfound with ⟨-, quoteID', q₀, hparse', hq₀⟩ | hown
      · rw [hparse] at hparse'
        cases hparse'
        rw [hnone] at hq₀
        cases hq₀
      · exact hown
    · rename_i q₀ hq₀
      have hdb : db.quotes quoteID = some q₀ := by
        unfold getQuote at hq₀
        split at hq₀
        · rename_i q₁ hq₁
          split at hq₀
          · cases hq₀
            cases fails with
            | false => exact hq₁
            | true => cases hq₁
          · cases hq₀
        · cases hq₀
      obtain ⟨q₂, hq₂, ha, hg⟩ := hsame quoteID q₀ hdb
      rw [hq'] at hq₂
      cases hq₂
      rw [hamount, ha] at htext hpos
      rw [hgateway, hg]
      exact namesFee_withFee _ htext hpos
  · rename_i hpolicy
    rcases hfound with ⟨hpol, -⟩ | hown
    · exact absurd ⟨hquote, hpol⟩ hpolicy
    · exact hown

theorem SameButFee.releasesElsewhere {cmd : Command} {m : Metadata}
    (h : SameButFee cmd.metadata m) (hm : ReleasesElsewhere E cmd g) :
    ReleasesElsewhere E { cmd with metadata := m } g := by
  intro id c hid
  have hkey : m .merchantAccountID = cmd.metadata .merchantAccountID := h _ (by decide) (by decide)
  refine hm id c ?_
  simpa only [metaUUID, metaString, hkey] using hid

/-- The accounts of an accepted call that knew of the fee. -/
theorem prepared_accounts {db : Db} {cmd : Command}
    (hprep : prepare E db now cmd = .ok rc) (ht : inlineFee cmd.type = true)
    (hnames : NamesFee E (peekQuote E db now cmd).metadata g)
    (hm : cmd.type = .escrowRelease → ReleasesElsewhere E cmd g) (hnil : E.accounts.byID UUID.nil = none) :
    ∃ src dst feeID c, rc.accountIDs = [src, dst, feeID] ∧ getSystemAccountID E .fee g c = .ok feeID := by
  have hmeta := prepare_metadata hprep
  obtain ⟨p, m, acc, c, hp, -, -, hacc, rfl⟩ := (prepare_ok hprep).resolved
  simp only at hmeta
  rw [← hmeta] at hnames
  have hsame : SameButFee cmd.metadata m := by
    rw [hmeta]
    exact peekQuote_sameButFee db now cmd
  have hp' : registry E ({ cmd with metadata := m } : Command).type = .ok p := hp
  have hnames' : NamesFee E ({ cmd with metadata := m } : Command).metadata g := hnames
  obtain ⟨name, src, dst, hlegs⟩ := inlineFee_legs hp' ht hacc
  obtain ⟨feeID, hid⟩ : ∃ feeID, getSystemAccountID E .fee g c = .ok feeID := by
    unfold withInlineFee at hlegs
    obtain ⟨r, hr, -⟩ := bind_eq_ok.1 hlegs
    obtain ⟨feeID, -, hid⟩ := hnames'.resolve (inContext_eq_ok.1 hr)
    exact ⟨feeID, hid⟩
  have hne : feeID ≠ UUID.nil := by
    rintro rfl
    obtain ⟨r, hr, -⟩ := getSystemAccountID_ok hid
    rw [hnil] at hr
    cases hr
  have hordered := withInlineFee_eq hnames' hid hne hlegs
  obtain ⟨h1, h2, h3⟩ := inlineFee_apart hp' ht hacc hordered hid
    fun hrelease => hsame.releasesElsewhere (hm hrelease)
  refine ⟨src, dst, feeID, c, ?_, hid⟩
  simp [hordered, deduplicate, Ne.symm h1, h2, h3]

theorem Tracks.command {db : Db} {cmd : Command} (h : Tracks E rc s) (hprep : prepare E db now cmd = .ok rc) :
    s.rc.type = cmd.type ∧ s.rc.amount = cmd.amount ∧ s.rc.quoteID = cmd.quoteID ∧
      s.rc.accountIDs = rc.accountIDs ∧ SameButFee cmd.metadata s.rc.metadata := by
  obtain ⟨m, hrc, hsame⟩ := h.request
  have hmeta := prepare_metadata hprep
  obtain ⟨p, m₀, acc, c, -, -, -, -, rfl⟩ := (prepare_ok hprep).resolved
  rw [hrc]
  refine ⟨rfl, rfl, rfl, rfl, ?_⟩
  simp only at hmeta hsame ⊢
  rw [hmeta] at hsame
  exact (peekQuote_sameButFee db now cmd).trans hsame

/-- What the commit of a session that consumed a positive fee leaves. -/
theorem tracks_charged {w₀ : World} {cmd : Command} {fails : Bool}
    (hok : WorldOK E w) (hs : w.sessions sid = some s) (hcommit : s.phase = .commit)
    (hprep : prepare E (w₀.db.peeked fails) w₀.now cmd = .ok rc) (htracks : Tracks E rc s)
    (htype : inlineFee cmd.type = true) (hquote : s.writes.quote = some (quoteID, q)) (hpos : 0 < q.feeAmount)
    (htext : E.text.newFromString (E.text.decimalString q.feeAmount) = .ok (q.feeAmount : ℚ))
    (hfound : PeekFinds E (w₀.db.peeked fails) w₀.now cmd ∨ NamesFee E cmd.metadata q.feeGateway)
    (hrelease : cmd.type = .escrowRelease → ReleasesElsewhere E cmd q.feeGateway)
    (hsame : SameFee w₀.db w.db) (hnil : E.accounts.byID UUID.nil = none) :
    ∃ feeID, getSystemAccountID E .fee q.feeGateway s.rc.currency = .ok feeID ∧
      ChargesFee ((w.peekStep E (.ledger (.advance sid))).db.entries.filter (·.transactionID = s.txID))
        feeID q.feeAmount (netCredit cmd q.feeAmount) := by
  have hsok := hok.sessions sid s hs
  have hposts := commit_posts hok.db hsok hcommit
  have hstep : (w.peekStep E (.ledger (.advance sid))).db = s.view w.db := by
    simp [World.peekStep, World.step, hs, World.advance, Session.needs, hcommit, World.commit]
  obtain ⟨htype', hamount, hid, haccounts, hmeta⟩ := htracks.command hprep
  -- the consumed row is the one the peek may have read
  have hrow : ∃ q', w.db.quotes quoteID = some q' ∧ q.feeAmount = q'.feeAmount ∧ q.feeGateway = q'.feeGateway ∧
      s.rc.quoteID ≠ "" ∧ E.text.parseUUID s.rc.quoteID = .ok quoteID := by
    cases hsok.quoted (by simp [hcommit]) (by simp [hcommit]) with
    | none _ hw =>
      rw [hquote] at hw
      cases hw
    | consumed quoteID' q' now hnamed hparse _ hrow _ hw =>
      rw [hquote] at hw
      cases hw
      exact ⟨q', hrow, rfl, rfl, hnamed, hparse⟩
  obtain ⟨q', hq', hfeeAmount, hfeeGateway, hnamed, hparse⟩ := hrow
  rw [hid] at hnamed hparse
  have hnames := peek_namesFee hfound hsame hparse hnamed ⟨q', hq', hfeeAmount, hfeeGateway⟩ htext hpos
  obtain ⟨src, dst, feeID, c, hids, haccount⟩ := prepared_accounts hprep htype hnames hrelease hnil
  have hfee : hasFee E s.rc = some (feeID, (q.feeAmount : ℚ)) := by
    obtain ⟨m, hm⟩ := htracks.fee quoteID q hquote
    rw [hasFee_eq_some, haccounts, hids, hm]
    exact ⟨le_refl _, rfl, metaDecimal_withFee m htext, by exact_mod_cast hpos⟩
  obtain ⟨p, db₀, hreg, hbuilt, -⟩ := hposts.built.built
  obtain ⟨a, b, x, dn, cn, fn, hes⟩ := inlineFee_entries hreg (by rw [htype', htype]) hfee hbuilt
  obtain ⟨db₁, nb, hrows⟩ := hposts.rows
  have hfor : List.Forall₂ (RowFor s.txID) s.built s.writes.entries := hrows.rowOf.imp fun _ _ h => h.rowFor
  rw [hes] at hfor
  have hcharges := chargesFee_of_rows hfor
  refine ⟨feeID, ?_, ?_⟩
  · -- the rows are in the currency of the command, and the fee account in that of the lookup
    obtain ⟨e, he, heID, -, -⟩ := hcharges.1
    have hcurrency := hrows.currency e he
    obtain ⟨r, hr, -, -, hrc⟩ := getSystemAccountID_ok haccount
    rw [heID, hr, Option.map_some, Option.some.injEq, hrc] at hcurrency
    rw [← hcurrency]
    exact haccount
  · rw [hstep, hposts.filter_entries_self hok.db]
    have hnet : netCredit s.rc.toCommand q.feeAmount = netCredit cmd q.feeAmount := by
      unfold netCredit
      rw [htype', hamount, hmeta.metaStringD (by decide) (by decide)]
    rw [← hnet]
    exact hcharges

/-- **A consumed fee is charged when the call knew of it.** A command with an inline fee
is accepted on any reachable state and its peek may fail; other calls come and go. If the
peek found the quote, or the metadata of the caller already had a fee for the same
gateway, then a posting that consumed a positive fee credits exactly that fee to the fee
account of the quote's gateway, and the rest of the credit is the amount without it, or
the whole amount for a top-up whose fee is added on top. The text of a fee reads back as
the fee, and no account has the nil id. -/
theorem quoted_fee_charged (E : Env) (db : Db) (now : ℕ) (hdb : DbOK E db)
    (hnil : E.accounts.byID UUID.nil = none) (before after : List PeekEvent) (w₀ w : World) (sid : SessionID)
    (txID : UUID) (cmd : Command) (fails : Bool) (s : Session) (quoteID : UUID) (q : FeeQuote)
    (hw₀ : w₀ = run (World.peekStep E) (.idle db now) before) (hfree : w₀.sessions sid = none)
    (hw : w = run (World.peekStep E) w₀ (.call sid txID cmd fails :: after))
    (hafter : ∀ ev ∈ after, ¬ Opens sid ev) (hs : w.sessions sid = some s) (hcommit : s.phase = .commit)
    (htype : inlineFee cmd.type = true) (hquote : s.writes.quote = some (quoteID, q)) (hpos : 0 < q.feeAmount)
    (htext : E.text.newFromString (E.text.decimalString q.feeAmount) = .ok (q.feeAmount : ℚ))
    (hfound : PeekFinds E (w₀.db.peeked fails) w₀.now cmd ∨ NamesFee E cmd.metadata q.feeGateway)
    (hrelease : cmd.type = .escrowRelease → ReleasesElsewhere E cmd q.feeGateway) :
    ∃ feeID, getSystemAccountID E .fee q.feeGateway s.rc.currency = .ok feeID ∧
      ChargesFee ((w.peekStep E (.ledger (.advance sid))).db.entries.filter (·.transactionID = s.txID))
        feeID q.feeAmount (netCredit cmd q.feeAmount) := by
  have hok₀ : WorldOK E w₀ := by
    rw [hw₀]
    exact (run_peek_ok (idle_ok hdb) before).1
  -- the call was accepted: otherwise the session stays closed
  rcases call_cases E w₀ sid txID cmd fails with heq | ⟨rc, -, hprep, heq⟩
  · rw [run_cons, heq] at hw
    rw [hw] at hs
    exact (run_session (E := E) (P := fun _ => False) (fun _ _ _ _ h _ => h) (fun _ _ _ h => h) hafter
      (fun s hs => by rw [hfree] at hs; cases hs) s hs).elim
  obtain ⟨hok, hsame⟩ := run_peek_ok hok₀ (.call sid txID cmd fails :: after)
  rw [← hw] at hok hsame
  have htracks : Tracks E rc s := by
    rw [run_cons, heq] at hw
    rw [hw] at hs
    refine run_session (P := Tracks E rc) (fun _ _ _ _ => exec_tracks) (fun _ a t h => h.retry a t) hafter
      (fun s hs => ?_) s hs
    rcases setSession_sessions hs with ⟨-, ht⟩ | ⟨hne, -⟩
    · cases ht
      exact .start 0 txID
    · exact absurd rfl hne
  exact tracks_charged hok hs hcommit hprep htracks htype hquote hpos htext hfound hrelease hsame hnil

/-! ## Consumed and not charged -/

namespace Sample

/-- A quote of user 1 with a fee of 5. -/
def feeQuote (t : TxType) (amount : ℤ) : FeeQuote := ⟨1, t, "", "IDR", amount, 5, "bca", 1000, none, none⟩

/-- The ledger with quote 7 for a top-up of 100 and quote 8 for a release of 30. -/
def quotes : Db :=
  { zeroed with
    quotes := fun id =>
      if id = 7 then some (feeQuote .moneyIn 100) else if id = 8 then some (feeQuote .escrowRelease 30)
        else none }

def quotedTopup : Command := { command "k1" .moneyIn 100 UUID.nil with quoteID := "7" }

/-- The same top-up with the fee above the amount. -/
def topupOnTop : Command :=
  { quotedTopup with
    metadata := (quotedTopup.metadata.set .feeApplication (.str "added_on_top")).set .totalDebit (.str "105") }

/-- A release of 30 from escrow to the account with this id. -/
def quotedRelease (accountID : String) : Command :=
  { command "k3" .escrowRelease 30 102 with
    metadata := Metadata.empty.set .merchantAccountID (.str accountID), quoteID := "8" }

/-- A call up to its commit. -/
def peekCall (sid : SessionID) (txID : UUID) (cmd : Command) (fails : Bool) : List PeekEvent :=
  .call sid txID cmd fails :: List.replicate 12 (.ledger (.advance sid))

/-- An escrow hold of 30, posted. -/
def escrowed : List PeekEvent :=
  (call 1 101 (command "k1" .moneyIn 100 UUID.nil) ++ call 2 102 (command "k2" .escrowHold 30 UUID.nil)).map
    .ledger

end Sample

open Sample

set_option maxRecDepth 20000 in
/-- The quoted top-up of 100 credits 95 to the user and 5 to the fee account. -/
theorem quoted_fee_charged_topup : ∃ s,
    (run (World.peekStep env) (.idle quotes 0) (peekCall 1 101 quotedTopup false)).sessions 1 = some s ∧
    ∃ feeID, getSystemAccountID env .fee "bca" s.rc.currency = .ok feeID ∧
      ChargesFee ((run (World.peekStep env) (.idle quotes 0)
          (peekCall 1 101 quotedTopup false ++ [.ledger (.advance 1)])).db.entries.filter
        (·.transactionID = s.txID)) feeID 5 (netCredit quotedTopup 5) := by
  have hphase : ((run (World.peekStep env) (.idle quotes 0) (peekCall 1 101 quotedTopup false)).sessions 1).map
      (fun s => (s.phase, s.writes.quote)) =
      some (.commit, some (7, (feeQuote .moneyIn 100).consume 0 (.tx 101))) := by decide +kernel
  obtain ⟨s, hs, hp⟩ := Option.map_eq_some_iff.1 hphase
  rw [Prod.mk.injEq] at hp
  refine ⟨s, hs, ?_⟩
  rw [run_append]
  exact quoted_fee_charged env quotes 0 (dbOK_empty rfl zeroed_zero) (by decide) [] _ _ _ 1 101 quotedTopup false
    s 7
    ((feeQuote .moneyIn 100).consume 0 (.tx 101)) rfl rfl rfl (by decide) hs hp.1 rfl hp.2 (by decide)
    (by decide +kernel) (.inl ⟨rfl, 7, feeQuote .moneyIn 100, by decide +kernel, by decide +kernel⟩)
    (fun h => by cases h)

/-- The call posts, its quote of fee 5 is used up by it, and the fee is not charged from the
amount. -/
def Uncharged (w : World) (txID quoteID : UUID) (amount : Decimal) : Prop :=
  (w.db.txs.lookup txID).map TxRow.status = some .posted ∧
    (w.db.quotes quoteID).map (fun q => (q.feeAmount, q.feeGateway, q.consumedBy)) =
      some (5, "bca", some (.tx txID)) ∧
    getSystemAccountID env .fee "bca" "IDR" = .ok 92 ∧
    ¬ ChargesFee (w.db.entries.filter (·.transactionID = txID)) 92 5 (amount - 5)

instance (w : World) (txID quoteID : UUID) (amount : Decimal) : Decidable (Uncharged w txID quoteID amount) :=
  inferInstanceAs (Decidable (_ ∧ _ ∧ _ ∧ _))

set_option maxRecDepth 20000 in
/-- **Three ways to use up a quote without the fee coming out of the amount.** A top-up
whose fee is added on top keeps its whole amount; a top-up whose peek failed resolved no
fee account and credits the whole amount; a release from escrow to the fee account
itself has only two accounts left and credits the whole amount to it. -/
theorem consumed_quote_uncharged :
    Uncharged (run (World.peekStep env) (.idle quotes 0)
      (peekCall 1 101 topupOnTop false ++ [.ledger (.advance 1)])) 101 7 100 ∧
    Uncharged (run (World.peekStep env) (.idle quotes 0)
      (peekCall 1 101 quotedTopup true ++ [.ledger (.advance 1)])) 101 7 100 ∧
    Uncharged (run (World.peekStep env) (.idle quotes 0)
      (escrowed ++ peekCall 3 103 (quotedRelease "92") false ++ [.ledger (.advance 3)])) 103 8 30 := by
  refine ⟨?_, ?_, ?_⟩
  · decide +kernel
  · decide +kernel
  · decide +kernel

end Seev.Ledger
