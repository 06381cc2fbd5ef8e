import Seev.Ledger.Proof.Atomicity

/-!
# The amount of a header and the amount that moved

The header of a transaction has the amount of its command, and its entries are those that the processor built.
Every processor but `reversal` builds them from the same amount; a reversal takes the entries of its original,
and nothing compares the amount of its command with them.

* `debits_of_built`: what the processors other than `reversal` debit.
* `Posts.reverses`: a reversal moves what its original moved.
* `header_states_amount`: the header of every posted transaction states the amount that moved, in every run whose
  reversals name the amount of their original.
-/

namespace Seev.Ledger

open Lib

variable {E : Env} {w : World} {s : Session} {db db' : Db} {t : UUID} {rc : ResolvedCommand} {d : Direction}
  {es : List EntryInstruction} {bal bal₀ : Balances}

/-- The fee that a top-up charges on top of its amount. -/
def feeOnTop (E : Env) (rc : ResolvedCommand) : Decimal :=
  if rc.type = .moneyIn ∧ metaStringD rc.metadata .feeApplication = "added_on_top" then
    ((hasFee E rc).map Prod.snd).getD 0
  else 0

/-- The total of the entries of a transaction on one side. -/
def Db.moved (db : Db) (t : UUID) (d : Direction) : ℤ :=
  total d ((db.entries.filter (·.transactionID = t)).map LedgerEntry.posting)

/-! ## What the processors build -/

theorem movement_debits {dn cn : String} (h : movement dn cn rc = .ok es) :
    total .debit (es.map EntryInstruction.posting) = rc.amount := by
  unfold movement at h
  obtain ⟨a, -, h⟩ := bind_eq_ok.1 h
  obtain ⟨b, -, h⟩ := bind_eq_ok.1 h
  cases h
  simp [EntryInstruction.posting, Posting.side]

theorem movementWithFee_debits {dn cn fn : String}
    (h : movementWithFee E dn cn fn rc = .ok es) :
    total .debit (es.map EntryInstruction.posting) = rc.amount := by
  unfold movementWithFee at h
  obtain ⟨a, -, h⟩ := bind_eq_ok.1 h
  obtain ⟨b, -, h⟩ := bind_eq_ok.1 h
  split at h <;> cases h <;> simp [EntryInstruction.posting, Posting.side]

theorem transferPocket_debits (h : (transferPocket E).buildEntries db rc bal = .ok es) :
    total .debit (es.map EntryInstruction.posting) = rc.amount := by
  simp only [transferPocket] at h
  obtain ⟨a, -, h⟩ := bind_eq_ok.1 h
  obtain ⟨b, -, h⟩ := bind_eq_ok.1 h
  split at h <;> cases h <;> simp [EntryInstruction.posting, Posting.side]

/-- A top-up with the fee on top has checked that its total is the amount with the fee. -/
theorem moneyIn_debits {db₀ : Db} (ht : rc.type = .moneyIn)
    (hv : (moneyIn E).validate db₀ rc bal₀ = .ok ()) (h : (moneyIn E).buildEntries db rc bal = .ok es) :
    total .debit (es.map EntryInstruction.posting) = rc.amount + feeOnTop E rc := by
  simp only [moneyIn] at h hv
  obtain ⟨a, -, h⟩ := bind_eq_ok.1 h
  obtain ⟨b, -, h⟩ := bind_eq_ok.1 h
  obtain ⟨_, -, hv⟩ := bind_eq_ok.1 hv
  obtain ⟨_, -, hv⟩ := bind_eq_ok.1 hv
  by_cases htop : metaStringD rc.metadata .feeApplication = "added_on_top"
  · have hfee : feeOnTop E rc = ((hasFee E rc).map Prod.snd).getD 0 := if_pos ⟨ht, htop⟩
    rw [hfee]
    cases hf : hasFee E rc with
    | none =>
      rw [hf] at h
      cases h
      simp [EntryInstruction.posting, Posting.side]
    | some p =>
      rw [hf] at h hv
      simp only [htop, if_true] at h hv
      cases hd : metaDecimal E.text rc.metadata .totalDebit with
      | error e =>
        rw [hd] at hv
        cases hv
      | ok totalDebit =>
        rw [hd] at h hv
        obtain ⟨heq, -⟩ := guard_eq_ok.1 hv
        cases h
        simpa [EntryInstruction.posting, Posting.side] using not_not.1 heq
  · have hfee : feeOnTop E rc = 0 := if_neg fun hc => htop hc.2
    rw [hfee, add_zero]
    cases hf : hasFee E rc with
    | none =>
      rw [hf] at h
      cases h
      simp [EntryInstruction.posting, Posting.side]
    | some p =>
      rw [hf] at h
      simp only [htop, if_false] at h
      cases h
      simp [EntryInstruction.posting, Posting.side]

theorem amount_debits {ty : TxType} {p : TxProcessor} (hp : registry E ty = .ok p) (ht : ty ≠ .reversal)
    (hin : ty ≠ .moneyIn) (h : p.buildEntries db rc bal = .ok es) :
    total .debit (es.map EntryInstruction.posting) = rc.amount := by
  cases ty <;> simp only [registry, Except.ok.injEq, reduceCtorEq] at hp <;> subst hp
  case moneyIn => exact absurd rfl hin
  case transferPocket => exact transferPocket_debits h
  case reversal => exact absurd rfl ht
  all_goals first
    | exact movement_debits h
    | exact movementWithFee_debits h

/-- **What a processor other than `reversal` debits** is the amount, with the fee on top. -/
theorem debits_of_built {p : TxProcessor} (hp : registry E rc.type = .ok p) (ht : rc.type ≠ .reversal) {db₀ : Db}
    (hv : p.validate db₀ rc bal₀ = .ok ()) (h : p.buildEntries db rc bal = .ok es) :
    total .debit (es.map EntryInstruction.posting) = rc.amount + feeOnTop E rc := by
  by_cases hin : rc.type = .moneyIn
  · rw [hin] at hp
    cases hp
    exact moneyIn_debits hin hv h
  · have hfee : feeOnTop E rc = 0 := if_neg fun hc => hin hc.1
    rw [hfee, add_zero]
    exact amount_debits hp ht hin h

/-- A reversal debits what its original credited. -/
theorem reversal_debits (h : (reversal E).buildEntries db rc bal = .ok es) :
    total .debit (es.map EntryInstruction.posting) = (db.moved rc.referenceID .credit : ℤ) := by
  simp only [reversal] at h
  obtain ⟨-, h⟩ := guard_eq_ok.1 h
  split at h
  · cases h
  cases h
  have hside : ∀ e : LedgerEntry, ((reversedEntry E e).posting).side .debit = ((e.posting).side .credit : ℤ) := by
    intro e
    cases hd : e.direction <;>
      simp [reversedEntry, EntryInstruction.posting, LedgerEntry.posting, Posting.side, Direction.swap, hd]
  have hperm : (getEntries db rc.referenceID).Perm (db.entries.filter (·.transactionID = rc.referenceID)) :=
    List.perm_insertionSort _ _
  have hsum : db.moved rc.referenceID .credit =
      ((getEntries db rc.referenceID).map fun e => e.posting.side .credit).sum := by
    rw [Db.moved, total, List.map_map]
    exact ((hperm.map _).sum_eq).symm
  have hcast := map_list_sum (Int.castAddHom ℚ)
    ((getEntries db rc.referenceID).map fun e => e.posting.side .credit)
  rw [hsum, total, List.map_map, List.map_map]
  refine Eq.trans ?_ hcast.symm
  rw [List.map_map]
  exact congrArg List.sum (List.map_congr_left fun e _ => hside e)

/-! ## What a posting moves -/

theorem Posts.moved_self (hdb : DbOK E db) (h : Posts E db s db') :
    db'.moved s.txID d = total d (s.writes.entries.map LedgerEntry.posting) := by
  rw [Db.moved, h.filter_entries_self hdb]

theorem Posts.moved_other (h : Posts E db s db') (ht : t ≠ s.txID) : db'.moved t d = db.moved t d := by
  rw [Db.moved, h.filter_entries ht, Db.moved]

/-- A posting moves on both sides what its entries debit. -/
theorem Posts.moved_eq (hdb : DbOK E db) (h : Posts E db s db') :
    ((db'.moved s.txID d : ℤ) : ℚ) = total .debit (s.built.map EntryInstruction.posting) := by
  obtain ⟨db₀, nb, hrows⟩ := h.rows
  have htotal := total_of_rowFor (hrows.rowOf.imp fun _ _ hr => hr.rowFor) .debit
  rw [htotal, h.moved_self hdb]
  cases d with
  | debit => rfl
  | credit => rw [hrows.balanced]

theorem Posts.moves (hdb : DbOK E db) (h : Posts E db s db') (ht : s.rc.type ≠ .reversal) :
    ((db'.moved s.txID d : ℤ) : ℚ) = s.rc.amount + feeOnTop E s.rc := by
  obtain ⟨p, db₀, hreg, hbuilt, -⟩ := h.built.built
  obtain ⟨q, db₁, hreg', hval⟩ := h.checked.validated
  rw [hreg, Except.ok.injEq] at hreg'
  subst hreg'
  rw [h.moved_eq hdb]
  exact debits_of_built hreg ht hval hbuilt

/-- **A reversal moves what its original moved.** -/
theorem Posts.reverses (hdb : DbOK E db) (h : Posts E db s db') (ht : s.rc.type = .reversal) :
    db'.moved s.txID d = db.moved s.rc.referenceID .credit := by
  obtain ⟨p, db₀, hreg, hbuilt, hsame⟩ := h.built.built
  rw [ht] at hreg
  cases hreg
  have hentries : db₀.moved s.rc.referenceID .credit = db.moved s.rc.referenceID .credit := by
    have hperm : ∀ db : Db, (getEntries db s.rc.referenceID).Perm
        (db.entries.filter (·.transactionID = s.rc.referenceID)) := fun _ => List.perm_insertionSort _ _
    have h₀ := hperm db₀
    rw [hsame ht] at h₀
    rw [Db.moved, Db.moved, total, total]
    exact (((h₀.symm.trans (hperm db)).map LedgerEntry.posting).map _).sum_eq
  have hdebit := reversal_debits hbuilt
  rw [hentries, ← h.moved_eq (d := d) hdb] at hdebit
  exact_mod_cast hdebit

/-! ## Runs -/

/-- A reversal names the amount of its original. -/
def ReversesInFull (w : World) : Event → Prop
  | .handle _ _ cmd =>
    cmd.type = .reversal → ∀ h, w.db.txs.lookup cmd.referenceID = some h → (h.amount : ℚ) = cmd.amount
  | _ => True

/-- The header of the original of a reversal has the amount of its command. -/
def NamesOriginal (db : Db) (rc : ResolvedCommand) : Prop :=
  rc.type = .reversal → ∃ h, db.txs.lookup rc.referenceID = some h ∧ (h.amount : ℚ) = rc.amount

/-- What the posted transaction `p` moved, on both sides. -/
def StatesMoved (E : Env) (w : World) (p : UUID × ResolvedCommand) : Prop :=
  ∃ o : ResolvedCommand, o.amount = p.2.amount ∧ (∀ d, ((w.db.moved p.1 d : ℤ) : ℚ) = o.amount + feeOnTop E o) ∧
    (o = p.2 ∧ p.2.type ≠ .reversal ∨ (p.2.referenceID, o) ∈ w.posted ∧ p.2.type = .reversal)

structure AmountsOK (E : Env) (w : World) : Prop where
  sessions : ∀ sid s, w.sessions sid = some s → NamesOriginal w.db s.rc
  posted : ∀ p ∈ w.posted, NamesOriginal w.db p.2 ∧ StatesMoved E w p
  events : ∀ e ∈ w.db.outbox, ∀ agg rev orig amount c, e = .transactionReversed agg rev orig amount c →
    ∃ h, w.db.txs.lookup orig = some h ∧ (h.amount : ℚ) = amount

/-- Headers stay and keep their amount. -/
def HeadersKept (db db' : Db) : Prop :=
  ∀ t h, db.txs.lookup t = some h → ∃ h', db'.txs.lookup t = some h' ∧ h'.amount = h.amount

theorem HeadersKept.amount (h : HeadersKept db db') {q : ℚ}
    (ht : ∃ r, db.txs.lookup t = some r ∧ (r.amount : ℚ) = q) :
    ∃ r, db'.txs.lookup t = some r ∧ (r.amount : ℚ) = q := by
  obtain ⟨r, hr, hamount⟩ := ht
  obtain ⟨r', hr', heq⟩ := h _ r hr
  exact ⟨r', hr', by rw [heq, hamount]⟩

theorem HeadersKept.names (h : HeadersKept db db') (hn : NamesOriginal db rc) : NamesOriginal db' rc :=
  fun ht => h.amount (hn ht)

/-- An accepted reversal has an original. -/
theorem accepted_names {now : ℕ} {cmd : Command} (hdb : DbOK E db) (hprep : prepare E db now cmd = .ok rc)
    (hc : cmd.type = .reversal → ∀ h, db.txs.lookup cmd.referenceID = some h → (h.amount : ℚ) = cmd.amount) :
    NamesOriginal db rc := by
  obtain ⟨p, m, acc, c, hreg, -, -, hacc, rfl⟩ := (prepare_ok hprep).resolved
  intro ht
  have ht : cmd.type = .reversal := ht
  rw [ht] at hreg
  cases hreg
  simp only [reversal] at hacc
  obtain ⟨-, hacc⟩ := guard_eq_ok.1 hacc
  cases hids : getAccountIDs db cmd.referenceID with
  | nil =>
    rw [hids] at hacc
    cases hacc
  | cons a rest =>
    have hmem : a ∈ getAccountIDs db cmd.referenceID := by rw [hids]; exact List.mem_cons_self
    obtain ⟨e, he, -⟩ := List.mem_map.1 (List.mem_dedup.1 hmem)
    obtain ⟨he, htx⟩ := List.mem_filter.1 he
    have hown := hdb.owned e he
    rw [of_decide_eq_true htx, ← AList.lookup_isSome] at hown
    obtain ⟨h, hh⟩ := Option.isSome_iff_exists.1 hown
    exact ⟨h, hh, hc ht h hh⟩

theorem AmountsOK.step_sessions {ev : Event} (hw : WorldOK E w) (h : AmountsOK E w) (hev : ReversesInFull w ev)
    (hkept : HeadersKept w.db (w.step E ev).db) :
    ∀ sid s, (w.step E ev).sessions sid = some s → NamesOriginal (w.step E ev).db s.rc := by
  intro sid s' hs'
  refine hkept.names ?_
  rcases Ledger.step_sessions hs' with ⟨s, hs, m, hrc, -⟩ | ⟨txID, cmd, rfl, -, hprep⟩
  · rw [hrc]
    exact h.sessions sid s hs
  · exact accepted_names hw.db hprep hev

/-- Only a reversal announces a reversed transaction. -/
theorem reversed_event {ty : TxType} {p : TxProcessor} (hp : registry E ty = .ok p) {txID : UUID}
    {agg rev orig : UUID} {amount : Decimal} {c : Currency}
    (h : OutboxEvent.transactionReversed agg rev orig amount c ∈ p.outboxEvents rc txID es) :
    ty = .reversal ∧ orig = rc.referenceID ∧ amount = rc.amount := by
  cases ty <;> simp only [registry, Except.ok.injEq, reduceCtorEq] at hp <;> subst hp
  case reversal =>
    rcases List.mem_cons.1 h with h | h
    · cases h
    · cases List.mem_singleton.1 h
      exact ⟨rfl, rfl, rfl⟩
  all_goals cases List.mem_singleton.1 h

/-- A transaction that posts has moved what its header states. -/
theorem AmountsOK.states_posted {w' : World} {sid : SessionID} (hw : WorldOK E w)
    (hh : HistoryOK E (fun _ => True) w)
    (h : AmountsOK E w) (hs : w.sessions sid = some s) (hposts : Posts E w.db s w'.db)
    (hposted : w'.posted = w.posted ++ [(s.txID, s.rc)]) : StatesMoved E w' (s.txID, s.rc) := by
  by_cases ht : s.rc.type = .reversal
  · -- the original is a posted transaction that is no reversal itself
    obtain ⟨r, hr, hstatus, hnot, -⟩ := hposts.checked.original (.inl (by rw [ht]; rfl))
    obtain ⟨o, ho, htype, hamount⟩ := hh.posted_of_header hr hstatus.symm
    obtain ⟨r', hr', hnamed⟩ := h.sessions sid s hs ht
    rw [hr, Option.some.injEq] at hr'
    subst hr'
    obtain ⟨-, o', ho', hm, hcase⟩ := h.posted _ ho
    have hno : o.type ≠ .reversal := fun hrev => hnot ht (htype.trans hrev)
    obtain rfl : o' = o := (hcase.resolve_right fun hc => hno hc.2).1
    refine ⟨o', hamount.symm.trans hnamed, fun d => ?_, .inr ⟨?_, ht⟩⟩
    · rw [hposts.reverses hw.db ht]
      exact hm .credit
    · rw [hposted]
      exact List.mem_append_left _ ho
  · exact ⟨s.rc, rfl, fun d => hposts.moves hw.db ht, .inl ⟨rfl, ht⟩⟩

theorem AmountsOK.step {ev : Event} (hw : WorldOK E w) (hh : HistoryOK E (fun _ => True) w) (h : AmountsOK E w)
    (hev : ReversesInFull w ev) : AmountsOK E (w.step E ev) := by
  cases step_effect hw ev with
  | quiet hdb hposted =>
    have hkept : HeadersKept w.db (w.step E ev).db := by
      rw [hdb]
      exact fun t r hr => ⟨r, hr, rfl⟩
    refine ⟨h.step_sessions hw hev hkept, fun p hp => ?_, by rw [hdb]; exact h.events⟩
    unfold StatesMoved
    rw [hdb, hposted]
    exact h.posted p (hposted ▸ hp)
  | rejects sid s _ _ hrejects hposted _ =>
    obtain ⟨hd, htxs, -, -⟩ := hrejects.header
    have hkept : HeadersKept w.db (w.step E ev).db := by
      intro t r hr
      have hne : t ≠ s.txID := fun heq => hrejects.fresh (heq ▸ AList.lookup_isSome.1 (by simp [hr]))
      exact ⟨r, by rw [htxs, AList.lookup_insert_ne hne, hr], rfl⟩
    refine ⟨h.step_sessions hw hev hkept, fun p hp => ?_, fun e he agg rev orig amount c heq => ?_⟩
    · obtain ⟨hn, o, ho, hm, hcase⟩ := h.posted p (hposted ▸ hp)
      refine ⟨hkept.names hn, o, ho, fun d => ?_, by rwa [hposted]⟩
      rw [Db.moved, hrejects.entries]
      exact hm d
    · rw [hrejects.outbox] at he
      exact hkept.amount (h.events e he agg rev orig amount c heq)
  | posts sid s hs _ hposts hposted _ _ =>
    have hkept : HeadersKept w.db (w.step E ev).db := by
      intro t r hr
      obtain ⟨r', hr', hlater⟩ := hposts.lookup_later hr
      exact ⟨r', hr', hlater.amount⟩
    have hfresh : ∀ p ∈ w.posted, p.1 ≠ s.txID := fun p hp heq => by
      obtain ⟨r, hr, -⟩ := (hh.recorded p hp).header
      exact hposts.fresh (heq ▸ AList.lookup_isSome.1 (by simp [hr]))
    refine ⟨h.step_sessions hw hev hkept, fun p hp => ?_, fun e he agg rev orig amount c heq => ?_⟩
    · rw [hposted, List.mem_append] at hp
      rcases hp with hp | hp
      · obtain ⟨hn, o, ho, hm, hcase⟩ := h.posted p hp
        refine ⟨hkept.names hn, o, ho, fun d => ?_, ?_⟩
        · rw [hposts.moved_other (hfresh p hp)]
          exact hm d
        · rw [hposted]
          exact hcase.imp_right fun hc => ⟨List.mem_append_left _ hc.1, hc.2⟩
      · rw [List.mem_singleton.1 hp]
        exact ⟨hkept.names (h.sessions sid s hs), h.states_posted hw hh hs hposts hposted⟩
    · obtain ⟨p, hreg, hout⟩ := hposts.outbox
      rw [hout, List.mem_append] at he
      rcases he with he | he
      · exact hkept.amount (h.events e he agg rev orig amount c heq)
      · rw [heq] at he
        obtain ⟨ht, rfl, rfl⟩ := reversed_event hreg he
        exact hkept.names (h.sessions sid s hs) ht

/-- **The header of every posted transaction states the amount that moved**, in every run of a ledger whose
reversals name the amount of their original: its debits are the amount of the header, or that and the fee
which a top-up charged on top; a reversal has the amount of its original, and so has the event that announces
it. -/
theorem header_states_amount (E : Env) (db : Db) (now : ℕ) (hdb : DbOK E db) (hempty : db.txs = ∅)
    (hout : db.outbox = []) (evs : List Event) (hevs : Along (World.step E) ReversesInFull (.idle db now) evs) :
    let w := run (World.step E) (.idle db now) evs
    (∀ t h, w.db.txs.lookup t = some h → h.status = .posted ∨ h.closedByTxID.isSome →
      ∃ rc o, (t, rc) ∈ w.posted ∧ h.type = rc.type ∧
        (o = rc ∨ (rc.referenceID, o) ∈ w.posted ∧ rc.type = .reversal) ∧
        ((w.db.moved t .debit : ℤ) : ℚ) = h.amount + feeOnTop E o ∧
        (h.type = .reversal → ∃ h', w.db.txs.lookup rc.referenceID = some h' ∧ h'.amount = h.amount)) ∧
    ∀ agg rev orig amount c, OutboxEvent.transactionReversed agg rev orig amount c ∈ w.db.outbox →
      ∃ h', w.db.txs.lookup orig = some h' ∧ (h'.amount : ℚ) = amount := by
  intro w
  have hidle : AmountsOK E (.idle db now) := by
    refine ⟨fun sid s hs => ?_, fun p hp => ?_, fun e he => ?_⟩
    · simp [World.idle] at hs
    · simp [World.idle] at hp
    · simp [World.idle, hout] at he
  obtain ⟨-, hh, h⟩ : WorldOK E w ∧ HistoryOK E (fun _ => True) w ∧ AmountsOK E w :=
    run_inv_of_along (I := fun w => WorldOK E w ∧ HistoryOK E (fun _ => True) w ∧ AmountsOK E w)
      (fun w ev hw hev => ⟨step_ok hw.1 ev, hw.2.1.step hw.1 (by cases ev <;> trivial),
        hw.2.2.step hw.1 hw.2.1 hev⟩)
      ⟨idle_ok hdb, history_idle hempty now, hidle⟩ hevs
  refine ⟨fun t r hr hst => ?_, fun agg rev orig amount c he => h.events _ he agg rev orig amount c rfl⟩
  obtain ⟨rc, hrc, htype, hamount⟩ := hh.posted_of_header hr hst
  obtain ⟨hn, o, ho, hm, hcase⟩ := h.posted _ hrc
  refine ⟨rc, o, hrc, htype, hcase.imp (fun hc => hc.1) id, ?_, fun ht => ?_⟩
  · rw [hm .debit, ho, hamount]
  · obtain ⟨r', hr', heq⟩ := hn (htype.symm.trans ht)
    exact ⟨r', hr', by exact_mod_cast heq.trans hamount.symm⟩

instance (w : World) : (ev : Event) → Decidable (ReversesInFull w ev)
  | .handle _ _ cmd => inferInstanceAs (Decidable (_ → ∀ h ∈ w.db.txs.lookup cmd.referenceID, _))
  | .advance _ | .fail _ _ | .tick _ => .isTrue trivial

/-! ## A reversal of a part -/

/-- A top-up of 100 and its reversal, under the amount that the caller gives. -/
def Sample.reversedTopup (amount : Decimal) : List Event :=
  call 1 101 (command "k1" .moneyIn 100 UUID.nil) ++ call 2 102 (command "k2" .reversal amount 101)

set_option maxRecDepth 20000 in
theorem header_states_amount_reversal :
    Along (World.step Sample.env) ReversesInFull (.idle Sample.zeroed 0) (Sample.reversedTopup 100) ∧
      ∃ rc o, (102, rc) ∈ (run (World.step Sample.env) (.idle Sample.zeroed 0)
        (Sample.reversedTopup 100)).posted ∧
        (((run (World.step Sample.env) (.idle Sample.zeroed 0) (Sample.reversedTopup 100)).db.moved 102
          .debit : ℤ) :
          ℚ) = (100 : ℤ) + feeOnTop Sample.env o := by
  have hfull : Along (World.step Sample.env) ReversesInFull (.idle Sample.zeroed 0)
      (Sample.reversedTopup 100) := by
    decide +kernel
  have hrow : ((run (World.step Sample.env) (.idle Sample.zeroed 0)
    (Sample.reversedTopup 100)).db.txs.lookup 102).map
      (fun r => (r.status, r.amount)) = some (.posted, 100) := by decide +kernel
  obtain ⟨r, hr, hpair⟩ := Option.map_eq_some_iff.1 hrow
  obtain ⟨hst, hamount⟩ := Prod.mk.inj hpair
  obtain ⟨rc, o, hrc, -, -, hm, -⟩ := (header_states_amount Sample.env Sample.zeroed 0 Sample.zeroed_ok rfl rfl
    (Sample.reversedTopup 100) hfull).1 102 r hr (.inl hst)
  exact ⟨hfull, rc, o, hrc, by rw [hm, hamount]⟩

set_option maxRecDepth 20000 in
/-- **A header that does not state what moved**: the reversal of a top-up of 100 under the amount 1 posts,
moves 100, and says 1 in its header and in its event. -/
theorem reversal_states_other_amount :
    let w := run (World.step Sample.env) (.idle Sample.zeroed 0) (Sample.reversedTopup 1)
    ((w.db.txs.lookup 102).map fun r => (r.status, r.amount)) = some (.posted, 1) ∧ w.db.moved 102 .debit = 100 ∧
      OutboxEvent.transactionReversed 101 102 101 1 "IDR" ∈ w.db.outbox := by
  decide +kernel

end Seev.Ledger
