import Mathlib.Data.Int.Cast.Lemmas
import Seev.Ledger.Proof.Balances

/-!
# What `InsertEntries` inserts

* `insertEntries_ok`: the rows are the instructions, with exact amounts, positive,
  balanced, on accounts of the transaction's currency, and at most one row for each
  account and side.
* `net_rows_bounds`: hence the net effect of a transaction on an account fits a
  `BIGINT`, and no cast on the way can wrap.
-/

namespace Seev.Ledger

open Lib

variable {E : Env} {db : Db} {c : Currency} {txID : UUID} {entries : List EntryInstruction}
  {nb : UUID → Option Decimal} {rows : List LedgerEntry} {e : EntryInstruction} {r : LedgerEntry}

/-- The row of an instruction, with the balance after it. -/
structure RowOf (txID : UUID) (newBalances : UUID → Option Decimal) (e : EntryInstruction)
    (r : LedgerEntry) : Prop where
  tx : r.transactionID = txID
  account : r.accountID = e.accountID
  direction : r.direction = e.direction
  amount : e.amount = (r.amount : ℚ)
  pos : 0 < r.amount
  range : Decimal.inInt64 r.amount = true
  after : (newBalances e.accountID).getD 0 = (r.balanceAfter : ℚ)
  afterRange : Decimal.inInt64 r.balanceAfter = true

/-- An entry as built and its row. -/
structure RowFor (txID : UUID) (e : EntryInstruction) (r : LedgerEntry) : Prop where
  tx : r.transactionID = txID
  account : r.accountID = e.accountID
  direction : r.direction = e.direction
  amount : (r.amount : ℚ) = e.amount
  pos : 0 < r.amount

theorem RowOf.rowFor (h : RowOf txID nb e r) : RowFor txID e r :=
  ⟨h.tx, h.account, h.direction, h.amount.symm, h.pos⟩

theorem postingEntry_ok {id : UUID} (h : postingEntry txID nb id e = .ok r) : RowOf txID nb e r := by
  unfold postingEntry at h
  split at h
  · rename_i amount balanceAfter ha hb
    split at h
    · cases h
    · rename_i hpos
      cases h
      obtain ⟨ha, hra⟩ := toBigint_eq_some.1 ha
      obtain ⟨hb, hrb⟩ := toBigint_eq_some.1 hb
      exact ⟨rfl, rfl, rfl, ha, not_le.1 hpos, hra, hb, hrb⟩
  · cases h

/-- The rows of one transaction. -/
structure EntriesOK (E : Env) (db : Db) (c : Currency) (txID : UUID) (entries : List EntryInstruction)
    (newBalances : UUID → Option Decimal) (rows : List LedgerEntry) : Prop where
  rowOf : List.Forall₂ (RowOf txID newBalances) entries rows
  balanced : total .debit (rows.map LedgerEntry.posting) = total .credit (rows.map LedgerEntry.posting)
  currency : ∀ r ∈ rows, (E.accounts.byID r.accountID).map AccountRow.currency = some c
  nodup : (rows.map fun r => (r.accountID, r.direction)).Nodup
  fresh : rows ≠ [] → ∀ e ∈ db.entries, e.transactionID ≠ txID

theorem postLedgerEntriesBulk_ok (h : postLedgerEntriesBulk E db c txID entries nb = .ok rows) :
    EntriesOK E db c txID entries nb rows := by
  unfold postLedgerEntriesBulk at h
  obtain ⟨hfresh, h⟩ := guard_eq_ok.1 h
  obtain ⟨rows', hmap, h⟩ := bind_eq_ok.1 h
  obtain ⟨-, h⟩ := guard_eq_ok.1 h
  obtain ⟨hbal, h⟩ := guard_eq_ok.1 h
  obtain ⟨hcur, h⟩ := guard_eq_ok.1 h
  obtain ⟨hnodup, h⟩ := guard_eq_ok.1 h
  cases h
  refine ⟨?_, not_not.1 hbal, ?_, by simpa using hnodup, ?_⟩
  · have hall := (mapM_eq_ok.1 hmap).imp fun e r her => postingEntry_ok her
    have := (List.forall₂_map_left_iff (f := Prod.fst)).2 hall
    rwa [List.zipIdx_map_fst] at this
  · intro r hr
    have hall := List.all_eq_true.1 (by simpa using hcur) r hr
    simpa [entryAccountOK] using hall
  · intro _ e he htx
    exact hfresh (List.any_eq_true.2 ⟨e, he, by simpa using htx⟩)

/-- **`InsertEntries` inserts exactly the instructions.** -/
theorem insertEntries_ok
    (h : insertEntries E db c txID entries nb = .ok rows) : EntriesOK E db c txID entries nb rows := by
  unfold insertEntries at h
  split at h
  · rename_i hnil
    rw [List.isEmpty_iff] at hnil
    cases h
    subst hnil
    exact ⟨.nil, rfl, by simp, by simp, by simp⟩
  · split at h
    · cases h
    · exact postLedgerEntriesBulk_ok (inContext_eq_ok.1 h)

/-- The rows carry the amounts of the instructions. -/
theorem postings_of_rowFor (h : List.Forall₂ (RowFor txID) entries rows) : entries.map EntryInstruction.posting =
      (rows.map LedgerEntry.posting).map (Posting.map (Int.castAddHom ℚ)) := by
  induction h with
  | nil => rfl
  | cons her _ ih =>
    simp only [List.map_cons, ih]
    congr 1
    simp [EntryInstruction.posting, LedgerEntry.posting, Posting.map, her.account, her.direction, her.amount]

theorem net_of_rowFor (h : List.Forall₂ (RowFor txID) entries rows) (a : UUID) :
    net (entries.map EntryInstruction.posting) a = (net (rows.map LedgerEntry.posting) a : ℤ) := by
  rw [postings_of_rowFor h, net_map]
  rfl

theorem total_of_rowFor (h : List.Forall₂ (RowFor txID) entries rows) (d : Direction) :
    total d (entries.map EntryInstruction.posting) = (total d (rows.map LedgerEntry.posting) : ℤ) := by
  rw [postings_of_rowFor h, total_map]
  rfl

namespace EntriesOK

theorem net_entries (h : EntriesOK E db c txID entries nb rows) (a : UUID) :
    net (entries.map EntryInstruction.posting) a = (net (rows.map LedgerEntry.posting) a : ℤ) :=
  net_of_rowFor (h.rowOf.imp fun _ _ hr => hr.rowFor) a

theorem row_mem (h : EntriesOK E db c txID entries nb rows) (hr : r ∈ rows) :
    ∃ e ∈ entries, RowOf txID nb e r := forall₂_mem_right h.rowOf hr

theorem tx_eq (h : EntriesOK E db c txID entries nb rows) (hr : r ∈ rows) :
    r.transactionID = txID := by
  obtain ⟨_, _, hrow⟩ := h.row_mem hr
  exact hrow.tx

theorem entry_mem (h : EntriesOK E db c txID entries nb rows) (he : e ∈ entries) :
    ∃ r ∈ rows, RowOf txID nb e r := forall₂_mem_right h.rowOf.flip he

end EntriesOK

theorem mem_getEntries {id : UUID} {e : LedgerEntry} :
    e ∈ getEntries db id ↔ e ∈ db.entries ∧ e.transactionID = id := by
  rw [getEntries, (List.perm_insertionSort _ _).mem_iff, List.mem_filter, decide_eq_true_iff]

/-- One side of one account, in rows with at most one row for each of them. -/
theorem total_side_bounds (hpos : ∀ r ∈ rows, 0 < r.amount) (hrange : ∀ r ∈ rows, Decimal.inInt64 r.amount = true)
    (hnd : (rows.map fun r => (r.accountID, r.direction)).Nodup) (a : UUID) (d : Direction) :
    (0 ≤ total d ((rows.map LedgerEntry.posting).filter (·.account = a)) ∧
      total d ((rows.map LedgerEntry.posting).filter (·.account = a)) < 2 ^ 63) ∧
    ((a, d) ∉ rows.map (fun r => (r.accountID, r.direction)) →
      total d ((rows.map LedgerEntry.posting).filter (·.account = a)) = 0) := by
  induction rows with
  | nil => simp
  | cons r rows ih =>
    rw [List.map_cons, List.nodup_cons] at hnd
    obtain ⟨⟨h0, hlt⟩, hnone⟩ := ih (fun r' h => hpos r' (List.mem_cons_of_mem _ h))
      (fun r' h => hrange r' (List.mem_cons_of_mem _ h)) hnd.2
    have hr0 := hpos r List.mem_cons_self
    have hrr := (inInt64_iff.1 (hrange r List.mem_cons_self)).2
    by_cases ha : r.accountID = a
    · by_cases hd : r.direction = d
      · -- this row is the one row of the side, the others add nothing
        have htail := hnone (by rw [← ha, ← hd]; exact hnd.1)
        simp [LedgerEntry.posting, ha, hd, Posting.side, htail]
        omega
      · have hne : ¬ d = r.direction := fun h => hd h.symm
        have hrest := And.intro (And.intro h0 hlt) hnone
        simpa [LedgerEntry.posting, ha, hd, hne, Posting.side] using hrest
    · have hne : ¬ a = r.accountID := fun h => ha h.symm
      have hrest := And.intro (And.intro h0 hlt) hnone
      simpa [LedgerEntry.posting, ha, hne] using hrest

/-- **The net effect of a transaction on an account fits a `BIGINT`.** -/
theorem net_rows_bounds (h : EntriesOK E db c txID entries nb rows) (a : UUID) :
    Decimal.inInt64 (net (rows.map LedgerEntry.posting) a) = true := by
  have hpos : ∀ r ∈ rows, 0 < r.amount := fun r hr => by
    obtain ⟨e, -, her⟩ := h.row_mem hr
    exact her.pos
  have hrange : ∀ r ∈ rows, Decimal.inInt64 r.amount = true := fun r hr => by
    obtain ⟨e, -, her⟩ := h.row_mem hr
    exact her.range
  have hc := (total_side_bounds hpos hrange h.nodup a .credit).1
  have hd := (total_side_bounds hpos hrange h.nodup a .debit).1
  rw [inInt64_iff, net_eq_sides]
  omega

end Seev.Ledger
