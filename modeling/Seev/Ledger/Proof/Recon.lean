import Seev.Ledger.Recon
import Seev.Lib.Result
import Seev.Lib.Rows

/-!
# What a reconciliation accounts for

The items of a batch have distinct references. As long as the transactions of the report date have them too,
step A finds the one transaction of a row and step B adds one item for every other, so that no transaction is
lost and none is counted twice.

* `importBatch_ok`: a report that passes the checks is imported, as the matched rows and the unclaimed
  transactions.
* `import_accounts`: each transaction and each row has exactly one item, and the matched rows are those whose
  amounts agree.
* `shared_reference_refused`: two transactions that share a reference outside the report make the import fail.
-/

namespace Seev.Ledger.Recon

open Lib

variable {J : JoinRow} {gateway createdBy : String} {txs : List Tx} {createdOn : UUID → ℕ} {reportDate : ℕ}
variable {rows : List ReconImportRow} {items : List ReconItem}

/-- A report that passes the checks of `ImportBatch`. -/
structure Valid (gateway : String) (rows : List ReconImportRow) (createdBy : String) : Prop where
  gateway : gateway ∈ validGateways
  some_row : rows ≠ []
  cap : rows.length ≤ maxImportRows
  createdBy : createdBy ≠ ""
  refs : ∀ r ∈ rows, r.externalRef ≠ ""
  nodup : (rows.map (·.externalRef)).Nodup
  amounts : ∀ r ∈ rows, 0 < r.amount ∧ r.amount.toBigint.isSome

/-- A transaction of the report date shares its reference with no other posted one of the gateway and the
date, nor, if the report has the reference, with one of another date. -/
def OwnReference (gateway : String) (txs : List Tx) (createdOn : UUID → ℕ) (reportDate : ℕ)
    (rows : List ReconImportRow) : Prop :=
  ∀ t ∈ txs, reportable gateway createdOn reportDate t = true → ∀ t' ∈ txs, t'.2.gateway = some gateway →
    t'.2.status = .posted → t'.2.externalRef = t.2.externalRef →
      createdOn t'.1 = reportDate ∨ (∃ r ∈ rows, some r.externalRef = t.2.externalRef) → t' = t

instance : Decidable (OwnReference gateway txs createdOn reportDate rows) :=
  inferInstanceAs (Decidable (∀ t ∈ txs, _))

/-! ## The report -/

theorem toBigint_isSome {d : Decimal} (h : d.toBigint.isSome) : d.isInteger = true ∧ d.toBigint = some d.num := by
  unfold Decimal.toBigint at h ⊢
  split at h
  · rename_i hc
    rw [if_pos hc]
    exact ⟨(Bool.and_eq_true_iff.mp hc).1, rfl⟩
  · exact nomatch h

theorem checkRows_ok (seen : List String) (hrefs : ∀ r ∈ rows, r.externalRef ≠ "" ∧ r.externalRef ∉ seen)
    (hnodup : (rows.map (·.externalRef)).Nodup) (hamt : ∀ r ∈ rows, 0 < r.amount ∧ r.amount.isInteger = true) :
    checkRows seen rows = .ok () := by
  induction rows generalizing seen with
  | nil => rfl
  | cons r rows ih =>
    rw [List.map_cons, List.nodup_cons] at hnodup
    have hr := hrefs r List.mem_cons_self
    rw [checkRows, if_neg hr.1, if_neg hr.2, if_neg (not_not.mpr (hamt r List.mem_cons_self))]
    refine ih _ (fun q hq => ?_) hnodup.2 fun q hq => hamt q (List.mem_cons_of_mem _ hq)
    have hq' := hrefs q (List.mem_cons_of_mem _ hq)
    refine ⟨hq'.1, fun hmem => ?_⟩
    rcases List.mem_cons.mp hmem with heq | hmem
    · exact hnodup.1 (heq ▸ List.mem_map_of_mem hq)
    · exact hq'.2 hmem

/-- The item that a row of the report starts as. -/
def imported (r : ReconImportRow) : ReconItem := ⟨r.externalRef, r.amount.num, .missingInternal, none⟩

theorem mapM_itemOf (h : ∀ r ∈ rows, r.amount.toBigint.isSome) : rows.mapM itemOf = .ok (rows.map imported) := by
  rw [mapM_eq_ok, List.forall₂_map_right_iff, List.forall₂_same]
  intro r hr
  rw [itemOf, (toBigint_isSome (h r hr)).2]
  rfl

/-- An insert of positive amounts under references that are all distinct. -/
theorem insertItems_ok {new : List ReconItem} (hpos : ∀ i ∈ new, 0 < i.amount)
    (hnodup : ((items ++ new).map (·.externalRef)).Nodup) : insertItems items new = .ok (items ++ new) := by
  have hnone : new.find? (·.amount ≤ 0) = none := by
    rw [List.find?_eq_none]
    intro i hi
    simpa using hpos i hi
  rw [insertItems, hnone]
  exact if_pos hnodup

/-! ## The matcher -/

theorem matchItem_ref (i : ReconItem) : (matchItem J gateway txs i).externalRef = i.externalRef := by
  unfold matchItem
  split <;> rfl

theorem matchItem_amount (i : ReconItem) : (matchItem J gateway txs i).amount = i.amount := by
  unfold matchItem
  split <;> rfl

theorem mem_joined {t : Tx} {ref : String} :
    t ∈ joined gateway txs ref ↔
      t ∈ txs ∧ t.2.gateway = some gateway ∧ t.2.externalRef = some ref ∧ t.2.status = .posted := by
  simp [joined]

/-- What step A leaves of an item of the report. -/
theorem matchItem_cases (J : JoinRow) (gateway : String) (txs : List Tx) {i : ReconItem}
    (hi : i.matchStatus = .missingInternal) (hn : i.matchedTxID = none) :
    let i' := matchItem J gateway txs i
    (joined gateway txs i.externalRef = [] ∧ i'.matchStatus = .missingInternal ∧ i'.matchedTxID = none) ∨
      ∃ t ∈ joined gateway txs i.externalRef, i'.matchedTxID = some t.1 ∧
        (i'.matchStatus = .matched ↔ t.2.amount = i.amount) := by
  unfold matchItem
  split
  · rename_i h
    exact .inl ⟨h, hi, hn⟩
  · rename_i h
    refine .inr ⟨J.pick _ h, J.pick_mem _ h, rfl, ?_⟩
    dsimp only
    split
    · rename_i heq
      exact ⟨fun _ => heq, fun _ => rfl⟩
    · rename_i hne
      exact ⟨(fun hm => nomatch hm), fun heq => absurd heq hne⟩

theorem mem_unclaimed {t : Tx} :
    t ∈ unclaimed gateway txs createdOn reportDate items ↔
      t ∈ txs ∧ reportable gateway createdOn reportDate t = true ∧
        t.2.externalRef ∉ items.map fun i => some i.externalRef := by
  simp [unclaimed]

theorem reportable_spec {t : Tx} (h : reportable gateway createdOn reportDate t = true) :
    t.2.gateway = some gateway ∧ t.2.externalRef = some (t.2.externalRef.getD "") ∧ t.2.status = .posted ∧
      createdOn t.1 = reportDate := by
  simp only [reportable, decide_eq_true_eq] at h
  obtain ⟨hg, hr, hs, hdate⟩ := h
  obtain ⟨ref, href⟩ := Option.isSome_iff_exists.mp hr
  refine ⟨hg, ?_, hs, hdate⟩
  rw [href]
  rfl

/-- The items that step A leaves of a report. -/
def reported (J : JoinRow) (gateway : String) (txs : List Tx) (rows : List ReconImportRow) : List ReconItem :=
  (rows.map imported).map (matchItem J gateway txs)

theorem reported_refs (J : JoinRow) (gateway : String) (txs : List Tx) (rows : List ReconImportRow) :
    (reported J gateway txs rows).map (·.externalRef) = rows.map (·.externalRef) := by
  rw [reported, List.map_map, List.map_map]
  exact List.map_congr_left fun r _ => matchItem_ref _

theorem mem_reported_refs {ref : Option String} :
    (ref ∈ (reported J gateway txs rows).map fun i => some i.externalRef) ↔
      ∃ r ∈ rows, some r.externalRef = ref := by
  have hmap : ((reported J gateway txs rows).map fun i => some i.externalRef) =
      (rows.map (·.externalRef)).map some := by
    rw [← reported_refs J gateway txs rows, List.map_map]
    rfl
  rw [hmap, List.map_map, List.mem_map]
  rfl

theorem mem_reported {i : ReconItem} (h : i ∈ reported J gateway txs rows) :
    ∃ r ∈ rows, i = matchItem J gateway txs (imported r) := by
  rw [reported, List.map_map] at h
  obtain ⟨r, hr, rfl⟩ := List.mem_map.mp h
  exact ⟨r, hr, rfl⟩

/-- The transactions that step B adds. -/
def added (J : JoinRow) (gateway : String) (txs : List Tx) (createdOn : UUID → ℕ) (reportDate : ℕ)
    (rows : List ReconImportRow) : List Tx :=
  unclaimed gateway txs createdOn reportDate (reported J gateway txs rows)

/-- A transaction that step B adds has a reference that no row has. -/
theorem added_ref {t : Tx} (h : t ∈ added J gateway txs createdOn reportDate rows) {r : ReconImportRow}
    (hr : r ∈ rows) : t.2.externalRef ≠ some r.externalRef := by
  intro heq
  exact (mem_unclaimed.mp h).2.2 (mem_reported_refs.mpr ⟨r, hr, heq.symm⟩)

section Import

variable (hkeys : (txs.map Sigma.fst).Nodup) (hown : OwnReference gateway txs createdOn reportDate rows)
  (hnodup : (rows.map (·.externalRef)).Nodup)

include hkeys hown hnodup in
/-- The references of the batch are distinct. -/
theorem refs_nodup :
    ((reported J gateway txs rows ++ (added J gateway txs createdOn reportDate rows).map missingExternal).map
      (·.externalRef)).Nodup := by
  rw [List.map_append, reported_refs, List.map_map]
  refine List.Nodup.append hnodup ?_ ?_
  · refine List.Nodup.map_on (fun t ht t' ht' heq => ?_) ((List.Nodup.of_map _ hkeys).filter _)
    obtain ⟨htx, hrep, -⟩ := mem_unclaimed.mp ht
    obtain ⟨htx', hrep', -⟩ := mem_unclaimed.mp ht'
    obtain ⟨-, href, -⟩ := reportable_spec hrep
    obtain ⟨hg', href', hs', hdate'⟩ := reportable_spec hrep'
    refine (hown t htx hrep t' htx' hg' hs' ?_ (.inl hdate')).symm
    rw [href, href']
    exact congrArg some heq.symm
  · intro ref hmem hmem'
    obtain ⟨r, hr, rfl⟩ := List.mem_map.mp hmem
    obtain ⟨t, ht, heq⟩ := List.mem_map.mp hmem'
    refine added_ref ht hr ?_
    rw [(reportable_spec (mem_unclaimed.mp ht).2.1).2.1]
    exact congrArg some heq

/-- **A report that passes the checks is imported.** -/
theorem importBatch_ok (hkeys : (txs.map Sigma.fst).Nodup) (hv : Valid gateway rows createdBy)
    (hpos : ∀ t ∈ txs, 0 < t.2.amount) (hown : OwnReference gateway txs createdOn reportDate rows) :
    importBatch J gateway txs createdOn reportDate rows createdBy =
      .ok (reported J gateway txs rows ++ (added J gateway txs createdOn reportDate rows).map
        missingExternal) := by
  have hcheck : checkRows [] rows = .ok () :=
    checkRows_ok [] (fun r hr => ⟨hv.refs r hr, List.not_mem_nil⟩) hv.nodup
      fun r hr => ⟨(hv.amounts r hr).1, (toBigint_isSome (hv.amounts r hr).2).1⟩
  have hinsert : insertItems [] (rows.map imported) = .ok (rows.map imported) := by
    refine insertItems_ok (fun i hi => ?_) ?_
    · obtain ⟨r, hr, rfl⟩ := List.mem_map.mp hi
      exact Rat.num_pos.mpr (hv.amounts r hr).1
    · rw [List.nil_append, List.map_map]
      exact hv.nodup
  have hadd : ∀ i ∈ (added J gateway txs createdOn reportDate rows).map missingExternal, 0 < i.amount := by
    intro i hi
    obtain ⟨t, ht, rfl⟩ := List.mem_map.mp hi
    exact hpos t (mem_unclaimed.mp ht).1
  unfold importBatch
  rw [if_neg (not_not.mpr hv.gateway), if_neg hv.some_row, if_neg (Nat.not_lt.mpr hv.cap), if_neg hv.createdBy]
  simp only [hcheck, mapM_itemOf fun r hr => (hv.amounts r hr).2, hinsert, ok_bind]
  exact insertItems_ok hadd (refs_nodup hkeys hown hv.nodup)

include hkeys hown hnodup in
/-- A transaction of the report date is in exactly one item. -/
theorem one_item {t : Tx} (ht : t ∈ txs) (hrep : reportable gateway createdOn reportDate t = true) :
    (reported J gateway txs rows ++ (added J gateway txs createdOn reportDate rows).map missingExternal).countP
      (·.matchedTxID = some t.1) = 1 := by
  obtain ⟨hg, href, hs, -⟩ := reportable_spec hrep
  -- an item that has the transaction has its reference
  have hsame : ∀ i ∈ reported J gateway txs rows ++
      (added J gateway txs createdOn reportDate rows).map missingExternal,
      decide (i.matchedTxID = some t.1) = true → some i.externalRef = t.2.externalRef := by
    intro i hi hm
    rw [decide_eq_true_eq] at hm
    rcases List.mem_append.mp hi with hi | hi
    · obtain ⟨r, -, rfl⟩ := mem_reported hi
      rcases matchItem_cases J gateway txs (i := imported r) rfl rfl with
        ⟨-, -, hnone⟩ | ⟨u, hu, hid, -⟩
      · rw [hnone] at hm
        exact nomatch hm
      · rw [hid, Option.some.injEq] at hm
        obtain ⟨hutx, -, huref, -⟩ := mem_joined.mp hu
        rw [matchItem_ref, ← eq_of_id hkeys hutx ht hm, huref]
    · obtain ⟨u, hu, rfl⟩ := List.mem_map.mp hi
      have hid : u.1 = t.1 := Option.some.inj hm
      have hutx := (mem_unclaimed.mp hu).1
      obtain rfl := eq_of_id hkeys hutx ht hid
      exact href.symm
  have hnod := refs_nodup (J := J) hkeys hown hnodup
  suffices h : ∃ i ∈ reported J gateway txs rows ++
      (added J gateway txs createdOn reportDate rows).map missingExternal, i.matchedTxID = some t.1 by
    obtain ⟨i, hi, hm⟩ := h
    refine countP_eq_one hnod hi (by simpa using hm) fun q hq hqm => ?_
    have h1 := hsame q hq hqm
    have h2 := hsame i hi (by simpa using hm)
    exact Option.some.inj (h1.trans h2.symm)
  by_cases hrow : ∃ r ∈ rows, some r.externalRef = t.2.externalRef
  · obtain ⟨r, hr, heq⟩ := hrow
    refine ⟨matchItem J gateway txs (imported r), List.mem_append_left _ ?_, ?_⟩
    · exact List.mem_map_of_mem (List.mem_map_of_mem hr)
    · have hmem : t ∈ joined gateway txs r.externalRef := mem_joined.mpr ⟨ht, hg, heq.symm, hs⟩
      rcases matchItem_cases J gateway txs (i := imported r) rfl rfl with
        ⟨hnil, -⟩ | ⟨u, hu, hid, -⟩
      · have hmem' : t ∈ joined gateway txs (imported r).externalRef := hmem
        rw [hnil] at hmem'
        exact absurd hmem' List.not_mem_nil
      · -- the join has no other transaction to choose
        obtain ⟨hutx, hug, huref, hus⟩ := mem_joined.mp hu
        rw [hid, hown t ht hrep u hutx hug hus (huref.trans heq) (.inr ⟨r, hr, heq⟩)]
  · have hadd : t ∈ added J gateway txs createdOn reportDate rows := by
      exact mem_unclaimed.mpr ⟨ht, hrep, fun hmem => hrow (mem_reported_refs.mp hmem)⟩
    exact ⟨missingExternal t, List.mem_append_right _ (List.mem_map_of_mem hadd), rfl⟩

end Import

/-- A row of the report is matched exactly if the transaction it refers to has its reference and its amount. -/
theorem matched_iff (hkeys : (txs.map Sigma.fst).Nodup) (r : ReconImportRow) :
    let i := matchItem J gateway txs (imported r)
    i.matchStatus = .matched ↔ ∃ t ∈ txs, i.matchedTxID = some t.1 ∧ t.2.status = .posted ∧
      t.2.externalRef = some i.externalRef ∧ t.2.amount = i.amount := by
  intro i
  rcases matchItem_cases J gateway txs (i := imported r) rfl rfl with
    ⟨-, hst, hnone⟩ | ⟨u, hu, hid, hst⟩
  · constructor
    · intro hm
      rw [hst] at hm
      exact nomatch hm
    · rintro ⟨t, -, hid, -⟩
      rw [hnone] at hid
      exact nomatch hid
  · obtain ⟨hutx, -, href, hposted⟩ := mem_joined.mp hu
    rw [hst]
    constructor
    · intro hamt
      exact ⟨u, hutx, hid, hposted, by rw [matchItem_ref]; exact href, by rw [matchItem_amount]; exact hamt⟩
    · rintro ⟨t, ht, hidt, -, -, hamt⟩
      have hsame : u.1 = t.1 := Option.some.inj (hid.symm.trans hidt)
      rw [eq_of_id hkeys hutx ht hsame, hamt, matchItem_amount]

/-- **A reconciliation accounts for every transaction** while those of the report date have a reference of
their own (`OwnReference`): a report that passes the checks is imported, every transaction of the date and
every row of the report has exactly one item, a row is matched exactly if the transaction it refers to has its
reference and its amount, and the items beyond the report are the transactions that it lacks. -/
theorem import_accounts (J : JoinRow) (ledger : AList fun _ : UUID => TxRow) (createdOn : UUID → ℕ)
    (reportDate : ℕ)
    {gateway createdBy : String} {rows : List ReconImportRow} (hv : Valid gateway rows createdBy)
    (hpos : ∀ t ∈ ledger.entries, 0 < t.2.amount)
    (hown : OwnReference gateway ledger.entries createdOn reportDate rows) :
    ∃ items, importBatch J gateway ledger.entries createdOn reportDate rows createdBy = .ok items ∧
      (∀ t ∈ ledger.entries, reportable gateway createdOn reportDate t = true →
        items.countP (·.matchedTxID = some t.1) = 1) ∧
      (∀ r ∈ rows, items.countP (·.externalRef = r.externalRef) = 1) ∧
      (∀ i ∈ items, (∃ r ∈ rows, r.externalRef = i.externalRef) →
        (i.matchStatus = .matched ↔ ∃ t ∈ ledger.entries, i.matchedTxID = some t.1 ∧ t.2.status = .posted ∧
          t.2.externalRef = some i.externalRef ∧ t.2.amount = i.amount)) ∧
      ∀ i ∈ items, (∀ r ∈ rows, r.externalRef ≠ i.externalRef) → i.matchStatus = .missingExternal := by
  have hkeys : (ledger.entries.map Sigma.fst).Nodup := ledger.nodupKeys
  have hnod := refs_nodup (J := J) hkeys hown hv.nodup
  refine ⟨_, importBatch_ok hkeys hv hpos hown, fun t ht hrep => one_item hkeys hown hv.nodup ht hrep,
    fun r hr => ?_, fun i hi hrow => ?_, fun i hi hrow => ?_⟩
  · have hmem : matchItem J gateway ledger.entries (imported r) ∈ reported J gateway ledger.entries rows :=
      List.mem_map_of_mem (List.mem_map_of_mem hr)
    have href : (matchItem J gateway ledger.entries (imported r)).externalRef = r.externalRef := matchItem_ref _
    refine countP_eq_one hnod (List.mem_append_left _ hmem) (by simpa using href) fun q _ hq => ?_
    rw [href]
    simpa using hq
  · rcases List.mem_append.mp hi with hi | hi
    · obtain ⟨r, -, rfl⟩ := mem_reported hi
      exact matched_iff hkeys r
    · obtain ⟨t, ht, rfl⟩ := List.mem_map.mp hi
      obtain ⟨r, hr, heq⟩ := hrow
      refine absurd ?_ (added_ref ht hr)
      rw [(reportable_spec (mem_unclaimed.mp ht).2.1).2.1]
      exact congrArg some heq.symm
  · rcases List.mem_append.mp hi with hi | hi
    · obtain ⟨r, hr, rfl⟩ := mem_reported hi
      exact absurd (matchItem_ref (imported r)).symm (hrow r hr)
    · obtain ⟨t, -, rfl⟩ := List.mem_map.mp hi
      rfl

/-! ## A ledger of a few transactions -/

/-- A posted top-up through a gateway. -/
def topup (ref : String) (amount : ℤ) : TxRow :=
  { idempotencyKey := none, idempotencyScope := none, type := .moneyIn, status := .posted, amount := amount
    currency := "IDR", sourceAccountID := none, destinationAccountID := none, externalRef := some ref
    gateway := some "bca", requestID := none, idempotencyKeyDigest := none, idempotencyKeyVersion := none
    conflictFingerprint := none, errorMessage := none, closedByTxID := none, closedReason := none }

/-- The database takes the first row of the join. -/
def firstRow : JoinRow := ⟨fun l h => l.head h, fun _ h => List.head_mem h⟩

def oneRow : List ReconImportRow := [⟨"A1", 100⟩]

def twoTopups : AList fun _ : UUID => TxRow := ⟨[⟨1, topup "A1" 100⟩, ⟨2, topup "B1" 70⟩], by simp⟩

theorem import_accounts_twoTopups :
    Valid "bca" oneRow "ops" ∧ ∃ items,
      importBatch firstRow "bca" twoTopups.entries (fun _ => 5) 5 oneRow "ops" = .ok items ∧
        items.countP (·.matchedTxID = some 2) = 1 := by
  have hv : Valid "bca" oneRow "ops" :=
    ⟨by decide, by decide, by decide, by decide, by decide, by decide, by decide⟩
  obtain ⟨items, hok, hone, -⟩ := import_accounts firstRow twoTopups (fun _ => 5) 5 hv (by decide) (by decide)
  exact ⟨hv, items, hok, hone ⟨2, topup "B1" 70⟩ (by decide) (by decide)⟩

/-- **A shared reference makes the import fail, and an item beyond the report is never matched**: two top-ups
that share a reference the report lacks would be two items of one reference; and the item of the one that it
lacks refers to a posted transaction of its reference and amount. -/
theorem shared_reference_refused :
    importBatch firstRow "bca" [⟨1, topup "B1" 100⟩, ⟨2, topup "B1" 70⟩] (fun _ => 5) 5 oneRow "ops" =
        .error .duplicateItem ∧
      importBatch firstRow "bca" twoTopups.entries (fun _ => 5) 5 oneRow "ops" =
        .ok [⟨"A1", 100, .matched, some 1⟩, ⟨"B1", 70, .missingExternal, some 2⟩] := by
  decide +kernel

end Seev.Ledger.Recon
