import Seev.Ledger.Proof.Reach
import Seev.Lib.Rows

/-!
# The history of a ledger

From a ledger without transactions, everything in the tables was put there by a
command of the run.

* `Origin`: what an accepted command has become by the time it posts.
* `Recorded`: the header and the entries a posted command left, for good.
* `HistoryOK`: every posted command is recorded, and every header that was ever posted
  is one of a posted command; `run_history` has it for every run.
-/

namespace Seev.Ledger

open Lib

/-- `rc` is what became of the command `cmd`: prepared on some committed state, perhaps
with the fee of its quote in the metadata since. -/
def Origin (E : Env) (cmd : Command) (rc : ResolvedCommand) : Prop :=
  ∃ db rc₀, Prepared E db cmd rc₀ ∧ SameRequest rc₀ rc

/-- What a posted command left in the tables. -/
structure Recorded (E : Env) (db : Db) (txID : UUID) (rc : ResolvedCommand) : Prop where
  header : ∃ h, db.txs.lookup txID = some h ∧ h.type = rc.type ∧ (h.amount : ℚ) = rc.amount
  entries : ∃ p db₀ bal es, registry E rc.type = .ok p ∧ p.buildEntries db₀ rc bal = .ok es ∧
    List.Forall₂ (RowFor txID) es (db.entries.filter (·.transactionID = txID))
  currency : ∀ e ∈ db.entries, e.transactionID = txID →
    (E.accounts.byID e.accountID).map AccountRow.currency = some rc.currency

variable {E : Env} {w : World} {sid : SessionID} {s : Session} {db db' : Db} {P : Command → Prop}

/-- A session's command was accepted by `Handle`, and every posted command too. -/
structure HistoryOK (E : Env) (P : Command → Prop) (w : World) : Prop where
  sessions : ∀ sid s, w.sessions sid = some s → ∃ cmd, P cmd ∧ Origin E cmd s.rc
  origins : ∀ p ∈ w.posted, ∃ cmd, P cmd ∧ Origin E cmd p.2
  recorded : ∀ p ∈ w.posted, Recorded E w.db p.1 p.2
  nodup : (w.posted.map Prod.fst).Nodup
  /-- a closer's original was posted before it, with the type and amount it requires -/
  linked : ∀ p ∈ w.posted, ∀ t, requiredOriginal p.2.type = some t →
    ∃ o, (p.2.referenceID, o) ∈ w.posted ∧ o.type = t ∧ o.amount = p.2.amount
  complete : ∀ t h, w.db.txs.lookup t = some h → h.status = .posted ∨ h.closedByTxID.isSome →
    t ∈ w.posted.map Prod.fst

/-- Every command of the run satisfies `P`. -/
def Issued (P : Command → Prop) : Event → Prop
  | .handle _ _ cmd => P cmd
  | _ => True

/-- A reversal takes back what its original did. -/
theorem Posts.net_reversal (h : Posts E db s db') (ht : s.rc.type = .reversal) (a : UUID) :
    net (s.writes.entries.map LedgerEntry.posting) a =
      -net ((db.entries.filter (·.transactionID = s.rc.referenceID)).map LedgerEntry.posting) a := by
  obtain ⟨db₁, nb, hrows⟩ := h.rows
  obtain ⟨p, db₀, hreg, hbuilt, hsame⟩ := h.built.built
  rw [ht] at hreg
  cases hreg
  simp only [reversal] at hbuilt
  obtain ⟨-, hbuilt⟩ := guard_eq_ok.1 hbuilt
  split at hbuilt
  · cases hbuilt
  have hbuilt : (getEntries db₀ s.rc.referenceID).map (reversedEntry E) = s.built := Except.ok.inj hbuilt
  have hperm : (getEntries db s.rc.referenceID).Perm
      (db.entries.filter (·.transactionID = s.rc.referenceID)) := List.perm_insertionSort _ _
  have hswap : net ((getEntries db s.rc.referenceID).map (EntryInstruction.posting ∘ reversedEntry E)) a =
      -((net ((getEntries db s.rc.referenceID).map LedgerEntry.posting) a : ℤ) : ℚ) := by
    have hneg := net_swap (f := Posting.map (Int.castAddHom ℚ) ∘ LedgerEntry.posting)
      (g := EntryInstruction.posting ∘ reversedEntry E) (fun _ => rfl) (getEntries db s.rc.referenceID) a
    rw [hneg, ← List.map_map, net_map]
    rfl
  have hnet := hrows.net_entries a
  rw [← hbuilt, hsame ht, List.map_map, hswap, net_perm (hperm.map _)] at hnet
  exact_mod_cast hnet.symm

/-- The rows of a transaction that is not this one stay as they were. -/
theorem Posts.filter_entries (h : Posts E db s db') {t : UUID} (ht : t ≠ s.txID) :
    db'.entries.filter (·.transactionID = t) = db.entries.filter (·.transactionID = t) := by
  obtain ⟨db₀, nb, hrows⟩ := h.rows
  have hnew : s.writes.entries.filter (·.transactionID = t) = [] := by
    rw [List.filter_eq_nil_iff]
    intro r hr heq
    exact ht ((of_decide_eq_true heq).symm.trans (hrows.tx_eq hr))
  rw [h.entries, List.filter_append, hnew, List.append_nil]

/-- The rows of this one are the new rows. -/
theorem Posts.filter_entries_self (hdb : DbOK E db) (h : Posts E db s db') :
    db'.entries.filter (·.transactionID = s.txID) = s.writes.entries := by
  obtain ⟨db₀, nb, hrows⟩ := h.rows
  have hold : db.entries.filter (·.transactionID = s.txID) = [] := by
    rw [List.filter_eq_nil_iff]
    intro e he heq
    exact h.fresh (of_decide_eq_true heq ▸ hdb.owned e he)
  have hnew : s.writes.entries.filter (·.transactionID = s.txID) = s.writes.entries := by
    rw [List.filter_eq_self]
    exact fun r hr => decide_eq_true (hrows.tx_eq hr)
  rw [h.entries, List.filter_append, hold, hnew, List.nil_append]

theorem Recorded.later {t : UUID} {rc : ResolvedCommand} (h : Recorded E db t rc)
    (hrow : ∀ r, db.txs.lookup t = some r → ∃ r', db'.txs.lookup t = some r' ∧ RowLater r r')
    (hentries : db'.entries.filter (·.transactionID = t) = db.entries.filter (·.transactionID = t)) :
    Recorded E db' t rc := by
  obtain ⟨r, hr, htype, hamount⟩ := h.header
  obtain ⟨r', hr', hlater⟩ := hrow r hr
  obtain ⟨p, db₀, bal, es, hreg, hbuilt, hrows⟩ := h.entries
  refine ⟨⟨r', hr', hlater.type.trans htype, by rw [hlater.amount, hamount]⟩,
    ⟨p, db₀, bal, es, hreg, hbuilt, by rwa [hentries]⟩, fun e he htx => ?_⟩
  have hmem : e ∈ db'.entries.filter (·.transactionID = t) := List.mem_filter.2 ⟨he, decide_eq_true htx⟩
  rw [hentries] at hmem
  exact h.currency e (List.mem_filter.1 hmem).1 htx

/-- **A posting is recorded.** -/
theorem Posts.recorded (hdb : DbOK E db) (h : Posts E db s db') : Recorded E db' s.txID s.rc := by
  obtain ⟨hd, hhd, -, hof⟩ := h.header
  obtain ⟨p, db₀, hreg, hbuilt, -⟩ := h.built.built
  obtain ⟨db₁, nb, hrows⟩ := h.rows
  refine ⟨⟨hd, hhd, hof.type, hof.amount⟩, ⟨p, db₀, s.merged, s.built, hreg, hbuilt, ?_⟩, fun e he htx => ?_⟩
  · rw [h.filter_entries_self hdb]
    exact hrows.rowOf.imp fun _ _ hr => hr.rowFor
  · have hmem : e ∈ db'.entries.filter (·.transactionID = s.txID) :=
      List.mem_filter.2 ⟨he, decide_eq_true htx⟩
    rw [h.filter_entries_self hdb] at hmem
    exact hrows.currency e hmem

theorem history_idle (hempty : db.txs = ∅) (now : ℕ) : HistoryOK E P (.idle db now) where
  sessions _ _ hs := by cases hs
  origins _ hp := by cases hp
  recorded _ hp := by cases hp
  nodup := List.nodup_nil
  linked _ hp := by cases hp
  complete t h ht := by
    simp only [World.idle] at ht
    rw [hempty, AList.lookup_empty] at ht
    cases ht

/-- A header that was ever posted is that of a posted command. -/
theorem HistoryOK.posted_of_header (h : HistoryOK E P w) {t : UUID} {r : TxRow}
    (hr : w.db.txs.lookup t = some r) (hst : r.status = .posted ∨ r.closedByTxID.isSome) :
    ∃ o, (t, o) ∈ w.posted ∧ r.type = o.type ∧ (r.amount : ℚ) = o.amount := by
  obtain ⟨p, hp, heq⟩ := List.mem_map.1 (h.complete t r hr hst)
  obtain ⟨r', hr', htype, hamount⟩ := (h.recorded p hp).header
  rw [heq, hr, Option.some.injEq] at hr'
  subst hr'
  exact ⟨p.2, heq ▸ hp, htype, hamount⟩

/-- The original of a closer that posts is a posted command. -/
theorem HistoryOK.original (h : HistoryOK E P w) {db' : Db} (hposts : Posts E w.db s db') {t : TxType}
    (ht : requiredOriginal s.rc.type = some t) :
    ∃ o, (s.rc.referenceID, o) ∈ w.posted ∧ o.type = t ∧ o.amount = s.rc.amount := by
  obtain ⟨r, hr, hstatus, -, hrequired⟩ := hposts.checked.original (.inr (by simp [ht]))
  obtain ⟨o, ho, htype, hamount⟩ := h.posted_of_header hr hstatus.symm
  exact ⟨o, ho, htype.symm.trans (hrequired t ht).1, hamount.symm.trans (hrequired t ht).2⟩

/-- The commands of the sessions, after any step. -/
theorem HistoryOK.step_sessions {ev : Event} (h : HistoryOK E P w) (hev : Issued P ev) :
    ∀ sid s, (w.step E ev).sessions sid = some s → ∃ cmd, P cmd ∧ Origin E cmd s.rc := by
  intro sid s' hs'
  rcases Ledger.step_sessions hs' with ⟨s, hs, hsame⟩ | ⟨txID, cmd, rfl, -, hprep⟩
  · obtain ⟨cmd, hP, db₀, rc₀, hprep, hsame₀⟩ := h.sessions sid s hs
    exact ⟨cmd, hP, db₀, rc₀, hprep, hsame₀.trans hsame⟩
  · exact ⟨cmd, hev, w.db, s'.rc, prepare_ok hprep, .refl _⟩

theorem HistoryOK.step {ev : Event} (hw : WorldOK E w) (h : HistoryOK E P w) (hev : Issued P ev) :
    HistoryOK E P (w.step E ev) := by
  have hsessions := h.step_sessions (E := E) hev
  cases step_effect hw ev with
  | quiet hdb hposted =>
    refine ⟨hsessions, ?_, ?_, ?_, ?_, ?_⟩ <;> rw [hposted]
    · exact h.origins
    · rw [hdb]
      exact h.recorded
    · exact h.nodup
    · exact h.linked
    · rw [hdb]
      exact h.complete
  | posts sid s hs _ hposts hposted _ _ =>
    have hfresh : s.txID ∉ w.posted.map Prod.fst := fun hmem => by
      obtain ⟨p, hp, heq⟩ := List.mem_map.1 hmem
      obtain ⟨r, hr, -⟩ := (h.recorded p hp).header
      exact hposts.fresh (heq ▸ AList.lookup_isSome.1 (by simp [hr]))
    refine ⟨hsessions, fun p hp => ?_, fun p hp => ?_, ?_, fun p hp t ht => ?_, fun t r hr hst => ?_⟩
    · rw [hposted, List.mem_append] at hp
      rcases hp with hp | hp
      · exact h.origins p hp
      · rw [List.mem_singleton.1 hp]
        exact h.sessions sid s hs
    · rw [hposted, List.mem_append] at hp
      rcases hp with hp | hp
      · have hne : p.1 ≠ s.txID := fun heq => hfresh (heq ▸ List.mem_map_of_mem hp)
        exact (h.recorded p hp).later (fun r hr => hposts.lookup_later hr) (hposts.filter_entries hne)
      · rw [List.mem_singleton.1 hp]
        exact hposts.recorded hw.db
    · rw [hposted]
      exact nodup_concat_id h.nodup hfresh
    · rw [hposted, List.mem_append] at hp
      have hold : ∃ o, (p.2.referenceID, o) ∈ w.posted ∧ o.type = t ∧ o.amount = p.2.amount := by
        rcases hp with hp | hp
        · exact h.linked p hp t ht
        · rw [List.mem_singleton.1 hp] at ht ⊢
          exact h.original hposts ht
      obtain ⟨o, ho, hrest⟩ := hold
      exact ⟨o, hposted ▸ List.mem_append_left _ ho, hrest⟩
    · rw [hposted, List.map_append, List.mem_append]
      by_cases htx : t = s.txID
      · exact .inr (by simp [htx])
      · refine .inl ?_
        -- an old header: it has the status it had, or it was posted and this one closed it
        by_cases href : (lifecycleCloseReason s.rc.type).isSome ∧ t = s.rc.referenceID
        · obtain ⟨hcl, rfl⟩ := href
          obtain ⟨r₀, hr₀, hstatus, -, -⟩ := hposts.checked.original (.inl hcl)
          exact h.complete _ r₀ hr₀ hstatus.symm
        · rw [hposts.others t htx fun hcl heq => href ⟨hcl, heq⟩] at hr
          exact h.complete t r hr hst
  | rejects sid s _ _ hrejects hposted _ =>
    obtain ⟨hd, htxs, hfailed, hof⟩ := hrejects.header
    refine ⟨hsessions, ?_, ?_, ?_, ?_, ?_⟩ <;> rw [hposted]
    · exact h.origins
    · intro p hp
      obtain ⟨r, hr, -⟩ := (h.recorded p hp).header
      have hne : p.1 ≠ s.txID := fun heq => hrejects.fresh (heq ▸ AList.lookup_isSome.1 (by simp [hr]))
      refine (h.recorded p hp).later (fun r hr => ⟨r, ?_, .refl r⟩) (by rw [hrejects.entries])
      rw [htxs, AList.lookup_insert_ne hne, hr]
    · exact h.nodup
    · exact h.linked
    · intro t r hr hst
      by_cases htx : t = s.txID
      · rw [htxs, htx, AList.lookup_insert, Option.some.injEq] at hr
        subst hr
        rw [hfailed, hof.isOpen] at hst
        simp at hst
      · rw [htxs, AList.lookup_insert_ne htx] at hr
        exact h.complete t r hr hst

/-- **The history of a run** from a ledger without transactions. -/
theorem run_history (hdb : DbOK E db) (hempty : db.txs = ∅) (now : ℕ) {evs : List Event}
    (hevs : ∀ ev ∈ evs, Issued P ev) :
    WorldOK E (run (World.step E) (.idle db now) evs) ∧
      HistoryOK E P (run (World.step E) (.idle db now) evs) :=
  run_inv_of_along (I := fun w => WorldOK E w ∧ HistoryOK E P w) (C := fun _ ev => Issued P ev)
    (fun _ ev hw hev => ⟨step_ok hw.1 ev, hw.2.step hw.1 hev⟩)
    ⟨idle_ok hdb, history_idle hempty now⟩ (.of_forall (fun ev hev _ => hevs ev hev) _)

end Seev.Ledger
