import Seev.Lib.Slots
import Seev.Lifecycle.ObjectOutbox

/-!
# Deletions that are claimed too early or forgotten

The metadata of a row are marked only behind a successful `Delete`. But a claimed row returns to the pending
ones only through `markFailed`, and nothing else looks for rows that are being processed: a row whose call
loses it stays as it is.

* `Change`: what a step does to the rows and the calls, and whether a call loses claimed rows in it.
* `Change.lost`, `Change.lost_new`, `Change.loses`: a lost row stays lost, and which steps lose rows.
* `deletion_kept_iff`: marked only behind the store; and at rest every open intent can be claimed, exactly when no
  step of the run has lost a row.
* `outage_forgets`: a marking transaction that fails after the object is gone.
-/

namespace Seev.Lifecycle.ObjectOutbox

open Lib

variable {ids : List ℕ} {f : Row → Row}

/-- The row `i` is among those that the call has claimed and not settled. -/
def Call.holds (i : ℕ) (c : Call) : Bool := c.running && decide (i ∈ c.claimed)

def Row.ref (r : Row) : String × ℕ := (r.refTable, r.refID)

/-- The row `i` has a status. -/
def World.Has (w : World) (i : ℕ) (s : Status) : Prop := ∃ r, w.rows[i]? = some r ∧ r.status = s

/-- A row that is being processed by no call. -/
def World.Lost (w : World) (i : ℕ) : Prop := w.Has i .processing ∧ ∀ c ∈ w.calls, c.holds i = false

/-- A call of `ProcessOnce` with a large enough batch claims the row. -/
def World.Claimable (w : World) (i : ℕ) : Prop := ∃ n, ∀ batchSize ≥ n, i ∈ w.claimPending batchSize []

/-- No step of a call loses a claimed row: the claim reaches the call, the marks of the row at hand take
effect, and no call stops with rows in hand. -/
def World.Kept (w : World) : Event → Prop
  | .start _ batchSize locked _ took received =>
    took = true → received = false → w.claimPending batchSize locked = []
  | .mark k committed => (w.at k .mark).isSome = true → committed = true
  | .markFailed k took => (w.at k .markFailed).isSome = true → took = true
  | .crash k => ∀ c, w.calls[k]? = some c → c.running = false
  | .enqueue _ _ _ _ => True
  | .delete _ _ => True

variable {w w' : World} {i k : ℕ} {c : Call} {r : Row} {lost : Bool}

/-! ## The statements -/

theorem rows_update (ids : List ℕ) (f : Row → Row) (i : ℕ) :
    (w.update ids f).rows[i]? = w.rows[i]?.map fun r => if i ∈ ids then f r else r := by
  simp [World.update, List.getElem?_mapIdx]

theorem has_update_of_mem {s : Status} (hf : ∀ r, (f r).status = s) (hi : i ∈ ids)
    (h : (w.rows[i]?).isSome = true) : (w.update ids f).Has i s := by
  obtain ⟨r, hr⟩ := Option.isSome_iff_exists.1 h
  exact ⟨f r, by rw [rows_update, hr, Option.map_some, if_pos hi], hf r⟩

theorem has_update_of_notMem {s : Status} (hi : i ∉ ids) :
    (w.update ids f).Has i s ↔ w.Has i s := by
  unfold World.Has
  simp only [rows_update, if_neg hi, Option.map_id']

/-- An update that keeps the references and the keys. -/
theorem mem_update (hf : ∀ r, (f r).ref = r.ref ∧ (f r).objectKey = r.objectKey)
    (hr : r ∈ (w.update ids f).rows) : ∃ r' ∈ w.rows, r'.ref = r.ref ∧ r'.objectKey = r.objectKey := by
  obtain ⟨i, hi⟩ := List.mem_iff_getElem?.1 hr
  rw [rows_update, Option.map_eq_some_iff] at hi
  obtain ⟨r', hr', rfl⟩ := hi
  refine ⟨r', List.mem_of_getElem? hr', ?_⟩
  split
  · exact ⟨(hf r').1.symm, (hf r').2.symm⟩
  · exact ⟨rfl, rfl⟩

theorem refs_update (hf : ∀ r, (f r).ref = r.ref) :
    (w.update ids f).rows.map Row.ref = w.rows.map Row.ref := by
  refine List.ext_getElem? fun i => ?_
  rw [List.getElem?_map, List.getElem?_map, rows_update, Option.map_map]
  refine congrArg (Option.map · _) (funext fun r => ?_)
  simp only [Function.comp_apply]
  split
  · exact hf r
  · rfl

theorem mem_claimPending {batchSize : ℕ} {locked : List ℕ} (h : i ∈ w.claimPending batchSize locked) :
    w.Has i .pending := by
  have hmem := List.mem_of_mem_take h
  rw [List.mem_insertionSort, List.mem_filter, Bool.and_eq_true, Option.any_eq_true] at hmem
  obtain ⟨-, -, r, hr, hs⟩ := hmem
  exact ⟨r, hr, of_decide_eq_true hs⟩

theorem nodup_claimPending (batchSize : ℕ) (locked : List ℕ) : (w.claimPending batchSize locked).Nodup :=
  ((List.perm_insertionSort _ _).nodup_iff.2 (List.nodup_range.filter _)).sublist (List.take_sublist _ _)

/-- Exactly the pending rows can be claimed. -/
theorem claimable_iff : w.Claimable i ↔ w.Has i .pending := by
  constructor
  · rintro ⟨n, hn⟩
    exact mem_claimPending (hn n le_rfl)
  · rintro ⟨r, hr, hs⟩
    refine ⟨w.rows.length, fun batchSize hn => ?_⟩
    have hlt : i < w.rows.length := (List.getElem?_eq_some_iff.1 hr).1
    unfold World.claimPending
    rw [List.take_of_length_le]
    · rw [List.mem_insertionSort, List.mem_filter, hr]
      exact ⟨List.mem_range.2 hlt, by simp [hs]⟩
    · rw [List.length_insertionSort]
      exact (List.length_filter_le _ _).trans (by simpa using hn)

theorem at_eq {s : Stage} (h : w.at k s = some (c, i, r)) :
    w.calls[k]? = some c ∧ c.running = true ∧ c.stage = s ∧ c.claimed.head? = some i ∧ w.rows[i]? = some r := by
  unfold World.at at h
  simp only [Option.bind_eq_bind, Option.bind_eq_some_iff, Option.ite_none_right_eq_some, Option.some.injEq,
    Prod.mk.injEq] at h
  obtain ⟨c', hc, i', hi, r', hr, ⟨hrun, hs⟩, rfl, rfl, rfl⟩ := h
  exact ⟨hc, hrun, hs, hi, hr⟩

/-! ## Steps -/

/-- What a step can do to the rows and the calls, and whether a call loses claimed rows in it. -/
inductive Change (w : World) : Bool → World → Prop
  | idle : Change w false w
  | enqueued {r : Row} (hnew : r.ref ∉ w.rows.map Row.ref) (hs : r.status = .pending) :
      Change w false { w with rows := w.rows ++ [r] }
  /-- the call may not receive the rows of its claim -/
  | claimed (targets : List String) {ids claimed : List ℕ} (hids : ids.Nodup) (hp : ∀ i ∈ ids, w.Has i .pending)
      (hc : claimed = ids ∨ claimed = []) :
      Change w (decide (claimed ≠ ids))
        { w.update ids Row.claim with calls := w.calls ++ [⟨targets, claimed, .delete, !claimed.isEmpty⟩] }
  | staged {k : ℕ} {c : Call} {s : Stage} (keys : List String) (hk : w.calls[k]? = some c)
      (hgone : s = .mark → ∃ i r, c.claimed.head? = some i ∧ w.rows[i]? = some r ∧
        r.objectKey ∈ keys ++ w.deleted) :
      Change w false { w.setCall k { c with stage := s } with deleted := keys ++ w.deleted }
  | done {k i : ℕ} {c : Call} {r : Row} (h : w.at k .mark = some (c, i, r)) :
      Change w false { (w.update [i] Row.markDone).setCall k c.next with marked := (r.refTable, r.refID) ::
        w.marked }
  | failed {k i : ℕ} {c : Call} {r : Row} (h : w.at k .markFailed = some (c, i, r)) :
      Change w false ((w.update [i] Row.markFailed).setCall k c.next)
  /-- a mark of the row at hand that does not take effect -/
  | dropped {k i : ℕ} {c : Call} {r : Row} {s : Stage} (h : w.at k s = some (c, i, r)) :
      Change w true (w.setCall k c.next)
  | stopped {k : ℕ} {c : Call} (hk : w.calls[k]? = some c) :
      Change w c.running (w.setCall k { c with running := false })

theorem change (w : World) (e : Event) : ∃ lost, Change w lost (w.step e) ∧ (lost = false ↔ w.Kept e) := by
  cases e with
  | enqueue refTable refID objectKey now =>
    refine ⟨false, ?_, by simp [World.Kept]⟩
    simp only [World.step]
    split
    · exact .idle
    · rename_i hnew
      refine .enqueued ?_ rfl
      intro hmem
      obtain ⟨r, hr, href⟩ := List.mem_map.1 hmem
      simp only [Row.ref, Prod.mk.injEq] at href
      exact hnew (List.any_eq_true.2 ⟨r, hr, by simpa using href⟩)
  | start targets batchSize locked order took received =>
    have hperm : (returning order (w.claimPending batchSize locked)).Perm (w.claimPending batchSize locked) :=
      List.perm_insertionSort _ _
    refine ⟨_, .claimed targets ?_ ?_ ?_, ?_⟩
    · split
      · exact hperm.nodup_iff.2 (nodup_claimPending batchSize locked)
      · exact List.nodup_nil
    · intro i hi
      split at hi
      · exact mem_claimPending (hperm.mem_iff.1 hi)
      · cases hi
    · cases received <;> simp
    · have hnil : returning order (w.claimPending batchSize locked) = [] ↔
          w.claimPending batchSize locked = [] := by
        rw [← List.length_eq_zero_iff, hperm.length_eq, List.length_eq_zero_iff]
      cases took <;> cases received <;> simp [World.Kept, hnil]
  | delete k ok =>
    refine ⟨false, ?_, by simp [World.Kept]⟩
    simp only [World.step]
    split
    · exact .idle
    rename_i c i r hat
    obtain ⟨hk, -, -, hi, hr⟩ := at_eq hat
    split
    · exact .staged [] hk (fun h => nomatch h)
    split
    · exact .staged [r.objectKey] hk fun _ => ⟨i, r, hi, hr, List.mem_cons_self⟩
    · exact .staged [] hk (fun h => nomatch h)
  | mark k committed =>
    simp only [World.step, World.Kept]
    split
    · rename_i hat
      exact ⟨false, .idle, by simp [hat]⟩
    rename_i c i r hat
    cases committed with
    | true => exact ⟨false, .done hat, by simp⟩
    | false => exact ⟨true, .dropped hat, by simp [hat]⟩
  | markFailed k took =>
    simp only [World.step, World.Kept]
    split
    · rename_i hat
      exact ⟨false, .idle, by simp [hat]⟩
    rename_i c i r hat
    cases took with
    | true => exact ⟨false, .failed hat, by simp⟩
    | false => exact ⟨true, .dropped hat, by simp [hat]⟩
  | crash k =>
    simp only [World.step, World.Kept]
    split
    · rename_i hk
      exact ⟨false, .idle, by simp [hk]⟩
    · rename_i c hk
      exact ⟨c.running, .stopped hk, by simp [hk]⟩

/-! ## The invariant -/

structure Call.OK (w : World) (c : Call) : Prop where
  nodup : c.claimed.Nodup
  active : c.running = true → c.claimed ≠ []
  gone : c.running = true → c.stage = .mark →
    ∃ i r, c.claimed.head? = some i ∧ w.rows[i]? = some r ∧ r.objectKey ∈ w.deleted

structure Inv (w : World) : Prop where
  refs : (w.rows.map Row.ref).Nodup
  marked : ∀ r ∈ w.rows, r.ref ∈ w.marked → r.objectKey ∈ w.deleted
  intents : ∀ m ∈ w.marked, m ∈ w.rows.map Row.ref
  calls : ∀ c ∈ w.calls, c.OK w
  held : ∀ c ∈ w.calls, ∀ i, c.holds i = true → w.Has i .processing
  once : ∀ i, AtMostOne (Call.holds i) w.calls

theorem Inv.empty : Inv .empty where
  refs := List.nodup_nil
  marked := by simp [World.empty]
  intents := by simp [World.empty]
  calls := by simp [World.empty]
  held := by simp [World.empty]
  once _ := AtMostOne.nil

/-- The rows and what is known of their objects stay. -/
structure Keeps (w w' : World) : Prop where
  rows : ∀ (i : ℕ) (r : Row), w.rows[i]? = some r → ∃ r', w'.rows[i]? = some r' ∧ r'.objectKey = r.objectKey
  deleted : ∀ key ∈ w.deleted, key ∈ w'.deleted

theorem Keeps.update (hf : ∀ r, (f r).objectKey = r.objectKey)
    (hrows : w'.rows = (w.update ids f).rows) (hdeleted : ∀ key ∈ w.deleted, key ∈ w'.deleted) : Keeps w w' where
  rows i r hr := by
    refine ⟨if i ∈ ids then f r else r, by rw [hrows, rows_update, hr, Option.map_some], ?_⟩
    split
    · exact hf r
    · rfl
  deleted := hdeleted

theorem Keeps.same (hrows : w'.rows = w.rows) (hdeleted : ∀ key ∈ w.deleted, key ∈ w'.deleted) : Keeps w w' where
  rows i r hr := ⟨r, by rw [hrows, hr], rfl⟩
  deleted := hdeleted

theorem Call.OK.mono (h : c.OK w) (hk : Keeps w w') : c.OK w' where
  nodup := h.nodup
  active := h.active
  gone hrun hs := by
    obtain ⟨i, r, hi, hr, hgone⟩ := h.gone hrun hs
    obtain ⟨r', hr', hkey⟩ := hk.rows i r hr
    exact ⟨i, r', hi, hr', by rw [hkey]; exact hk.deleted _ hgone⟩

theorem Call.OK.next (h : c.OK w) : c.next.OK w where
  nodup := h.nodup.sublist (List.tail_sublist _)
  active hrun := by
    simpa [Call.next] using hrun
  gone _ hs := nomatch hs

theorem Call.OK.ended (hrun : c.running = false) (hnodup : c.claimed.Nodup) : c.OK w where
  nodup := hnodup
  active h := absurd h (by simp [hrun])
  gone h := absurd h (by simp [hrun])

theorem Has.not_of {s s' : Status} (h : w.Has i s) (hne : s ≠ s') : ¬w.Has i s' := by
  rintro ⟨r', hr', rfl⟩
  obtain ⟨r, hr, rfl⟩ := h
  exact hne (congrArg _ (Option.some.inj (hr.symm.trans hr')))

/-- The call after its row `i` holds the other rows that it held. -/
theorem Call.holds_next (hi : c.claimed.head? = some i) (hnodup : c.claimed.Nodup) (hrun : c.running = true)
    (j : ℕ) :
    c.next.holds j = (c.holds j && decide (j ≠ i)) := by
  cases hc : c.claimed with
  | nil => simp [hc] at hi
  | cons i' rest =>
    rw [hc] at hi hnodup
    cases hi
    have hrest := (List.nodup_cons.1 hnodup).1
    by_cases hj : j = i
    · subst hj
      simp [Call.holds, Call.next, hc, hrest]
    · by_cases hmem : j ∈ rest
      · have hne : rest ≠ [] := List.ne_nil_of_mem hmem
        simp [Call.holds, Call.next, hc, hrun, hj, hmem, hne]
      · simp [Call.holds, Call.next, hc, hj, hmem]

theorem Call.holds_of_next (hi : c.claimed.head? = some i) (hnodup : c.claimed.Nodup) (hrun : c.running = true)
    {j : ℕ}
    (h : c.next.holds j = true) : c.holds j = true ∧ j ≠ i := by
  rw [Call.holds_next hi hnodup hrun, Bool.and_eq_true, decide_eq_true_eq] at h
  exact h

theorem Call.holds_head (hi : c.claimed.head? = some i) (hrun : c.running = true) : c.holds i = true := by
  simp [Call.holds, hrun, List.mem_of_mem_head? (Option.mem_def.2 hi)]

section

variable (h : Inv w)
include h

/-- No call holds a row that is pending. -/
theorem Inv.pending_unheld (hp : w.Has i .pending) : ∀ c ∈ w.calls, c.holds i = false := by
  intro c hc
  by_contra hh
  exact Has.not_of hp (by decide) (h.held c hc i (by simpa using hh))

/-- While a call holds a row, the calls of the other slots do not. -/
theorem Inv.unheld {c' : Call} {j : ℕ} (hk : w.calls[k]? = some c) (hi : c.holds i = true)
    (hj : w.calls[j]? = some c')
    (hjk : j ≠ k) : c'.holds i = false := (h.once i).others hk hi hj hjk

/-- Calls after a step of the call `k` from `c` to `d`, which holds no more than before. -/
theorem Inv.once_set {d : Call} (hk : w.calls[k]? = some c) (hd : ∀ j, d.holds j = true → c.holds j = true)
    (i : ℕ) :
    AtMostOne (Call.holds i) (w.calls.set k d) := by
  cases hdi : d.holds i with
  | true => exact (h.once i).set hk (hd i hdi)
  | false => exact (h.once i).stop hdi

/-- A step of the call `k` that changes no row. -/
theorem Inv.of_set {d : Call} (hk : w.calls[k]? = some c) (hd : ∀ j, d.holds j = true → c.holds j = true)
    (hrows : w'.rows = w.rows) (hmarked : w'.marked = w.marked) (hdeleted : ∀ key ∈ w.deleted, key ∈ w'.deleted)
    (hcalls : w'.calls = w.calls.set k d) (hok : d.OK w') : Inv w' where
  refs := hrows ▸ h.refs
  marked r hr hm := hdeleted _ (h.marked r (hrows ▸ hr) (hmarked ▸ hm))
  intents m hm := hrows ▸ h.intents m (hmarked ▸ hm)
  calls := by
    rw [hcalls]
    exact forall_step (fun x hx => (h.calls x hx).mono (.same hrows hdeleted)) hok
  held := by
    rw [hcalls]
    unfold World.Has
    rw [hrows]
    exact forall_step h.held fun j hj => h.held c (List.mem_of_getElem? hk) j (hd j hj)
  once := by
    rw [hcalls]
    exact h.once_set hk hd

/-- The rows that are held after the row `i` of the call `k` was settled. -/
theorem Inv.held_next {s : Stage} (hat : w.at k s = some (c, i, r)) :
    ∀ d ∈ w.calls.set k c.next, ∀ j, d.holds j = true → (w.update [i] f).Has j .processing := by
  obtain ⟨hk, hrun, -, hi, -⟩ := at_eq hat
  intro d hd j hj
  have hne : j ≠ i ∧ w.Has j .processing := by
    obtain ⟨l, hl⟩ := List.mem_iff_getElem?.1 hd
    rcases slot_of_set hl with ⟨-, rfl⟩ | ⟨hlk, hl⟩
    · obtain ⟨hcj, hne⟩ := Call.holds_of_next hi (h.calls c (List.mem_of_getElem? hk)).nodup hrun hj
      exact ⟨hne, h.held c (List.mem_of_getElem? hk) j hcj⟩
    · refine ⟨?_, h.held d (List.mem_of_getElem? hl) j hj⟩
      rintro rfl
      rw [h.unheld hk (Call.holds_head hi hrun) hl hlk] at hj
      cases hj
  exact (has_update_of_notMem (by simpa using hne.1)).2 hne.2

/-- The table after an update that keeps the references and the keys. -/
theorem Inv.of_update (ids : List ℕ) (f : Row → Row) (hf : ∀ r, (f r).ref = r.ref ∧ (f r).objectKey = r.objectKey)
    (hrows : w'.rows = (w.update ids f).rows) (hdeleted : w'.deleted = w.deleted)
    (hmarked : ∀ m ∈ w'.marked, m ∈ w.marked ∨ ∃ r ∈ w.rows, r.ref = m ∧ r.objectKey ∈ w.deleted)
    (hcalls : ∀ c ∈ w'.calls, c.OK w) (hheld : ∀ c ∈ w'.calls, ∀ i, c.holds i = true → w'.Has i .processing)
    (honce : ∀ i, AtMostOne (Call.holds i) w'.calls) : Inv w' where
  refs := by
    rw [hrows, refs_update fun r => (hf r).1]
    exact h.refs
  marked r hr hm := by
    rw [hrows] at hr
    obtain ⟨r', hr', href, hkey⟩ := mem_update hf hr
    rw [← href] at hm
    rw [← hkey, hdeleted]
    rcases hmarked _ hm with hold | ⟨r'', hr'', href', hgone⟩
    · exact h.marked r' hr' hold
    · rw [← List.inj_on_of_nodup_map h.refs hr'' hr' href']
      exact hgone
  intents m hm := by
    rw [hrows, refs_update fun r => (hf r).1]
    rcases hmarked m hm with hold | ⟨r, hr, rfl, -⟩
    · exact h.intents m hold
    · exact List.mem_map_of_mem hr
  calls c hc := (hcalls c hc).mono (.update (fun r => (hf r).2) hrows fun key hkey => hdeleted ▸ hkey)
  held := hheld
  once := honce

end

theorem Inv.change (h : Inv w) (hc : Change w lost w') : Inv w' := by
  cases hc with
  | idle => exact h
  | @enqueued r hnew hs =>
    have happend : ∀ {i : ℕ} {r' : Row}, w.rows[i]? = some r' → (w.rows ++ [r])[i]? = some r' := by
      intro i r' hr'
      rw [List.getElem?_append_left (List.getElem?_eq_some_iff.1 hr').1]
      exact hr'
    refine ⟨?_, ?_, ?_, ?_, ?_, h.once⟩
    · rw [List.map_append, List.nodup_append_comm]
      exact List.nodup_cons.2 ⟨hnew, h.refs⟩
    · intro r' hr' hm
      rcases List.mem_append.1 hr' with hr' | hr'
      · exact h.marked r' hr' hm
      · cases List.mem_singleton.1 hr'
        exact absurd (h.intents _ hm) hnew
    · intro m hm
      rw [List.map_append]
      exact List.mem_append_left _ (h.intents m hm)
    · exact fun c hc => (h.calls c hc).mono ⟨fun i r' hr' => ⟨r', happend hr', rfl⟩, fun _ => id⟩
    · intro c hc i hi
      obtain ⟨r', hr', hs'⟩ := h.held c hc i hi
      exact ⟨r', happend hr', hs'⟩
  | @claimed targets ids claimed hids hp hc =>
    have hsub : ∀ i ∈ claimed, i ∈ ids := by
      rcases hc with rfl | rfl
      · exact fun i hi => hi
      · exact fun i hi => absurd hi List.not_mem_nil
    have hnodup : claimed.Nodup := by
      rcases hc with rfl | rfl
      · exact hids
      · exact List.nodup_nil
    refine h.of_update ids Row.claim (fun r => ⟨rfl, rfl⟩) rfl rfl (fun m hm => .inl hm)
      (forall_start h.calls ⟨hnodup, fun hrun => by simpa using hrun, fun _ hs => nomatch hs⟩) ?_ ?_
    · intro c hc i hi
      rcases List.mem_append.1 hc with hc | hc
      · have hnew : i ∉ ids := fun hmem => Has.not_of (hp i hmem) (by decide) (h.held c hc i hi)
        exact (has_update_of_notMem hnew).2 (h.held c hc i hi)
      · cases List.mem_singleton.1 hc
        simp only [Call.holds, Bool.and_eq_true, decide_eq_true_eq] at hi
        obtain ⟨r, hr, -⟩ := hp i (hsub i hi.2)
        exact has_update_of_mem (fun _ => rfl) (hsub i hi.2) (by simp [hr])
    · intro i
      by_cases hi : i ∈ claimed
      · exact AtMostOne.concat (h.pending_unheld (hp i (hsub i hi)))
      · exact (h.once i).start (by simp [Call.holds, hi])
  | @staged k c s keys hk hgone =>
    have hc := h.calls c (List.mem_of_getElem? hk)
    exact h.of_set (d := { c with stage := s }) hk (fun j hj => hj) rfl rfl (fun _ => List.mem_append_right _) rfl
      ⟨hc.nodup, hc.active, fun _ hs => hgone hs⟩
  | @done k i c r hat =>
    obtain ⟨hk, hrun, hs, hi, hr⟩ := at_eq hat
    have hc := h.calls c (List.mem_of_getElem? hk)
    have hgone : r.objectKey ∈ w.deleted := by
      obtain ⟨i', r', hi', hr', hgone⟩ := hc.gone hrun hs
      cases hi.symm.trans hi'
      cases hr.symm.trans hr'
      exact hgone
    refine h.of_update [i] Row.markDone (fun r => ⟨rfl, rfl⟩) rfl rfl ?_ (forall_step h.calls hc.next)
      (h.held_next hat) (h.once_set hk fun j hj => (Call.holds_of_next hi hc.nodup hrun hj).1)
    intro m hm
    rcases List.mem_cons.1 hm with rfl | hm
    · exact .inr ⟨r, List.mem_of_getElem? hr, rfl, hgone⟩
    · exact .inl hm
  | @failed k i c r hat =>
    obtain ⟨hk, hrun, -, hi, -⟩ := at_eq hat
    have hc := h.calls c (List.mem_of_getElem? hk)
    exact h.of_update [i] Row.markFailed (fun r => ⟨rfl, rfl⟩) rfl rfl (fun m hm => .inl hm)
      (forall_step h.calls hc.next) (h.held_next hat)
      (h.once_set hk fun j hj => (Call.holds_of_next hi hc.nodup hrun hj).1)
  | @dropped k i c r s hat =>
    obtain ⟨hk, hrun, -, hi, -⟩ := at_eq hat
    have hc := h.calls c (List.mem_of_getElem? hk)
    exact h.of_set hk (fun j hj => (Call.holds_of_next hi hc.nodup hrun hj).1) rfl rfl (fun _ => id) rfl
      (hc.next.mono (.same rfl fun _ => id))
  | @stopped k c hk =>
    have hc := h.calls c (List.mem_of_getElem? hk)
    exact h.of_set (d := { c with running := false }) hk (fun j hj => by cases hj) rfl rfl (fun _ => id) rfl
      (.ended rfl hc.nodup)

/-! ## Lost rows -/

/-- A call whose hold on the row `i` is the same after a step. -/
theorem unheld_set_iff {d : Call} (hk : w.calls[k]? = some c) (hd : d.holds i = c.holds i) :
    (∀ x ∈ w.calls.set k d, x.holds i = false) ↔ ∀ x ∈ w.calls, x.holds i = false := by
  constructor
  · intro hfree x hx
    by_cases hxc : x = c
    · rw [hxc, ← hd]
      exact hfree d (mem_set_self hk)
    · exact hfree x (mem_set_of_ne hk hx hxc)
  · intro hfree
    exact forall_step hfree (hd.trans (hfree c (List.mem_of_getElem? hk)))

/-- The row at hand that was settled, and the others. -/
theorem Inv.lost_settled (h : Inv w) {s : Stage} {j : ℕ} (hat : w.at k s = some (c, j, r))
    (hf : ∀ r, (f r).status ≠ .processing) :
    ((w.update [j] f).Has i .processing ∧ ∀ x ∈ w.calls.set k c.next, x.holds i = false) ↔ w.Lost i := by
  obtain ⟨hk, hrun, -, hj, hr⟩ := at_eq hat
  have hmem := List.mem_of_getElem? hk
  by_cases hij : i = j
  · subst hij
    constructor
    · rintro ⟨⟨r', hr', hs⟩, -⟩
      rw [rows_update, hr, Option.map_some, if_pos (List.mem_singleton.2 rfl)] at hr'
      cases hr'
      exact absurd hs (hf r)
    · rintro ⟨-, hfree⟩
      have hheld := Call.holds_head hj hrun
      rw [hfree c hmem] at hheld
      cases hheld
  · have hnext : c.next.holds i = c.holds i := by
      rw [Call.holds_next hj (h.calls c hmem).nodup hrun]
      simp [hij]
    rw [has_update_of_notMem (by simpa using hij), unheld_set_iff hk hnext]
    exact Iff.rfl

theorem Change.lost_iff (h : Inv w) (hc : Change w lost w') (hkept : lost = false) : w'.Lost i ↔ w.Lost i := by
  cases hc with
  | idle => exact Iff.rfl
  | @enqueued r hnew hs =>
    refine and_congr_left fun _ => ⟨?_, ?_⟩
    · rintro ⟨r', hr', hs'⟩
      rcases slot_of_concat hr' with hr' | ⟨-, rfl⟩
      · exact ⟨r', hr', hs'⟩
      · rw [hs] at hs'
        cases hs'
    · rintro ⟨r', hr', hs'⟩
      refine ⟨r', ?_, hs'⟩
      rw [List.getElem?_append_left (List.getElem?_eq_some_iff.1 hr').1]
      exact hr'
  | @claimed targets ids claimed hids hp hc =>
    obtain rfl : claimed = ids := by simpa using hkept
    by_cases hi : i ∈ claimed
    · constructor
      · rintro ⟨-, hfree⟩
        have hheld := hfree _ (List.mem_append_right _ (List.mem_singleton.2 rfl))
        simp [Call.holds, hi, List.ne_nil_of_mem hi] at hheld
      · rintro ⟨hhas, -⟩
        exact absurd hhas (Has.not_of (hp i hi) (by decide))
    · refine and_congr (has_update_of_notMem hi)
        ⟨fun hfree x hx => hfree x (List.mem_append_left _ hx), fun hfree => ?_⟩
      exact forall_start hfree (by simp [Call.holds, hi])
  | staged keys hk hgone => exact and_congr_right fun _ => unheld_set_iff hk rfl
  | done hat => exact h.lost_settled hat (by simp [Row.markDone])
  | failed hat => exact h.lost_settled hat (by simp [Row.markFailed])
  | dropped hat => cases hkept
  | stopped hk => exact and_congr_right fun _ => unheld_set_iff hk (by simp [Call.holds, hkept])

/-- A call that lets go of the row `i` leaves it to nobody. -/
theorem Inv.released (h : Inv w) {d : Call} (hk : w.calls[k]? = some c) (hi : c.holds i = true)
    (hd : d.holds i = false) :
    (w.setCall k d).Lost i := by
  refine ⟨h.held c (List.mem_of_getElem? hk) i hi, fun x hx => ?_⟩
  rcases (h.once i).of_mem_set hk hi hx with rfl | hx
  · exact hd
  · exact hx

theorem Change.loses (h : Inv w) (hc : Change w lost w') (hlost : lost = true) : ∃ i, w'.Lost i := by
  cases hc with
  | @claimed targets ids claimed hids hp hc =>
    have hne : claimed ≠ ids := of_decide_eq_true hlost
    obtain rfl := hc.resolve_left hne
    obtain ⟨i, hi⟩ := List.exists_mem_of_ne_nil _ hne.symm
    obtain ⟨r, hr, -⟩ := hp i hi
    exact ⟨i, has_update_of_mem (fun _ => rfl) hi (by simp [hr]), forall_start (h.pending_unheld (hp i hi)) rfl⟩
  | @dropped k i c r s hat =>
    obtain ⟨hk, hrun, -, hi, -⟩ := at_eq hat
    refine ⟨i, h.released hk (Call.holds_head hi hrun) ?_⟩
    rw [Call.holds_next hi (h.calls c (List.mem_of_getElem? hk)).nodup hrun]
    simp
  | @stopped k c hk =>
    have hne := (h.calls c (List.mem_of_getElem? hk)).active hlost
    obtain ⟨i, hi⟩ := List.exists_mem_of_ne_nil _ hne
    exact ⟨i, h.released hk (by simp [Call.holds, hlost, hi]) rfl⟩
  | _ => cases hlost

/-- **A run loses no row exactly when none of its steps does**: what is lost stays lost. -/
theorem run_lost_iff (es : List Event) : ∀ {w : World}, Inv w →
    ((∀ i, ¬(run World.step w es).Lost i) ↔ (∀ i, ¬w.Lost i) ∧ Along World.step World.Kept w es) := by
  induction es with
  | nil => exact fun _ => ⟨fun h => ⟨h, trivial⟩, fun h => h.1⟩
  | cons e es ih =>
    intro w h
    obtain ⟨lost, hc, hkept⟩ := change w e
    rw [run_cons, ih (h.change hc)]
    simp only [Along]
    cases lost with
    | false =>
      have hstep : (∀ i, ¬(w.step e).Lost i) ↔ ∀ i, ¬w.Lost i :=
        forall_congr' fun i => not_congr (hc.lost_iff h rfl)
      rw [hstep]
      simp [hkept.1 rfl]
    | true =>
      obtain ⟨i, hi⟩ := hc.loses h rfl
      have hnot : ¬w.Kept e := fun hk => Bool.noConfusion (hkept.2 hk)
      exact ⟨fun hfree => absurd hi (hfree.1 i), fun hall => absurd hall.2.1 hnot⟩

/-- **A deletion is never claimed early, and is forgotten exactly when a call loses it.** In every reachable
state the metadata of a row are marked only if the `Delete` of its object succeeded. In every reachable state
without a running call, all intents that are not done can be claimed if and only if no step of the run has
lost a claimed row. -/
theorem deletion_kept_iff (es : List Event) :
    let w := run World.step .empty es
    (∀ r ∈ w.rows, (r.refTable, r.refID) ∈ w.marked → r.objectKey ∈ w.deleted) ∧
      ((∀ c ∈ w.calls, c.running = false) →
        ((∀ (i : ℕ) (r : Row), w.rows[i]? = some r → r.status ≠ .done → w.Claimable i) ↔
          Along World.step World.Kept .empty es)) := by
  intro w
  have h : Inv w := run_inv (fun w e hw => by
    obtain ⟨lost, hc, -⟩ := change w e
    exact hw.change hc) Inv.empty es
  refine ⟨h.marked, fun hrest => ?_⟩
  have hlost := run_lost_iff es Inv.empty
  have hempty : ∀ i, ¬World.empty.Lost i := fun i hi => by
    obtain ⟨⟨r, hr, -⟩, -⟩ := hi
    simp [World.empty] at hr
  rw [← and_iff_right hempty (b := Along World.step World.Kept .empty es), ← hlost]
  -- without a running call, the lost rows are those that are being processed
  constructor
  · rintro hall i ⟨⟨r, hr, hs⟩, -⟩
    have hpending := claimable_iff.1 (hall i r hr (by simp [hs]))
    exact Has.not_of hpending (by decide) ⟨r, hr, hs⟩
  · intro hfree i r hr hs
    refine claimable_iff.2 ⟨r, hr, ?_⟩
    cases hstatus : r.status with
    | pending => rfl
    | processing => exact absurd ⟨⟨r, hr, hstatus⟩, fun c hc => by simp [Call.holds, hrest c hc]⟩ (hfree i)
    | done => exact absurd hstatus hs

/-- The object is gone, but the marking transaction fails. -/
def Sample.outage : List Event :=
  [.enqueue "kyc_documents" 1 "documents/1" 0, .start ["kyc_documents"] 100 [] [] true true, .delete 0 true,
    .mark 0 false]

theorem outage_forgets :
    let w := run World.step .empty Sample.outage
    (∀ c ∈ w.calls, c.running = false) ∧ w.Has 0 .processing ∧ ¬w.Claimable 0 := by
  intro w
  have hhas : w.Has 0 .processing :=
    ⟨⟨"kyc_documents", 1, "documents/1", 0, .processing, 0⟩, by decide +kernel, rfl⟩
  refine ⟨by decide +kernel, hhas, fun hclaim => ?_⟩
  exact Has.not_of hhas (by decide) (claimable_iff.1 hclaim)

end Seev.Lifecycle.ObjectOutbox
