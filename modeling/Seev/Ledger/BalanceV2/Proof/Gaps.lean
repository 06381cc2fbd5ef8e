import Seev.Ledger.World
import Seev.Ledger.BalanceV2.Compare

/-!
# Gaps of the shadow writes

Outside strict mode a posting goes on when a write to the target fails. The loop over its accounts
stops at the first failure, the savepoint takes back the writes before it, and gaps are recorded for
the accounts up to there. The accounts behind it are neither written nor recorded.

* `reached`: the accounts the loop comes to.
* `gap_opened_iff`: the accounts with an open gap afterwards.
* `shadow_gaps_iff`: when no account of the posting is left without one.
-/

namespace Seev.Ledger.BalanceV2

open Lib

namespace Sample

/-- Both configuration switches as a process that takes part has them. -/
def cfg : Config := ⟨true, false⟩

/-- User 1 has 20000; nothing has happened yet. -/
def db : Db :=
  ⟨fun id => if id = 11 then some 20000 else if id ∈ Ledger.Sample.accounts.rows.map AccountRow.id then some 0
    else none, ∅, [], fun _ => none, []⟩

end Sample

variable {E : Env} {db : Db} {V : Versions} {failing lost : UUID → Bool} {T T' : Targets} {M M' : Mismatches}
  {tx : Option UUID} {txID a : UUID} {ids : List UUID} {sources : List SourceRow} {x : Stopped} {cfg : Config}
  {control : Option Migration} {m : Migration} {source : SourceRow} {id : UUID}

/-! ## The loop -/

theorem readSource_eq_some : readSource E db V id = some source ↔
    ∃ r b, E.accounts.byID id = some r ∧ db.balances id = some b ∧
      source = ⟨id, r.currency, r.type, b, r.allowNegative, V id⟩ := by
  unfold readSource
  cases hrow : E.accounts.byID id with
  | none => simp
  | some r =>
    cases hbal : db.balances id with
    | none => simp
    | some b => simp [eq_comm]

theorem readSource_fields (h : readSource E db V id = some source) :
    source.accountID = id ∧ source.sourceVersion = V id ∧ (db.balances id).isSome := by
  obtain ⟨r, b, -, hb, rfl⟩ := readSource_eq_some.1 h
  exact ⟨rfl, rfl, by rw [hb]; rfl⟩

/-- The write for account `id` fails. -/
def writeFails (E : Env) (db : Db) (V : Versions) (failing : UUID → Bool) (tx : Option UUID) (id : UUID) : Bool :=
  match readSource E db V id with
  | none => true
  | some source =>
    match transform E source tx with
    | .error _ => true
    | .ok _ => failing id

/-- The accounts up to the first one that fails, with it. -/
def reached (fails : UUID → Bool) : List UUID → List UUID
  | [] => []
  | id :: ids => if fails id then [id] else id :: reached fails ids

theorem writeAll_error (h : ∃ id ∈ ids, writeFails E db V failing tx id = true) (sources : List SourceRow)
    (T : Targets) : ∃ x, writeAll E db V failing tx sources T ids = .error x := by
  induction ids generalizing sources T with
  | nil =>
    obtain ⟨id, hid, -⟩ := h
    cases hid
  | cons id ids ih =>
    rw [writeAll]
    cases hsource : readSource E db V id with
    | none => exact ⟨_, rfl⟩
    | some source =>
      dsimp only
      cases htarget : transform E source tx with
      | error e => exact ⟨_, rfl⟩
      | ok target =>
        dsimp only
        split
        · exact ⟨_, rfl⟩
        · rename_i hfailing
          apply ih
          obtain ⟨id', hid', hfails⟩ := h
          rcases List.mem_cons.1 hid' with rfl | hid'
          · simp [writeFails, hsource, htarget, hfailing] at hfails
          · exact ⟨id', hid', hfails⟩

theorem recordShadowWriteGaps_accounts (x : Stopped) (a : UUID) :
    (∃ c ∈ recordShadowWriteGaps x, c.accountID = a) ↔
      a ∈ x.sources.map SourceRow.accountID ∨ a = x.failedAccount ∧ a ≠ UUID.nil := by
  have hsources : ∀ source ∈ x.sources, ∃ c ∈ recordShadowWriteGaps x, c.accountID = source.accountID := by
    intro source hs
    exact ⟨_, List.mem_append_left _ (List.mem_map_of_mem hs), rfl⟩
  constructor
  · rintro ⟨c, hc, rfl⟩
    rcases List.mem_append.1 hc with hc | hc
    · obtain ⟨source, hs, rfl⟩ := List.mem_map.1 hc
      exact .inl (List.mem_map_of_mem hs)
    · split at hc
      · rename_i hfailed
        rw [List.mem_singleton.1 hc]
        exact .inr ⟨rfl, hfailed.1⟩
      · cases hc
  · rintro (hs | ⟨rfl, hnil⟩)
    · obtain ⟨source, hmem, rfl⟩ := List.mem_map.1 hs
      exact hsources source hmem
    · by_cases hseen : x.failedAccount ∈ x.sources.map SourceRow.accountID
      · obtain ⟨source, hs, heq⟩ := List.mem_map.1 hseen
        rw [← heq]
        exact hsources source hs
      · refine ⟨writeGap x.failedAccount x.failedVersion, List.mem_append_right _ ?_, rfl⟩
        rw [if_pos ⟨hnil, hseen⟩]
        exact List.mem_singleton.2 rfl

/-- The accounts a gap is recorded for: those whose rows were read before, and those the loop comes to. Only an
account without an id and without a row is passed over. -/
theorem gap_accounts (h : writeAll E db V failing tx sources T ids = .error x) (a : UUID) :
    (∃ c ∈ recordShadowWriteGaps x, c.accountID = a) ↔
      a ∈ sources.map SourceRow.accountID ∨
        a ∈ reached (writeFails E db V failing tx) ids ∧ (a ≠ UUID.nil ∨ (readSource E db V a).isSome) := by
  induction ids generalizing sources T with
  | nil => cases h
  | cons id ids ih =>
    rw [writeAll] at h
    cases hsource : readSource E db V id with
    | none =>
      rw [hsource] at h
      cases h
      rw [recordShadowWriteGaps_accounts, reached, if_pos (by simp [writeFails, hsource]), List.mem_singleton]
      refine or_congr_right (and_congr_right ?_)
      rintro rfl
      simp [hsource]
    | some source =>
      rw [hsource] at h
      have hid : source.accountID = id := (readSource_fields hsource).1
      -- the row of the account was read, so it is among the sources
      have hstop : writeFails E db V failing tx id = true →
          (a ∈ (sources ++ [source]).map SourceRow.accountID ∨ a = id ∧ a ≠ UUID.nil ↔
            a ∈ sources.map SourceRow.accountID ∨ a ∈ reached (writeFails E db V failing tx) (id :: ids) ∧
              (a ≠ UUID.nil ∨ (readSource E db V a).isSome)) := by
        intro hfails
        rw [reached, if_pos hfails, List.mem_singleton, List.map_append, List.mem_append, List.map_singleton,
          List.mem_singleton, hid, or_assoc]
        refine or_congr_right ⟨?_, fun h => .inl h.1⟩
        rintro (rfl | ⟨rfl, -⟩) <;> exact ⟨rfl, .inr (by simp [hsource])⟩
      dsimp only at h
      cases htarget : transform E source tx with
      | error e =>
        rw [htarget] at h
        cases h
        rw [recordShadowWriteGaps_accounts]
        exact hstop (by simp [writeFails, hsource, htarget])
      | ok target =>
        rw [htarget] at h
        dsimp only at h
        split at h
        · rename_i hfailing
          cases h
          rw [recordShadowWriteGaps_accounts]
          exact hstop (by simp [writeFails, hsource, htarget, hfailing])
        · rename_i hfailing
          have hfails : writeFails E db V failing tx id = false := by
            simp [writeFails, hsource, htarget, hfailing]
          rw [ih h, reached, if_neg (by simp [hfails]), List.map_append, List.mem_append, List.map_singleton,
            List.mem_singleton, hid, List.mem_cons, or_assoc]
          refine or_congr_right ?_
          constructor
          · rintro (rfl | hrest)
            · exact ⟨.inl rfl, .inr (by simp [hsource])⟩
            · exact ⟨.inr hrest.1, hrest.2⟩
          · rintro ⟨rfl | hrest, hrow⟩
            · exact .inl rfl
            · exact .inr ⟨hrest, hrow⟩

/-! ## The mismatch table -/

/-- An open gap is recorded for the account. -/
def HasGap (M : Mismatches) (a : UUID) : Prop := ∃ x, M a .liveWrite = some x ∧ x.status = .opened

/-- The account's gaps are ignored. -/
def GapIgnored (M : Mismatches) (a : UUID) : Prop := ∃ x, M a .liveWrite = some x ∧ x.status = .ignoredWithReason

theorem record_gap (M : Mismatches) (c : Comparison) (hc : c.resourceLayer = some .liveWrite)
    (hresult : c.result = .writeGap) (hsev : c.severity = .critical) (a : UUID) :
    (HasGap (M.record c) a ↔ HasGap M a ∨ c.accountID = a ∧ ¬ GapIgnored M a) ∧
      (GapIgnored (M.record c) a ↔ GapIgnored M a) := by
  have hlayer : c.layer = .liveWrite := by simp [Comparison.layer, hc]
  by_cases ha : c.accountID = a
  · subst ha
    by_cases hignored : (M c.accountID .liveWrite).any (·.status = .ignoredWithReason) = true
    · have hold : GapIgnored M c.accountID := by
        obtain ⟨x, hx, hstatus⟩ := (Option.any_eq_true _ _).1 hignored
        exact ⟨x, hx, by simpa using hstatus⟩
      obtain ⟨x, hx, hstatus⟩ := hold
      simp [HasGap, GapIgnored, Mismatches.record, hlayer, hx, hstatus, hresult]
    · have hold : ¬ GapIgnored M c.accountID := by
        rintro ⟨x, hx, hstatus⟩
        simp [hx, hstatus] at hignored
      refine ⟨⟨fun _ => .inr ⟨rfl, hold⟩, fun _ => ?_⟩, ⟨?_, fun h => absurd h hold⟩⟩
      · simp [HasGap, Mismatches.record, hlayer, hignored, hresult, hsev]
      · rintro ⟨x, hx, hstatus⟩
        simp only [Mismatches.record, hlayer, hignored, hresult, hsev, Function.update_self, reduceCtorEq,
          if_false, Bool.false_eq_true, Option.some.injEq] at hx
        rw [← hx] at hstatus
        cases hstatus
  · have hsame : M.record c a = M a := by
      simp [Mismatches.record, Function.update_of_ne (Ne.symm ha)]
    simp [HasGap, GapIgnored, hsame, ha]

/-- A list of gaps, recorded one after the other. -/
theorem foldl_record_gap (gaps : List Comparison)
    (hgaps : ∀ c ∈ gaps, c.resourceLayer = some .liveWrite ∧ c.result = .writeGap ∧ c.severity = .critical)
    (M : Mismatches) (a : UUID) :
    HasGap (gaps.foldl Mismatches.record M) a ↔
      HasGap M a ∨ (∃ c ∈ gaps, c.accountID = a) ∧ ¬ GapIgnored M a := by
  induction gaps generalizing M with
  | nil => simp
  | cons c gaps ih =>
    obtain ⟨hlayer, hresult, hsev⟩ := hgaps c List.mem_cons_self
    obtain ⟨hgap, hignored⟩ := record_gap M c hlayer hresult hsev a
    rw [List.foldl_cons, ih fun c' hc' => hgaps c' (List.mem_cons_of_mem _ hc'), hgap, hignored]
    rw [List.exists_mem_cons_iff, or_and_right, or_assoc]

/-- **The accounts with an open gap afterwards.** -/
theorem gap_opened_iff (h : writeAll E db V failing tx [] T ids = .error x) (a : UUID) :
    HasGap (recordGaps lost M (recordShadowWriteGaps x)) a ↔
      HasGap M a ∨ (a ∈ reached (writeFails E db V failing tx) ids ∧
        (a ≠ UUID.nil ∨ (readSource E db V a).isSome)) ∧
        lost a = false ∧ ¬ GapIgnored M a := by
  have hgaps : ∀ c ∈ recordShadowWriteGaps x,
      c.resourceLayer = some .liveWrite ∧ c.result = .writeGap ∧ c.severity = .critical := by
    intro c hc
    rcases List.mem_append.1 hc with hc | hc
    · obtain ⟨source, -, rfl⟩ := List.mem_map.1 hc
      exact ⟨rfl, rfl, rfl⟩
    · split at hc
      · rw [List.mem_singleton.1 hc]
        exact ⟨rfl, rfl, rfl⟩
      · cases hc
  have haccounts := gap_accounts h a
  simp only [List.map_nil, List.not_mem_nil, false_or] at haccounts
  rw [recordGaps, foldl_record_gap _ (fun c hc => hgaps c (List.mem_of_mem_filter hc)), ← haccounts]
  refine or_congr_right ?_
  constructor
  · rintro ⟨⟨c, hc, rfl⟩, hignored⟩
    obtain ⟨hc, hlost⟩ := List.mem_filter.1 hc
    exact ⟨⟨c, hc, rfl⟩, by simpa using hlost, hignored⟩
  · rintro ⟨⟨c, hc, rfl⟩, hlost, hignored⟩
    exact ⟨⟨c, List.mem_filter.2 ⟨hc, by simp [hlost]⟩, rfl⟩, hignored⟩

/-! ## A posting -/

/-- The target has the account at the version of the source. -/
def AtVersion (V : Versions) (T : Targets) (a : UUID) : Prop := ∃ t, T a = some t ∧ t.sourceVersion = V a

/-- Every account of the posting is at its new version in the target, or has an open gap. -/
def NoSilentGap (V : Versions) (T : Targets) (M : Mismatches) (ids : List UUID) : Prop :=
  ∀ a ∈ ids, ¬ AtVersion V T a → HasGap M a

/-- The control record lets the posting write the target, and go on without. -/
structure ShadowWrites (cfg : Config) (m : Migration) : Prop where
  active : cfg.active = true
  source : m.sourceWriteEnabled = true
  stage : m.effective = .backfilling ∨ m.targetWriteStage = true ∧ m.targetWriteEnabled = true
  shadow : m.strictPosting = false

/-- **When a posting whose target write fails leaves no silent gap**: when each account that is behind already
has an open gap, or is one the loop came to before it stopped, with a gap that could be recorded and is not
ignored. -/
theorem shadow_gaps_iff (E : Env) (db : Db) (V : Versions) (failing lost : UUID → Bool) (T : Targets)
    (M : Mismatches)
    (ids : List UUID) (txID : UUID) (hm : ShadowWrites cfg m)
    (hfail : ∃ id ∈ ids, writeFails E db V failing (some txID) id = true) :
    ∃ M', writeForPostingWithGaps E db V failing cfg (some m) lost T M ids txID = .ok (T, M') ∧
      (NoSilentGap V T M' ids ↔ ∀ a ∈ ids, ¬ AtVersion V T a → HasGap M a ∨
        (a ∈ reached (writeFails E db V failing (some txID)) ids ∧
          (a ≠ UUID.nil ∨ (readSource E db V a).isSome)) ∧
          lost a = false ∧ ¬ GapIgnored M a) := by
  obtain ⟨x, hx⟩ := writeAll_error hfail [] T
  refine ⟨recordGaps lost M (recordShadowWriteGaps x), ?_, ?_⟩
  · have hstage : ¬ (m.effective ≠ .backfilling ∧ (!m.targetWriteStage ∨ !m.targetWriteEnabled)) := by
      rintro ⟨hne, hoff⟩
      rcases hm.stage with heq | ⟨hwrite, henabled⟩
      · exact hne heq
      · simp [hwrite, henabled] at hoff
    unfold writeForPostingWithGaps
    rw [if_neg (by simp [hm.active])]
    dsimp only
    rw [if_neg (by simp [hm.source]), if_neg hstage, hx]
    dsimp only
    rw [if_neg (by simp [hm.shadow])]
  · exact forall₃_congr fun a _ _ => gap_opened_iff hx a

namespace Sample

/-- Dual writes that may fail. -/
def shadow : Migration := ⟨.dualWriteShadow, none, 0, false, true, true, 6⟩

/-- The accounts of a top-up of user 1: the gateway's settlement account and the user's own. -/
def topupAccounts : List UUID := [91, 11]

end Sample

theorem shadow_writes : ShadowWrites Sample.cfg Sample.shadow := ⟨rfl, rfl, .inr ⟨rfl, rfl⟩, rfl⟩

/-- The write fails at the last account. -/
theorem shadow_gaps_iff_last :
    ∃ M', writeForPostingWithGaps Ledger.Sample.env Sample.db (fun _ => 1) (· = 11) Sample.cfg
      (some Sample.shadow)
        (fun _ => false) (fun _ => none) (fun _ _ => none) Sample.topupAccounts 7 = .ok (fun _ => none, M') ∧
      NoSilentGap (fun _ => 1) (fun _ => none) M' Sample.topupAccounts := by
  obtain ⟨M', hM', hiff⟩ := shadow_gaps_iff Ledger.Sample.env Sample.db (fun _ => 1) (· = 11) (fun _ => false)
    (fun _ => none) (fun _ _ => none) Sample.topupAccounts 7 shadow_writes ⟨11, by decide, by decide⟩
  have hreached : ∀ a ∈ Sample.topupAccounts,
      a ∈ reached (writeFails Ledger.Sample.env Sample.db (fun _ => 1) (· = 11) (some 7))
        Sample.topupAccounts := by
    decide
  refine ⟨M', hM', hiff.2 fun a ha _ => .inr ⟨⟨hreached a ha, .inl ?_⟩, rfl, ?_⟩⟩
  · rintro rfl
    exact absurd ha (by decide)
  · rintro ⟨_, h, -⟩
    cases h

/-- The write fails at the first account: the second one has no row of the target and no gap. -/
theorem shadow_gap_silent :
    ∃ M', writeForPostingWithGaps Ledger.Sample.env Sample.db (fun _ => 1) (· = 91) Sample.cfg
      (some Sample.shadow)
        (fun _ => false) (fun _ => none) (fun _ _ => none) Sample.topupAccounts 7 = .ok (fun _ => none, M') ∧
      11 ∈ Sample.topupAccounts ∧ M' 11 .liveWrite = none ∧
      ¬ NoSilentGap (fun _ => 1) (fun _ => none) M' Sample.topupAccounts := by
  refine ⟨_, rfl, by decide, rfl, fun h => ?_⟩
  obtain ⟨x, hx, -⟩ := h 11 (by decide) (fun ⟨_, ht, _⟩ => nomatch ht)
  cases hx

end Seev.Ledger.BalanceV2
