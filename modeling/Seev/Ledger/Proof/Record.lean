import Seev.Ledger.Proof.Conservation

/-!
# The permanent record

* `record_kept`: between any two points of a run the journal only grows, by rows of new transactions, and a
  header stays as it is, but that one posted transaction may close it, once.
* `outbox_announces`: the outbox is, in the order of the commits, the events of the posted transactions.
-/

namespace Seev.Ledger

open Lib

variable {E : Env} {w w₁ w₂ : World} {db db' : Db} {t u : UUID} {r : TxRow} {before events : List OutboxEvent}
  {p : UUID × ResolvedCommand}

theorem ne_of_fresh (hfresh : u ∉ db.txs) (hr : db.txs.lookup t = some r) : t ≠ u := by
  rintro rfl
  exact hfresh (AList.lookup_isSome.1 (by simp [hr]))

/-- What a later state `w'` keeps of `w`. -/
structure Extends (w w' : World) : Prop where
  posted : w.posted <+: w'.posted
  entries : ∃ new, w'.db.entries = w.db.entries ++ new ∧ ∀ e ∈ new, e.transactionID ∉ w.db.txs
  headers : ∀ t r, w.db.txs.lookup t = some r → ∃ r', w'.db.txs.lookup t = some r' ∧
    (r' = r ∨ r.closedByTxID = none ∧ ∃ p ∈ w'.posted, ∃ reason, r' = r.close p.1 reason)

theorem Extends.refl (w : World) : Extends w w :=
  ⟨List.prefix_refl _, ⟨[], by simp⟩, fun _ r hr => ⟨r, hr, .inl rfl⟩⟩

theorem Extends.trans (h : Extends w w₁) (h' : Extends w₁ w₂) : Extends w w₂ := by
  obtain ⟨new, hnew, hfresh⟩ := h.entries
  obtain ⟨new', hnew', hfresh'⟩ := h'.entries
  refine ⟨h.posted.trans h'.posted, ⟨new ++ new', by rw [hnew', hnew, List.append_assoc], ?_⟩, fun t r hr => ?_⟩
  · intro e he hmem
    rcases List.mem_append.1 he with he | he
    · exact hfresh e he hmem
    · obtain ⟨r, hr⟩ := Option.isSome_iff_exists.1 (AList.lookup_isSome.2 hmem)
      obtain ⟨r', hr', -⟩ := h.headers _ r hr
      exact ne_of_fresh (hfresh' e he) hr' rfl
  · obtain ⟨r₁, hr₁, hsame⟩ := h.headers t r hr
    obtain ⟨r₂, hr₂, hsame'⟩ := h'.headers t r₁ hr₁
    refine ⟨r₂, hr₂, ?_⟩
    rcases hsame with rfl | ⟨hopen, p, hp, reason, rfl⟩
    · exact hsame'
    · -- closed already, so the rest of the run leaves it
      rcases hsame' with rfl | ⟨hopen', -⟩
      · exact .inr ⟨hopen, p, h'.posted.subset hp, reason, rfl⟩
      · cases hopen'

theorem step_extends (h : WorldOK E w) (ev : Event) : Extends w (w.step E ev) := by
  cases step_effect h ev with
  | quiet hdb hposted =>
    exact ⟨by rw [hposted], ⟨[], by simp [hdb]⟩, fun t r hr => ⟨r, by rw [hdb, hr], .inl rfl⟩⟩
  | posts sid s _ _ hposts hposted _ _ =>
    obtain ⟨db₀, nb, hrows⟩ := hposts.rows
    refine ⟨hposted ▸ List.prefix_append _ _, ⟨_, hposts.entries, fun e he => ?_⟩, fun t r hr => ?_⟩
    · rw [hrows.tx_eq he]
      exact hposts.fresh
    by_cases hcl : ∃ reason, lifecycleCloseReason s.rc.type = some reason ∧ t = s.rc.referenceID
    · obtain ⟨reason, hreason, rfl⟩ := hcl
      obtain ⟨-, r₀, hr₀, hopen, hclosed⟩ := hposts.closes reason hreason
      cases hr.symm.trans hr₀
      exact ⟨_, hclosed, .inr ⟨hopen, (s.txID, s.rc), by simp [hposted], reason, rfl⟩⟩
    · refine ⟨r, (hposts.others t (ne_of_fresh hposts.fresh hr) fun hsome heq => hcl ?_).trans hr, .inl rfl⟩
      obtain ⟨reason, hreason⟩ := Option.isSome_iff_exists.1 hsome
      exact ⟨reason, hreason, heq⟩
  | rejects sid s _ _ hrejects hposted _ =>
    obtain ⟨hd, htxs, -⟩ := hrejects.header
    refine ⟨by rw [hposted], ⟨[], by simp [hrejects.entries]⟩, fun t r hr => ⟨r, ?_, .inl rfl⟩⟩
    rw [htxs, AList.lookup_insert_ne (ne_of_fresh hrejects.fresh hr), hr]

/-- **The record is permanent**: what a ledger has committed at one point of a run, it has at every later
point. -/
theorem record_kept (E : Env) (db : Db) (now : ℕ) (hentries : db.entries = [])
    (hzero : ∀ a x, db.balances a = some x → x = 0) (evs evs' : List Event) :
    Extends (run (World.step E) (.idle db now) evs) (run (World.step E) (.idle db now) (evs ++ evs')) := by
  have hok : WorldOK E (run (World.step E) (.idle db now) evs) := run_ok (idle_ok (dbOK_empty hentries hzero)) evs
  rw [run_append]
  exact (run_inv (I := fun w' => WorldOK E w' ∧ Extends _ w')
    (fun _ ev h => ⟨step_ok h.1 ev, h.2.trans (step_extends h.1 ev)⟩) ⟨hok, .refl _⟩ evs').2

theorem record_kept_topups :
    let after := run (World.step Sample.env) (.idle Sample.zeroed 0)
    Extends (after Sample.topups)
      (after (Sample.topups ++ Sample.call 4 104 (Sample.command "k4" .moneyIn 5 UUID.nil))) :=
  record_kept Sample.env Sample.zeroed 0 rfl Sample.zeroed_zero _ _

/-! ## The outbox -/

/-- The events of a posted command, for the entries it wrote to the journal. -/
def Announces (E : Env) (db : Db) (p : UUID × ResolvedCommand) (events : List OutboxEvent) : Prop :=
  ∃ proc es rows, registry E p.2.type = .ok proc ∧ events = proc.outboxEvents p.2 p.1 es ∧
    List.Forall₂ (RowFor p.1) es rows ∧ rows <:+: db.entries

theorem Announces.mono (h : Announces E db p events) (hpre : db.entries <+: db'.entries) :
    Announces E db' p events := by
  obtain ⟨proc, es, rows, hreg, hev, hes, hrows⟩ := h
  exact ⟨proc, es, rows, hreg, hev, hes, hrows.trans hpre.isInfix⟩

/-- The outbox, with what it had before the run. -/
def Announced (E : Env) (before : List OutboxEvent) (w : World) : Prop :=
  ∃ batches, w.db.outbox = before ++ batches.flatten ∧ List.Forall₂ (Announces E w.db) w.posted batches

theorem step_announced (hw : WorldOK E w) (h : Announced E before w) (ev : Event) :
    Announced E before (w.step E ev) := by
  obtain ⟨batches, hout, hbatches⟩ := h
  cases step_effect hw ev with
  | quiet hdb hposted =>
    rw [Announced, hdb, hposted]
    exact ⟨batches, hout, hbatches⟩
  | posts sid s _ _ hposts hposted _ _ =>
    obtain ⟨proc, hreg, hevents⟩ := hposts.outbox
    obtain ⟨db₀, nb, hrows⟩ := hposts.rows
    refine ⟨batches ++ [proc.outboxEvents s.rc s.txID s.built], by simp [hevents, hout], ?_⟩
    rw [hposted]
    refine List.rel_append (hbatches.imp fun _ _ h => h.mono ⟨_, hposts.entries.symm⟩) (.cons ?_ .nil)
    exact ⟨proc, s.built, _, hreg, rfl, hrows.rowOf.imp fun _ _ hr => hr.rowFor, w.db.entries,
      [], by simp [hposts.entries]⟩
  | rejects sid s _ _ hrejects hposted _ =>
    refine ⟨batches, hrejects.outbox.trans hout, ?_⟩
    rw [hposted]
    exact hbatches.imp fun _ _ h => h.mono (by rw [hrejects.entries])

/-- **A transactional outbox**: it holds the events of each posted transaction, in the order of the commits,
and no others. -/
theorem outbox_announces (E : Env) (db : Db) (now : ℕ) (hentries : db.entries = [])
    (hzero : ∀ a x, db.balances a = some x → x = 0) (evs : List Event) :
    Announced E db.outbox (run (World.step E) (.idle db now) evs) :=
  (run_inv (I := fun w => WorldOK E w ∧ Announced E db.outbox w)
    (fun _ ev h => ⟨step_ok h.1 ev, step_announced h.1 h.2 ev⟩)
    ⟨idle_ok (dbOK_empty hentries hzero), [], by simp [World.idle], .nil⟩ evs).2

theorem outbox_announces_topups :
    Announced Sample.env [] (run (World.step Sample.env) (.idle Sample.zeroed 0) Sample.topups) :=
  outbox_announces Sample.env Sample.zeroed 0 rfl Sample.zeroed_zero Sample.topups

end Seev.Ledger
