import Seev.Ledger.Proof.History

/-!
# Between which accounts money moves

The accounts of the withdrawal and escrow types, from the lookups of
`ResolveAccounts` to the rows of the posting.

* `UserAccount`, `SystemAccount`, `EscrowAccount`: what a lookup found. A lookup is
  determined by owner, type and currency (`UserAccount.unique`), and an account has one
  owner and one type.
* `Sides`: source and destination of each type.
* `recorded_moves`: the entries of a posted command of these types.
-/

namespace Seev.Ledger

open Lib

variable {E : Env} {a b id u u' userID : UUID} {c c' : Currency} {t t' : AccountType} {cmd : Command}
  {es : List EntryInstruction}

/-! ## What the lookups find -/

/-- The account the lookups find for this user, type and the account's own currency. -/
def UserAccount (E : Env) (userID : UUID) (t : AccountType) (id : UUID) : Prop :=
  ∃ r, E.accounts.byID id = some r ∧ r.ownerType = .user ∧ r.ownerID = userID ∧ r.type = t ∧
    (ownerAccounts E .user userID t).find? (·.currency = r.currency) = some r

def PocketAccount (E : Env) (userID : UUID) (id : UUID) : Prop :=
  ∃ r, E.accounts.byID id = some r ∧ r.ownerType = .user ∧ r.ownerID = userID ∧ r.type = .pocket

def SystemAccount (E : Env) (t : AccountType) (id : UUID) : Prop :=
  ∃ r, E.accounts.byID id = some r ∧ r.ownerType = .system ∧ r.type = t

/-- The escrow account of a currency. -/
def EscrowAccount (E : Env) (id : UUID) : Prop :=
  ∃ r, E.accounts.byID id = some r ∧ r.type = .escrow ∧
    getSystemAccountID E .escrow r.currency r.currency = .ok id

/-- `IDR` first, then by code. -/
def Better (a b : Currency) : Prop := (a = "IDR" ∧ b ≠ "IDR") ∨ ((a = "IDR" ↔ b = "IDR") ∧ a < b)

theorem Better.ne {a b : Currency} (h : Better a b) : a ≠ b := by
  rintro rfl
  rcases h with ⟨h1, h2⟩ | ⟨-, h⟩
  · exact h2 h1
  · exact String.lt_irrefl a h

theorem Better.trans {a b : Currency} (h : Better a b) (h' : Better b c) : Better a c := by
  rcases h with ⟨h1, h2⟩ | ⟨h1, h2⟩ <;> rcases h' with ⟨h3, h4⟩ | ⟨h3, h4⟩
  · exact absurd h3 h2
  · exact .inl ⟨h1, fun hc => h2 (h3.2 hc)⟩
  · exact .inl ⟨h1.2 h3, h4⟩
  · exact .inr ⟨h1.trans h3, String.lt_trans h2 h4⟩

/-- Over the rows seen so far: the chosen row is the first of its currency, and none is better. -/
theorem firstByCurrency_best (rows : List AccountRow) :
    (firstByCurrency rows = none → rows = []) ∧
      ∀ b, firstByCurrency rows = some b →
        rows.find? (·.currency = b.currency) = some b ∧ ∀ y ∈ rows, ¬ Better y.currency b.currency := by
  induction rows using List.reverseRecOn with
  | nil => exact ⟨fun _ => rfl, fun b hb => by cases hb⟩
  | append_singleton pre x ih =>
    obtain ⟨hnone, hbest⟩ := ih
    cases hpre : firstByCurrency pre with
    | none =>
      have hx : firstByCurrency (pre ++ [x]) = some x := by
        rw [hnone hpre]
        rfl
      rw [hx]
      refine ⟨by simp, fun b hb => ?_⟩
      cases hb
      rw [hnone hpre, List.nil_append]
      refine ⟨by simp, fun y hy => ?_⟩
      rw [List.mem_singleton.1 hy]
      exact fun hlt => hlt.ne rfl
    | some b₀ =>
      obtain ⟨hfind, hbest⟩ := hbest b₀ hpre
      rw [firstByCurrency, List.foldl_append, show List.foldl _ none pre = some b₀ from hpre, List.foldl_cons,
        List.foldl_nil]
      dsimp only
      split
      · rename_i hbetter
        refine ⟨by simp, fun b hb => ?_⟩
        cases hb
        -- a row of the same currency before it would be better than the best
        have hnew : pre.find? (·.currency = x.currency) = none := by
          rw [List.find?_eq_none]
          intro y hy heq
          rw [decide_eq_true_iff] at heq
          exact hbest y hy (by rw [heq]; exact hbetter)
        refine ⟨by simp [List.find?_append, hnew], fun y hy hlt => ?_⟩
        rcases List.mem_append.1 hy with hy | hy
        · exact hbest y hy (hlt.trans hbetter)
        · exact hlt.ne (by rw [List.mem_singleton.1 hy])
      · rename_i hbetter
        refine ⟨by simp, fun b hb => ?_⟩
        cases hb
        refine ⟨by rw [List.find?_append, hfind]; rfl, fun y hy hlt => ?_⟩
        rcases List.mem_append.1 hy with hy | hy
        · exact hbest y hy hlt
        · exact hbetter (by rw [← List.mem_singleton.1 hy]; exact hlt)

/-- The chosen row is the first of its currency. -/
theorem firstByCurrency_find {rows : List AccountRow} {r : AccountRow} (h : firstByCurrency rows = some r) :
    rows.find? (·.currency = r.currency) = some r := ((firstByCurrency_best rows).2 r h).1

theorem foundAccount_ok {what : String} {o : Option AccountRow}
    (h : foundAccount what o = .ok id) : ∃ r, o = some r ∧ r.id = id := by
  cases o with
  | none => cases h
  | some r =>
    cases h
    exact ⟨r, rfl, rfl⟩

theorem userAccountID_ok (h : userAccountID E userID t c = .ok id) : UserAccount E userID t id := by
  have hfound : ∃ r, (ownerAccounts E .user userID t).find? (·.currency = r.currency) = some r ∧ r.id = id := by
    unfold userAccountID ownerAccountID at h
    split at h
    · obtain ⟨r, hr, hid⟩ := foundAccount_ok h
      have hc : r.currency = c := by simpa using List.find?_some hr
      exact ⟨r, by rwa [hc], hid⟩
    · obtain ⟨r, hr, hid⟩ := foundAccount_ok h
      exact ⟨r, firstByCurrency_find hr, hid⟩
  obtain ⟨r, hr, rfl⟩ := hfound
  have hmem := List.mem_of_find?_eq_some hr
  simp only [ownerAccounts, List.mem_filter, decide_eq_true_eq] at hmem
  exact ⟨r, AccountTable.byID_of_mem hmem.1, hmem.2.1, hmem.2.2.1, hmem.2.2.2.1, hr⟩

theorem userPocketAccountID_ok {code : String}
    (h : userPocketAccountID E userID code c = .ok id) : PocketAccount E userID id := by
  obtain ⟨r, hr, rfl⟩ := foundAccount_ok h
  have hmem := List.mem_of_find?_eq_some hr
  have hp := List.find?_some hr
  simp only [decide_eq_true_eq] at hp
  exact ⟨r, AccountTable.byID_of_mem hmem, hp.1, hp.2.1, hp.2.2.1⟩

theorem getSystemAccountID_ok {q : String} (h : getSystemAccountID E t q c = .ok id) :
    ∃ r, E.accounts.byID id = some r ∧ r.ownerType = .system ∧ r.type = t ∧ r.currency = c := by
  obtain ⟨r, hr, rfl⟩ := foundAccount_ok h
  have hmem := List.mem_of_find?_eq_some hr
  have hp := List.find?_some hr
  simp only [decide_eq_true_eq] at hp
  exact ⟨r, AccountTable.byID_of_mem hmem, hp.1, hp.2.1, hp.2.2.2⟩

theorem systemAccount_ok {q : String} (h : getSystemAccountID E t q c = .ok id) : SystemAccount E t id := by
  obtain ⟨r, hr, ho, ht, -⟩ := getSystemAccountID_ok h
  exact ⟨r, hr, ho, ht⟩

theorem escrowAccount_ok (h : getSystemAccountID E .escrow c c = .ok id) :
    EscrowAccount E id := by
  obtain ⟨r, hr, -, ht, hc⟩ := getSystemAccountID_ok h
  exact ⟨r, hr, ht, by rwa [hc]⟩

/-! ## One owner, one type, one account for each currency -/

/-- The type of an account. -/
theorem UserAccount.type (h : UserAccount E u t id) :
    (E.accounts.byID id).map AccountRow.type = some t := by
  obtain ⟨r, hr, -, -, ht, -⟩ := h
  simp [hr, ht]

theorem PocketAccount.type (h : PocketAccount E u id) :
    (E.accounts.byID id).map AccountRow.type = some .pocket := by
  obtain ⟨r, hr, -, -, ht⟩ := h
  simp [hr, ht]

theorem SystemAccount.type (h : SystemAccount E t id) :
    (E.accounts.byID id).map AccountRow.type = some t := by
  obtain ⟨r, hr, -, ht⟩ := h
  simp [hr, ht]

theorem EscrowAccount.type (h : EscrowAccount E id) :
    (E.accounts.byID id).map AccountRow.type = some .escrow := by
  obtain ⟨r, hr, ht, -⟩ := h
  simp [hr, ht]

theorem UserAccount.owner (h : UserAccount E u t id) (h' : UserAccount E u' t' id) : u = u' := by
  obtain ⟨r, hr, -, hu, -, -⟩ := h
  obtain ⟨r', hr', -, hu', -, -⟩ := h'
  rw [hr] at hr'
  cases hr'
  exact hu.symm.trans hu'

theorem UserAccount.unique (h : UserAccount E u t a) (h' : UserAccount E u t b)
    (hc : (E.accounts.byID a).map AccountRow.currency = (E.accounts.byID b).map AccountRow.currency) :
    a = b := by
  obtain ⟨r, hr, -, -, -, hfind⟩ := h
  obtain ⟨r', hr', -, -, -, hfind'⟩ := h'
  rw [hr, hr', Option.map_some, Option.map_some, Option.some.injEq] at hc
  rw [hc, hfind', Option.some.injEq] at hfind
  rw [← AccountTable.byID_id hr, ← AccountTable.byID_id hr', hfind]

theorem EscrowAccount.unique (h : EscrowAccount E a) (h' : EscrowAccount E b)
    (hc : (E.accounts.byID a).map AccountRow.currency = (E.accounts.byID b).map AccountRow.currency) :
    a = b := by
  obtain ⟨r, hr, -, hget⟩ := h
  obtain ⟨r', hr', -, hget'⟩ := h'
  rw [hr, hr', Option.map_some, Option.map_some, Option.some.injEq] at hc
  rw [hc, hget'] at hget
  exact (Except.ok.inj hget).symm

/-- Accounts of different types are different. -/
theorem ne_of_type (h : (E.accounts.byID a).map AccountRow.type = some t)
    (h' : (E.accounts.byID b).map AccountRow.type = some t') (hne : t ≠ t') : a ≠ b := by
  rintro rfl
  rw [h] at h'
  exact hne (Option.some.inj h')

/-- Two users' accounts of one type are one account when user and currency agree. -/
theorem UserAccount.eq_iff (h : UserAccount E u t a)
    (h' : UserAccount E u' t b) (hc : (E.accounts.byID a).map AccountRow.currency = some c)
    (hc' : (E.accounts.byID b).map AccountRow.currency = some c') : a = b ↔ u = u' ∧ c = c' := by
  constructor
  · rintro rfl
    rw [hc] at hc'
    exact ⟨h.owner h', Option.some.inj hc'⟩
  · rintro ⟨rfl, rfl⟩
    exact h.unique h' (hc.trans hc'.symm)

theorem EscrowAccount.eq_iff (h : EscrowAccount E a) (h' : EscrowAccount E b)
    (hc : (E.accounts.byID a).map AccountRow.currency = some c)
    (hc' : (E.accounts.byID b).map AccountRow.currency = some c') : a = b ↔ c = c' := by
  constructor
  · rintro rfl
    rw [hc] at hc'
    exact Option.some.inj hc'
  · rintro rfl
    exact h.unique h' (hc.trans hc'.symm)

/-! ## Source and destination -/

/-- Two legs and perhaps a fee account. -/
structure TwoLegs (E : Env) (rc : ResolvedCommand) (src dst : UUID) : Prop where
  ids : ∃ fees, rc.accountIDs = deduplicate [] (src :: dst :: fees) ∧ ∀ f ∈ fees, SystemAccount E .fee f
  source : rc.source = src
  destination : rc.destination = dst

/-- Source and destination of the withdrawal and escrow types. -/
def Sides (E : Env) (rc : ResolvedCommand) (src dst : UUID) : Prop :=
  match rc.type with
  | .withdrawInitiate =>
    (if rc.pocketCode = "" then UserAccount E rc.userID .cash src else PocketAccount E rc.userID src) ∧
      UserAccount E rc.userID .hold dst
  | .withdrawPending => UserAccount E rc.userID .hold src ∧ UserAccount E rc.userID .pending dst
  | .withdrawSettle => UserAccount E rc.userID .hold src ∧ SystemAccount E .settlement dst
  | .withdrawCancel => UserAccount E rc.userID .hold src ∧ UserAccount E rc.userID .cash dst
  | .withdrawPendingSettle => UserAccount E rc.userID .pending src ∧ SystemAccount E .settlement dst
  | .withdrawPendingCancel => UserAccount E rc.userID .pending src ∧ UserAccount E rc.userID .cash dst
  | .escrowHold => UserAccount E rc.userID .cash src ∧ EscrowAccount E dst
  | .escrowRelease => EscrowAccount E src
  | .escrowRefund => EscrowAccount E src ∧ UserAccount E rc.targetUserID .cash dst
  | _ => False

theorem resolveInlineFee_ok (h : resolveInlineFee E cmd c = .ok (some id)) : SystemAccount E .fee id := by
  unfold resolveInlineFee at h
  split at h
  · cases h
  · cases h
  split at h
  · cases h
  split at h
  · cases h
  split at h
  · cases h
  split at h
  · cases h
  split at h
  · cases h
  · generalize hx : inContext _ (getSystemAccountID E .fee _ c) = x at h
    cases x with
    | error e => cases h
    | ok a =>
      cases h
      exact systemAccount_ok (inContext_eq_ok.1 hx)

theorem withInlineFee_ok {name : String} {src dst : UUID}
    {acc : ResolvedAccounts} (h : withInlineFee E name cmd c (twoLeg src dst) = .ok (acc, c')) :
    ∃ fees, acc = ⟨src :: dst :: fees, src, dst⟩ ∧ ∀ f ∈ fees, SystemAccount E .fee f := by
  unfold withInlineFee at h
  obtain ⟨fee, hfee, h⟩ := bind_eq_ok.1 h
  have hfee := inContext_eq_ok.1 hfee
  cases fee with
  | none =>
    cases h
    exact ⟨[], rfl, by simp⟩
  | some id =>
    dsimp only at h
    split at h
    · cases h
      refine ⟨[id], rfl, fun f hf => ?_⟩
      rw [List.mem_singleton.1 hf]
      exact resolveInlineFee_ok hfee
    · cases h
      exact ⟨[], rfl, by simp⟩

theorem resolveUserPair_ok {name fromCtx toCtx : String} {a b : AccountType}
    {acc : ResolvedAccounts} (h : resolveUserPair E name fromCtx toCtx a b cmd = .ok (acc, c)) :
    ∃ src dst, acc = twoLeg src dst ∧ UserAccount E cmd.userID a src ∧ UserAccount E cmd.userID b dst := by
  unfold resolveUserPair at h
  obtain ⟨src, hsrc, h⟩ := bind_eq_ok.1 h
  obtain ⟨dst, hdst, h⟩ := bind_eq_ok.1 h
  obtain ⟨_, -, h⟩ := bind_eq_ok.1 h
  cases h
  exact ⟨src, dst, rfl, userAccountID_ok (inContext_eq_ok.1 hsrc), userAccountID_ok (inContext_eq_ok.1 hdst)⟩

theorem cashOrPocket_ok {pc cc : String} (h : cashOrPocket E pc cc cmd = .ok id) :
    if cmd.pocketCode = "" then UserAccount E cmd.userID .cash id else PocketAccount E cmd.userID id := by
  unfold cashOrPocket at h
  by_cases hp : cmd.pocketCode = ""
  · rw [if_neg (not_not.2 hp)] at h
    rw [if_pos hp]
    exact userAccountID_ok (inContext_eq_ok.1 h)
  · rw [if_pos hp] at h
    rw [if_neg hp]
    exact userPocketAccountID_ok (inContext_eq_ok.1 h)

/-- The withdrawal and escrow types. -/
def heldType : TxType → Bool
  | .withdrawInitiate | .withdrawPending | .withdrawSettle | .withdrawCancel
  | .withdrawPendingSettle | .withdrawPendingCancel
  | .escrowHold | .escrowRelease | .escrowRefund => true
  | _ => false

/-- **Source and destination of an accepted command.** -/
theorem origin_legs {rc : ResolvedCommand} (h : Origin E cmd rc)
    (ht : heldType rc.type = true) : ∃ src dst, TwoLegs E rc src dst ∧ Sides E rc src dst := by
  obtain ⟨db, rc₀, hprep, m, rfl, -⟩ := h
  obtain ⟨p, m₀, acc, c, hreg, -, -, hacc, rfl⟩ := hprep.resolved
  -- the sides are known from the lookups, the rest is how the ids are put together
  suffices ∃ src dst fees, acc = ⟨src :: dst :: fees, src, dst⟩ ∧ (∀ f ∈ fees, SystemAccount E .fee f) ∧
      Sides E { cmd with
        metadata := m, currency := trimSpace c, accountIDs := deduplicate [] acc.ordered
        source := acc.source, destination := acc.destination } src dst by
    obtain ⟨src, dst, fees, rfl, hfees, hsides⟩ := this
    exact ⟨src, dst, ⟨⟨fees, rfl, hfees⟩, rfl, rfl⟩, hsides⟩
  simp only at ht
  cases htype : cmd.type <;> rw [htype] at ht hreg <;> cases ht <;> cases hreg <;>
    simp only [Sides]
  case withdrawInitiate =>
    simp only [withdrawInitiate] at hacc
    obtain ⟨src, hsrc, hacc⟩ := bind_eq_ok.1 hacc
    obtain ⟨dst, hdst, hacc⟩ := bind_eq_ok.1 hacc
    obtain ⟨_, -, hacc⟩ := bind_eq_ok.1 hacc
    obtain ⟨fees, hacc, hfees⟩ := withInlineFee_ok hacc
    exact ⟨src, dst, fees, hacc, hfees, cashOrPocket_ok hsrc, userAccountID_ok (inContext_eq_ok.1 hdst)⟩
  case withdrawPending | withdrawCancel | withdrawPendingCancel =>
    obtain ⟨src, dst, hacc, hsrc, hdst⟩ := resolveUserPair_ok hacc
    exact ⟨src, dst, [], hacc, by simp, hsrc, hdst⟩
  case withdrawSettle =>
    simp only [withdrawSettle] at hacc
    obtain ⟨_, -, hacc⟩ := bind_eq_ok.1 hacc
    obtain ⟨src, hsrc, hacc⟩ := bind_eq_ok.1 hacc
    obtain ⟨_, -, hacc⟩ := bind_eq_ok.1 hacc
    obtain ⟨dst, hdst, hacc⟩ := bind_eq_ok.1 hacc
    obtain ⟨fees, hacc, hfees⟩ := withInlineFee_ok hacc
    exact ⟨src, dst, fees, hacc, hfees, userAccountID_ok (inContext_eq_ok.1 hsrc),
      systemAccount_ok (inContext_eq_ok.1 hdst)⟩
  case withdrawPendingSettle =>
    simp only [withdrawPendingSettle] at hacc
    obtain ⟨_, -, hacc⟩ := bind_eq_ok.1 hacc
    obtain ⟨src, hsrc, hacc⟩ := bind_eq_ok.1 hacc
    obtain ⟨_, -, hacc⟩ := bind_eq_ok.1 hacc
    obtain ⟨dst, hdst, hacc⟩ := bind_eq_ok.1 hacc
    cases hacc
    exact ⟨src, dst, [], rfl, by simp, userAccountID_ok (inContext_eq_ok.1 hsrc),
      systemAccount_ok (inContext_eq_ok.1 hdst)⟩
  case escrowHold =>
    simp only [escrowHold] at hacc
    obtain ⟨src, hsrc, hacc⟩ := bind_eq_ok.1 hacc
    obtain ⟨_, -, hacc⟩ := bind_eq_ok.1 hacc
    obtain ⟨dst, hdst, hacc⟩ := bind_eq_ok.1 hacc
    obtain ⟨fees, hacc, hfees⟩ := withInlineFee_ok hacc
    exact ⟨src, dst, fees, hacc, hfees, userAccountID_ok (inContext_eq_ok.1 hsrc),
      escrowAccount_ok (inContext_eq_ok.1 hdst)⟩
  case escrowRelease =>
    simp only [escrowRelease] at hacc
    obtain ⟨dst, -, hacc⟩ := bind_eq_ok.1 hacc
    obtain ⟨_, -, hacc⟩ := bind_eq_ok.1 hacc
    obtain ⟨src, hsrc, hacc⟩ := bind_eq_ok.1 hacc
    obtain ⟨fees, hacc, hfees⟩ := withInlineFee_ok hacc
    exact ⟨src, dst, fees, hacc, hfees, escrowAccount_ok (inContext_eq_ok.1 hsrc)⟩
  case escrowRefund =>
    simp only [escrowRefund] at hacc
    obtain ⟨-, hacc⟩ := guard_eq_ok.1 hacc
    obtain ⟨dst, hdst, hacc⟩ := bind_eq_ok.1 hacc
    obtain ⟨_, -, hacc⟩ := bind_eq_ok.1 hacc
    obtain ⟨src, hsrc, hacc⟩ := bind_eq_ok.1 hacc
    cases hacc
    exact ⟨src, dst, [], rfl, by simp, escrowAccount_ok (inContext_eq_ok.1 hsrc),
      userAccountID_ok (inContext_eq_ok.1 hdst)⟩

/-! ## The entries -/

/-- The withdrawal and escrow types that take an inline fee. -/
def takesFee : TxType → Bool
  | .withdrawInitiate | .withdrawSettle | .escrowHold | .escrowRelease => true
  | _ => false

/-- The entries of a movement from `a` to `b`, with the fee taken from the credit. -/
inductive Movement (E : Env) (rc : ResolvedCommand) (a b : UUID) : List EntryInstruction → Prop
  | plain (dn cn : String) (unfeed : takesFee rc.type = true → hasFee E rc = none) :
      Movement E rc a b [⟨a, .debit, rc.amount, dn⟩, ⟨b, .credit, rc.amount, cn⟩]
  | fee (dn cn fn : String) (feeID : UUID) (fee : Decimal) (takes : takesFee rc.type = true)
      (has : hasFee E rc = some (feeID, fee)) (account : SystemAccount E .fee feeID) :
      Movement E rc a b [⟨a, .debit, rc.amount, dn⟩, ⟨b, .credit, rc.amount - fee, cn⟩,
        ⟨feeID, .credit, fee, fn⟩]

variable {rc : ResolvedCommand} {src dst : UUID}

theorem TwoLegs.head (h : TwoLegs E rc src dst) : rc.accountIDs.head? = some src := by
  obtain ⟨fees, hids, -⟩ := h.ids
  rw [hids]
  rfl

theorem TwoLegs.account_zero (h : TwoLegs E rc src dst) (ha : rc.account 0 = .ok a) : a = src := by
  have hhead := h.head
  unfold ResolvedCommand.account at ha
  rw [← List.head?_eq_getElem?, hhead] at ha
  exact (Except.ok.inj ha).symm

theorem TwoLegs.account_one (h : TwoLegs E rc src dst) (hne : src ≠ dst) (hb : rc.account 1 = .ok b) :
    b = dst := by
  obtain ⟨fees, hids, -⟩ := h.ids
  have hsecond : rc.accountIDs = src :: dst :: deduplicate [dst, src] fees := by
    rw [hids]
    simp [deduplicate, Ne.symm hne]
  unfold ResolvedCommand.account at hb
  rw [hsecond] at hb
  exact (Except.ok.inj hb).symm

/-- The account of an inline fee is the appended one. -/
theorem TwoLegs.fee_account (h : TwoLegs E rc src dst) {feeID : UUID} {fee : Decimal}
    (hfee : hasFee E rc = some (feeID, fee)) : SystemAccount E .fee feeID := by
  obtain ⟨fees, hids, hsys⟩ := h.ids
  obtain ⟨hlen, hlast, -, -⟩ := (hasFee_eq_some E).1 hfee
  have hded : ∃ pre seen, pre.length ≤ 2 ∧
      deduplicate [] (src :: dst :: fees) = pre ++ deduplicate seen fees := by
    by_cases hne : dst = src
    · exact ⟨[src], [src], by simp, by simp [deduplicate, hne]⟩
    · exact ⟨[src, dst], [dst, src], by simp, by simp [deduplicate, hne]⟩
  obtain ⟨pre, seen, hpre, hded⟩ := hded
  rw [hids, hded] at hlen hlast
  have hnil : deduplicate seen fees ≠ [] := fun hnil => by
    rw [hnil, List.append_nil] at hlen
    omega
  rw [List.getLast?_append_of_ne_nil _ hnil] at hlast
  exact hsys feeID (mem_deduplicate.1 (List.mem_of_getLast? hlast)).1

theorem movement_ok (h : TwoLegs E rc src dst) (hnofee : takesFee rc.type = false) {dn cn : String}
    (hes : movement dn cn rc = .ok es) :
    ∃ b, Movement E rc src b es ∧ (src ≠ dst → b = dst) := by
  unfold movement at hes
  obtain ⟨a, ha, hes⟩ := bind_eq_ok.1 hes
  obtain ⟨b, hb, hes⟩ := bind_eq_ok.1 hes
  cases hes
  rw [h.account_zero ha]
  exact ⟨b, .plain dn cn (by simp [hnofee]), fun hne => h.account_one hne hb⟩

theorem movementWithFee_ok (h : TwoLegs E rc src dst) (htakes : takesFee rc.type = true) {dn cn fn : String}
    (hes : movementWithFee E dn cn fn rc = .ok es) :
    ∃ b, Movement E rc src b es ∧ (src ≠ dst → b = dst) := by
  unfold movementWithFee at hes
  obtain ⟨a, ha, hes⟩ := bind_eq_ok.1 hes
  obtain ⟨b, hb, hes⟩ := bind_eq_ok.1 hes
  rw [h.account_zero ha] at hes
  refine ⟨b, ?_, fun hne => h.account_one hne hb⟩
  split at hes
  · rename_i hnone
    cases hes
    exact .plain dn cn fun _ => hnone
  · rename_i feeID fee hfee
    cases hes
    exact .fee dn cn fn feeID fee htakes hfee (h.fee_account hfee)

/-- What the processors of these types build. -/
theorem buildEntries_movement (h : TwoLegs E rc src dst) (ht : heldType rc.type = true) {p : TxProcessor}
    (hreg : registry E rc.type = .ok p) {db : Db} {bal : Balances}
    (hes : p.buildEntries db rc bal = .ok es) : ∃ b, Movement E rc src b es ∧ (src ≠ dst → b = dst) := by
  cases htype : rc.type <;> rw [htype] at ht hreg <;> cases ht <;> cases hreg
  case withdrawInitiate | withdrawSettle | escrowHold | escrowRelease =>
    exact movementWithFee_ok h (by rw [htype]; rfl) hes
  all_goals exact movement_ok h (by rw [htype]; rfl) hes

/-- **The rows of a posted command** of the withdrawal and escrow types. -/
theorem recorded_moves {db : Db} {txID : UUID} (h : Recorded E db txID rc)
    (ho : Origin E cmd rc) (ht : heldType rc.type = true) :
    ∃ src dst b es, TwoLegs E rc src dst ∧ Sides E rc src dst ∧ Movement E rc src b es ∧
      (src ≠ dst → b = dst) ∧ List.Forall₂ (RowFor txID) es (db.entries.filter (·.transactionID = txID)) := by
  obtain ⟨src, dst, hlegs, hsides⟩ := origin_legs ho ht
  obtain ⟨p, db₀, bal, es, hreg, hbuilt, hrows⟩ := h.entries
  obtain ⟨b, hmove, hb⟩ := buildEntries_movement hlegs ht hreg hbuilt
  exact ⟨src, dst, b, es, hlegs, hsides, hmove, hb, hrows⟩

end Seev.Ledger
