import Mathlib.Algebra.BigOperators.Group.Finset.Piecewise
import Mathlib.Algebra.Order.Group.Defs
import Mathlib.Tactic.Abel

/-!
# Double-entry bookkeeping

Postings over an arbitrary type of accounts, with amounts in an additive group.

* `net`: what a list of postings adds to one account (credits minus debits).
* `sum_net`: over any set that holds every account of the postings, the net
  effects add up to total credit minus total debit.
* `Txn`: a transaction is a list of positive postings whose debits equal its
  credits; `Book.sum_balance`: over a set of accounts that no transaction
  crosses, the balances of a book add up to zero.
-/

namespace Seev.Lib

inductive Direction where
  | debit
  | credit
  deriving DecidableEq, Repr

/-- The opposite direction. -/
def Direction.swap : Direction → Direction
  | .debit => .credit
  | .credit => .debit

structure Posting (κ R : Type*) where
  account : κ
  direction : Direction
  amount : R
  deriving DecidableEq, Repr

variable {κ R S : Type*}

/-- The amount with its sign: a credit adds, a debit subtracts. -/
def Posting.signed [Neg R] (p : Posting κ R) : R :=
  match p.direction with
  | .debit => -p.amount
  | .credit => p.amount

/-- The part of `p` on side `d`. -/
def Posting.side [Zero R] (d : Direction) (p : Posting κ R) : R :=
  if p.direction = d then p.amount else 0

section Group

variable [AddCommGroup R] [AddCommGroup S]

theorem Posting.signed_eq (p : Posting κ R) : p.signed = p.side .credit - p.side .debit := by
  rcases p with ⟨a, _ | _, x⟩ <;> simp [Posting.signed, Posting.side]

/-- The total of one side. -/
def total (d : Direction) (ps : List (Posting κ R)) : R := (ps.map (Posting.side d)).sum

@[simp] theorem total_nil (d : Direction) : total d ([] : List (Posting κ R)) = 0 := rfl

@[simp] theorem total_cons (d : Direction) (p : Posting κ R) (ps : List (Posting κ R)) :
    total d (p :: ps) = p.side d + total d ps := by
  simp [total]

/-- Postings carried along a map of amounts. -/
def Posting.map (f : R → S) (p : Posting κ R) : Posting κ S := ⟨p.account, p.direction, f p.amount⟩

theorem Posting.signed_map (f : R →+ S) (p : Posting κ R) : (p.map f).signed = f p.signed := by
  rcases p with ⟨a, _ | _, x⟩ <;> simp [Posting.signed, Posting.map]

theorem total_map (f : R →+ S) (d : Direction) (ps : List (Posting κ R)) :
    total d (ps.map (Posting.map f)) = f (total d ps) := by
  induction ps with
  | nil => simp
  | cons p ps ih =>
    rw [List.map_cons, total_cons, total_cons, ih, map_add]
    simp only [Posting.side, Posting.map]
    split <;> simp_all

variable [DecidableEq κ]

/-- The net effect of postings on account `a`: its credits minus its debits. -/
def net (ps : List (Posting κ R)) (a : κ) : R :=
  (ps.map fun p => if p.account = a then p.signed else 0).sum

@[simp] theorem net_nil (a : κ) : net ([] : List (Posting κ R)) a = 0 := rfl

@[simp] theorem net_cons (p : Posting κ R) (ps : List (Posting κ R)) (a : κ) :
    net (p :: ps) a = (if p.account = a then p.signed else 0) + net ps a := by
  simp [net]

@[simp] theorem net_append (ps qs : List (Posting κ R)) (a : κ) :
    net (ps ++ qs) a = net ps a + net qs a := by
  simp [net]

/-- No posting on `a`, no effect on `a`. -/
theorem net_eq_zero {ps : List (Posting κ R)} {a : κ} (h : ∀ p ∈ ps, p.account ≠ a) :
    net ps a = 0 := by
  induction ps with
  | nil => rfl
  | cons p ps ih =>
    rw [net_cons, if_neg (h p List.mem_cons_self), zero_add]
    exact ih fun q hq => h q (List.mem_cons_of_mem _ hq)

/-- The order of the postings does not matter. -/
theorem net_perm {ps qs : List (Posting κ R)} (h : ps.Perm qs) (a : κ) : net ps a = net qs a :=
  (h.map _).sum_eq

/-- Swapping every direction turns the net effect around. -/
theorem net_swap {α : Type*} {f g : α → Posting κ R}
    (h : ∀ x, g x = ⟨(f x).account, (f x).direction.swap, (f x).amount⟩)
    (l : List α) (a : κ) : net (l.map g) a = -net (l.map f) a := by
  induction l with
  | nil => simp
  | cons x l ih =>
    rw [List.map_cons, List.map_cons, net_cons, net_cons, ih, neg_add, h x]
    congr 1
    rcases hd : (f x).direction with _ | _ <;> by_cases ha : (f x).account = a <;>
      simp [Posting.signed, Direction.swap, hd, ha]

/-- Leaving out items that do not post on `a` changes nothing there. -/
theorem net_filter {α : Type*} (f : α → Posting κ R) (q : α → Bool) {l : List α} {a : κ}
    (h : ∀ x ∈ l, (f x).account = a → q x = true) : net ((l.filter q).map f) a = net (l.map f) a := by
  induction l with
  | nil => rfl
  | cons x l ih =>
    have ih := ih fun y hy => h y (List.mem_cons_of_mem _ hy)
    rw [List.map_cons, net_cons, ← ih, List.filter_cons]
    by_cases hq : q x = true
    · simp [hq]
    · have hne : (f x).account ≠ a := fun heq => hq (h x List.mem_cons_self heq)
      simp [hq, hne]

/-- Credits minus debits, written as the two sums over the account's postings. -/
theorem net_eq_sides (ps : List (Posting κ R)) (a : κ) :
    net ps a = total .credit (ps.filter (·.account = a)) - total .debit (ps.filter (·.account = a)) := by
  induction ps with
  | nil => simp
  | cons p ps ih =>
    by_cases h : p.account = a
    · simp only [net_cons, h, if_true, ih, List.filter_cons, decide_true, total_cons,
        Posting.signed_eq]
      abel
    · simp [h, ih]

/-- **Conservation.** Over a set that holds every account of the postings, the
net effects add up to total credit minus total debit. -/
theorem sum_net {ps : List (Posting κ R)} {A : Finset κ} (h : ∀ p ∈ ps, p.account ∈ A) :
    ∑ a ∈ A, net ps a = total .credit ps - total .debit ps := by
  induction ps with
  | nil => simp
  | cons p ps ih =>
    have hp := h p List.mem_cons_self
    simp only [net_cons, Finset.sum_add_distrib, total_cons]
    rw [ih fun q hq => h q (List.mem_cons_of_mem _ hq), Finset.sum_ite_eq, if_pos hp,
      Posting.signed_eq]
    abel

/-- A change of unit that is additive commutes with the net effect. -/
theorem net_map (f : R →+ S) (ps : List (Posting κ R)) (a : κ) :
    net (ps.map (Posting.map f)) a = f (net ps a) := by
  induction ps with
  | nil => simp
  | cons p ps ih =>
    rw [List.map_cons, net_cons, net_cons, ih, map_add, Posting.signed_map]
    simp only [Posting.map]
    split <;> simp_all

end Group

/-! ## How much one account can lose -/

section Order

variable [AddCommGroup R] [LinearOrder R] [IsOrderedAddMonoid R] [DecidableEq κ]

/-- An account without debits does not lose. -/
theorem net_nonneg {ps : List (Posting κ R)} {a : κ} (hpos : ∀ p ∈ ps, 0 ≤ p.amount)
    (h : ∀ p ∈ ps, p.account = a → p.direction = .credit) : 0 ≤ net ps a := by
  induction ps with
  | nil => exact le_rfl
  | cons p ps ih =>
    have ih := ih (fun q hq => hpos q (List.mem_cons_of_mem _ hq)) fun q hq => h q (List.mem_cons_of_mem _ hq)
    rw [net_cons]
    refine add_nonneg ?_ ih
    split
    · rename_i ha
      rw [Posting.signed, h p List.mem_cons_self ha]
      exact hpos p List.mem_cons_self
    · exact le_rfl

/-- **With one posting for an account and a direction, an account loses at most its
debit.** -/
theorem neg_le_net {ps : List (Posting κ R)} {a : κ} {b : R} (hb : 0 ≤ b) (hpos : ∀ p ∈ ps, 0 ≤ p.amount)
    (hnodup : (ps.map fun p => (p.account, p.direction)).Nodup)
    (h : ∀ p ∈ ps, p.account = a → p.direction = .debit → p.amount ≤ b) : -b ≤ net ps a := by
  induction ps with
  | nil => simpa using hb
  | cons p ps ih =>
    rw [List.map_cons, List.nodup_cons] at hnodup
    have hpos' : ∀ q ∈ ps, 0 ≤ q.amount := fun q hq => hpos q (List.mem_cons_of_mem _ hq)
    have ih := ih hpos' hnodup.2 fun q hq => h q (List.mem_cons_of_mem _ hq)
    rw [net_cons]
    split
    · rename_i ha
      cases hd : p.direction with
      | debit =>
        -- the only debit on the account
        have hrest : 0 ≤ net ps a := by
          refine net_nonneg hpos' fun q hq hqa => ?_
          cases hqd : q.direction with
          | credit => rfl
          | debit => exact absurd (List.mem_map.2 ⟨q, hq, by rw [hqa, hqd, ha, hd]⟩) hnodup.1
        rw [Posting.signed, hd]
        calc -b ≤ -p.amount := neg_le_neg (h p List.mem_cons_self ha hd)
          _ ≤ -p.amount + net ps a := le_add_of_nonneg_right hrest
      | credit =>
        rw [Posting.signed, hd]
        exact ih.trans (le_add_of_nonneg_left (hpos p List.mem_cons_self))
    · rwa [zero_add]

end Order

/-! ## Books -/

/-- A transaction of a book: positive postings, debits equal to credits. -/
structure Txn (κ R : Type*) [AddCommGroup R] [LT R] where
  postings : List (Posting κ R)
  pos : ∀ p ∈ postings, 0 < p.amount
  balanced : total .debit postings = total .credit postings

variable [AddCommGroup R] [LT R] [DecidableEq κ]

/-- All postings of a book, oldest transaction first. -/
def Book.postings (b : List (Txn κ R)) : List (Posting κ R) := b.flatMap Txn.postings

/-- The balance of `a`: what all transactions together added to it. -/
def Book.balance (b : List (Txn κ R)) (a : κ) : R := net (Book.postings b) a

@[simp] theorem Book.balance_nil (a : κ) : Book.balance ([] : List (Txn κ R)) a = 0 := rfl

/-- **Books balance.** Over a set of accounts that no transaction crosses, the
balances add up to zero. -/
theorem Book.sum_balance (b : List (Txn κ R)) (A : Finset κ)
    (h : ∀ t ∈ b, (∀ p ∈ t.postings, p.account ∈ A) ∨ ∀ p ∈ t.postings, p.account ∉ A) :
    ∑ a ∈ A, Book.balance b a = 0 := by
  induction b with
  | nil => simp
  | cons t b ih =>
    have hsplit : ∀ a, Book.balance (t :: b) a = net t.postings a + Book.balance b a := fun a => by
      simp [Book.balance, Book.postings]
    simp only [hsplit, Finset.sum_add_distrib]
    rw [ih fun u hu => h u (List.mem_cons_of_mem _ hu), add_zero]
    rcases h t List.mem_cons_self with hin | hout
    · rw [sum_net hin, t.balanced, sub_self]
    · refine Finset.sum_eq_zero fun a ha => net_eq_zero fun p hp he => hout p hp (he ▸ ha)

end Seev.Lib
