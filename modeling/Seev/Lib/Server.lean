import Seev.Lib.Rows
import Seev.Lib.Slots

/-!
# A server with idempotency keys

A client sends requests; the server answers them in any order, at any later time
or never. A request has a key, and the server performs at most one request of each
key: an accepted request whose key was performed before is answered as done and
changes nothing.

* `Server.OK`: one performed request for each key, and each of them was sent and
  answered as done.
* `Server.OK.length_filter_le_one`: requests that share their key count once.
-/

namespace Seev.Lib

variable {κ ρ ε : Type}

/-- What a caller is told. -/
inductive Answer (ε : Type) where
  | done
  | refused (e : ε)
  deriving DecidableEq, Repr

/-- What the server decides on a request. -/
inductive Verdict (ε : Type) where
  | accept
  | refuse (e : ε)
  deriving DecidableEq, Repr

/-- The answer that a verdict deserves. -/
def Verdict.answer : Verdict ε → Answer ε
  | accept => .done
  | refuse e => .refused e

/-- The requests in the order they were sent, each with its answer once it has one, and
those that were performed. -/
structure Server (ρ ε : Type) where
  calls : List (ρ × Option (Answer ε))
  performed : List ρ

namespace Server

variable [DecidableEq κ] (key : ρ → κ)

/-- No call was made. -/
def empty : Server ρ ε := ⟨[], []⟩

/-- The next request; its number is the number of requests before it. -/
def send (S : Server ρ ε) (r : ρ) : Server ρ ε := { S with calls := S.calls ++ [(r, none)] }

/-- The verdict on request `i`, unless it has an answer already. -/
def serve (S : Server ρ ε) (i : ℕ) (v : Verdict ε) : Server ρ ε :=
  match S.calls[i]? with
  | some (r, none) =>
    { calls := S.calls.set i (r, some v.answer)
      performed :=
        match v with
        | .refuse _ => S.performed
        | .accept => if key r ∈ S.performed.map key then S.performed else S.performed ++ [r] }
  | _ => S

/-- The answer to a call, once it is known. -/
def answer (S : Server ρ ε) (i : ℕ) : Option (Answer ε) := S.calls[i]?.bind Prod.snd

/-- The call was refused. -/
def refused : ρ × Option (Answer ε) → Bool
  | (_, some (.refused _)) => true
  | _ => false

variable {key} {S : Server ρ ε} {r x : ρ} {i : ℕ} {v : Verdict ε}

/-- A verdict answers a call and changes no other. -/
theorem call_serve {c : ρ × Option (Answer ε)} {j : ℕ} (h : (S.serve key i v).calls[j]? = some c) :
    ∃ c', S.calls[j]? = some c' ∧ c'.1 = c.1 ∧ (refused c = false → refused c' = false) := by
  unfold serve at h
  split at h
  case h_2 => exact ⟨c, h, rfl, id⟩
  case h_1 r hr =>
    rcases slot_of_set h with ⟨rfl, rfl⟩ | ⟨-, h⟩
    · exact ⟨_, hr, rfl, fun _ => rfl⟩
    · exact ⟨c, h, rfl, id⟩

theorem mem_calls_serve {c : ρ × Option (Answer ε)} (h : c ∈ (S.serve key i v).calls) :
    ∃ c' ∈ S.calls, c'.1 = c.1 ∧ (refused c = false → refused c' = false) := by
  obtain ⟨j, hj⟩ := List.mem_iff_getElem?.1 h
  obtain ⟨c', hc', heq⟩ := call_serve hj
  exact ⟨c', List.mem_of_getElem? hc', heq⟩

/-- What holds of the requests and the performed ones. -/
structure OK (key : ρ → κ) (S : Server ρ ε) : Prop where
  nodup : (S.performed.map key).Nodup
  done : ∀ r ∈ S.performed, (r, some .done) ∈ S.calls

omit [DecidableEq κ] in
theorem OK.empty : OK key (Server.empty : Server ρ ε) := ⟨List.nodup_nil, by simp [Server.empty]⟩

omit [DecidableEq κ] in
theorem OK.send (h : OK key S) (r : ρ) : OK key (S.send r) :=
  ⟨h.nodup, fun x hx => List.mem_append_left _ (h.done x hx)⟩

/-- An answered call keeps its place when another one is answered. -/
theorem mem_set_of_answered {a : Answer ε} {c : ρ × Option (Answer ε)} (hi : S.calls[i]? = some (r, none))
    (hx : (x, some a) ∈ S.calls) : (x, some a) ∈ S.calls.set i c := by
  obtain ⟨j, hj⟩ := List.mem_iff_getElem?.1 hx
  have hne : i ≠ j := by
    rintro rfl
    simp [hi] at hj
  refine List.mem_of_getElem? (i := j) ?_
  rw [List.getElem?_set_ne hne]
  exact hj

theorem OK.serve (h : OK key S) (i : ℕ) (v : Verdict ε) : OK key (S.serve key i v) := by
  unfold Server.serve
  split
  case h_2 => exact h
  case h_1 r hr =>
    have hself : ∀ a, (r, a) ∈ S.calls.set i (r, a) := fun a =>
      List.mem_set (List.getElem?_eq_some_iff.1 hr).1 (r, a)
    cases v with
    | refuse e => exact ⟨h.nodup, fun x hx => mem_set_of_answered hr (h.done x hx)⟩
    | accept =>
      dsimp only
      split
      case isTrue => exact ⟨h.nodup, fun x hx => mem_set_of_answered hr (h.done x hx)⟩
      case isFalse hnew =>
        refine ⟨?_, fun x hx => ?_⟩
        · exact nodup_concat_id h.nodup hnew
        · rcases List.mem_append.1 hx with hx | hx
          · exact mem_set_of_answered hr (h.done x hx)
          · cases List.mem_singleton.1 hx
            exact hself _

/-- Only a verdict of the server adds a performed request, the one it accepts. -/
theorem mem_performed_serve (h : x ∈ (S.serve key i v).performed) :
    x ∈ S.performed ∨ (v = .accept ∧ S.calls[i]? = some (x, none)) := by
  unfold serve at h
  split at h
  case h_2 => exact .inl h
  case h_1 r hr =>
    cases v with
    | refuse e => exact .inl h
    | accept =>
      dsimp only at h
      split at h
      case isTrue => exact .inl h
      case isFalse =>
        rcases List.mem_append.1 h with h | h
        · exact .inl h
        · cases List.mem_singleton.1 h
          exact .inr ⟨rfl, hr⟩

omit [DecidableEq κ] in
/-- **At most one of the requests that share a key is performed.** -/
theorem OK.length_filter_le_one (h : OK key S) {p : ρ → Bool}
    (hp : ∀ x ∈ S.performed, ∀ y ∈ S.performed, p x → p y → key x = key y) :
    (S.performed.filter p).length ≤ 1 := by
  have hnd : ((S.performed.filter p).map key).Nodup := h.nodup.sublist (List.filter_sublist.map key)
  cases hl : S.performed.filter p with
  | nil => simp
  | cons x l =>
    have hall : ∀ y ∈ S.performed.filter p, key y = key x := by
      intro y hy
      have hx : x ∈ S.performed.filter p := by simp [hl]
      rw [List.mem_filter] at hx hy
      exact hp y hy.1 x hx.1 hy.2 hx.2
    rw [hl] at hnd hall
    cases l with
    | nil => simp
    | cons y l =>
      have hxy : key y = key x := hall y (by simp)
      simp [hxy] at hnd

end Server

end Seev.Lib
