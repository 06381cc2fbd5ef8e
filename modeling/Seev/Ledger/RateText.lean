import Mathlib.Data.Nat.Prime.Basic
import Seev.Lib.Literal
import Seev.Ledger.Rates

/-!
# Rates as texts

A rate is stored, sent and read as a text: a decimal where eighteen places are enough, otherwise the
reduced fraction.

* `Denotes`: the plain decimals, with their value and the number of their fractional digits.
* `parseRate_ok_iff`: the texts that are accepted, as a grammar.
* `rate_text_lossless`: writing and reading back gives the rate, and a decimal is as short as it can be.
* `parseRate_grammar`: the texts on which the reader and the documented grammar agree.
-/

namespace Seev.Ledger.Rates

open Lib

/-- An error of the package, with the reason that is wrapped into it. -/
inductive RateError where
  | invalidAmount (reason : String)
  | nonPositive (reason : String)
  deriving DecidableEq, Repr

/-- `Rate`; the value of the zero rate is nil. -/
structure Rate where
  value : Option ℚ
  deriving DecidableEq, Repr

/-! ## Reading -/

/-- The two parts around the only slash. -/
def parseFraction (raw : List Char) : Except RateError ℚ :=
  match intSetString (raw.takeWhile (· ≠ '/')) with
  | none => .error (.invalidAmount "invalid rate numerator")
  | some numerator =>
    match intSetString (raw.dropWhile (· ≠ '/')).tail with
    | none => .error (.invalidAmount "invalid rate denominator")
    | some denominator =>
      if denominator ≤ 0 then .error (.invalidAmount "invalid rate denominator")
      else .ok (numerator / denominator)

/-- A fraction when there is one slash, otherwise whatever `big.Rat` reads. -/
def parseRat (raw : List Char) : Except RateError ℚ :=
  if raw.count '/' = 1 then parseFraction raw
  else match ratSetString raw with
    | none => .error (.invalidAmount "invalid rate")
    | some rat => .ok rat

/-- `ParseRate` -/
def parseRate (raw : String) : Except RateError Rate :=
  if trimSpace raw ≠ raw ∨ raw = "" then .error (.invalidAmount "rate must be an exact decimal string")
  else if raw.toList.any (fun c => c = 'e' ∨ c = 'E' ∨ c = '+') then
    .error (.invalidAmount "exponent and signed rate notation are not accepted")
  else do
    let rat ← parseRat raw.toList
    if rat ≤ 0 then throw (.nonPositive "rate must be positive")
    return ⟨some rat⟩

/-! ## Writing -/

/-- The loop that divides `d` by `p` while it can: what is left, and how often. Every round makes
`d` smaller, so `d` rounds are enough. -/
def factorOut (p : ℕ) : ℕ → ℕ → ℕ → ℕ × ℕ
  | 0, d, count => (d, count)
  | fuel + 1, d, count => if d % p = 0 then factorOut p fuel (d / p) (count + 1) else (d, count)

/-- `String` of a positive `big.Int` -/
def bigString (n : ℤ) : List Char := Nat.toDigits 10 n.toNat

/-- The digits with a point in front of the last `scale` of them. -/
def insertPoint (digits : List Char) (scale : ℕ) : List Char :=
  if scale = 0 then digits
  else
    let digits := digits.leftpad (scale + 1) '0'
    let point := digits.length - scale
    digits.take point ++ '.' :: digits.drop point

/-- `DecimalString` -/
def Rate.decimalString (r : Rate) (maxScale : ℤ) : Except RateError String :=
  match r.value with
  | none => .error (.invalidAmount "rate is not a positive rational")
  | some v =>
    if v ≤ 0 ∨ maxScale < 0 then .error (.invalidAmount "rate is not a positive rational")
    else
      let (denominator, twoCount) := factorOut 2 v.den v.den 0
      let (denominator, fiveCount) := factorOut 5 denominator denominator 0
      if denominator ≠ 1 then .error (.invalidAmount "rate denominator is non-terminating in base 10")
      else
        let scale := max fiveCount twoCount
        if maxScale < scale then
          .error (.invalidAmount ("rate scale exceeds " ++ toString maxScale ++ " decimal places"))
        else
          let numerator := if twoCount < scale then v.num * 2 ^ (scale - twoCount) else v.num
          let numerator := if fiveCount < scale then numerator * 5 ^ (scale - fiveCount) else numerator
          .ok (String.ofList (insertPoint (bigString numerator) scale))

/-- `numerator/denominator`, reduced -/
def fractionString (v : ℚ) : String := String.ofList (bigString v.num ++ '/' :: bigString v.den)

/-- `ExactString` -/
def Rate.exactString (r : Rate) : Except RateError String :=
  match r.value with
  | none => .error (.invalidAmount "rate is not a positive rational")
  | some v =>
    if v ≤ 0 then .error (.invalidAmount "rate is not a positive rational")
    else match r.decimalString 18 with
      | .ok exact => .ok exact
      | .error _ => .ok (fractionString v)

/-! ## The grammar -/

def IsPlain (s : List Char) : Prop := ∀ c ∈ s, c.isDigit = true

/-- Digits with an optional single point: their value, and how many stand behind the point. -/
inductive Denotes : List Char → ℚ → ℕ → Prop where
  | whole {i : List Char} : i ≠ [] → IsPlain i → Denotes i (Nat.ofDigitChars 10 i 0) 0
  | point {i f : List Char} : i ≠ [] ∨ f ≠ [] → IsPlain i → IsPlain f →
      Denotes (i ++ '.' :: f) (Nat.ofDigitChars 10 (i ++ f) 0 / 10 ^ f.length) f.length

/-- Digits over digits, both of a positive number. -/
inductive DenotesFraction : List Char → ℚ → Prop where
  | mk {n d : List Char} : IsPlain n → IsPlain d → 0 < Nat.ofDigitChars 10 n 0 → 0 < Nat.ofDigitChars 10 d 0 →
      DenotesFraction (n ++ '/' :: d) (Nat.ofDigitChars 10 n 0 / Nat.ofDigitChars 10 d 0)

/-- The documented grammar: a plain decimal or a fraction, of a positive number. -/
def IsRate (s : List Char) : Prop :=
  (∃ v k, Denotes s v k ∧ 0 < v) ∨ ∃ v, DenotesFraction s v

/-! ## What is read -/

variable {raw : String} {s i f : List Char} {v : ℚ} {k : ℕ} {c : Char}

/-- The characters the reader refuses before it looks at anything else. -/
def Refused (s : List Char) : Prop := 'e' ∈ s ∨ 'E' ∈ s ∨ '+' ∈ s

instance (s : List Char) : Decidable (Refused s) :=
  inferInstanceAs (Decidable ('e' ∈ s ∨ 'E' ∈ s ∨ '+' ∈ s))

theorem any_refused : s.any (fun c => c = 'e' ∨ c = 'E' ∨ c = '+') = true ↔ Refused s := by
  simp only [List.any_eq_true, decide_eq_true_eq, Refused]
  constructor
  · rintro ⟨c, hc, rfl | rfl | rfl⟩ <;> simp [hc]
  · rintro (h | h | h)
    · exact ⟨_, h, .inl rfl⟩
    · exact ⟨_, h, .inr (.inl rfl)⟩
    · exact ⟨_, h, .inr (.inr rfl)⟩

theorem trimSpace_of_no_space (h : ∀ c ∈ raw.toList, isSpace c = false) : trimSpace raw = raw := by
  have hdrop : ∀ l : List Char, (∀ c ∈ l, isSpace c = false) → l.dropWhile isSpace = l := by
    intro l hl
    cases l with
    | nil => rfl
    | cons c l => rw [List.dropWhile_cons_of_neg (by simp [hl c])]
  unfold trimSpace
  rw [hdrop _ h, hdrop _ (by simpa using h), List.reverse_reverse, String.ofList_toList]

/-- Letters, digits and the marks of a literal are no spaces. -/
theorem isSpace_of_literal (h : (digitVal c).isSome ∨ c = '_' ∨ c = '.' ∨ c = '-' ∨ c = '+' ∨ c = '/') :
    isSpace c = false := by
  rcases h with h | rfl | rfl | rfl | rfl | rfl
  · have hrange : 48 ≤ c.toNat ∧ c.toNat ≤ 57 ∨ 97 ≤ c.toNat ∧ c.toNat ≤ 122 ∨ 65 ≤ c.toNat ∧ c.toNat ≤ 90 := by
      unfold digitVal at h
      split_ifs at h with h0 ha hA
      · exact .inl h0
      · exact .inr (.inl ha)
      · exact .inr (.inr hA)
      · cases h
    simp only [isSpace, List.mem_cons, List.not_mem_nil, or_false, decide_eq_false_iff_not]
    omega
  all_goals decide

theorem parseRate_eq (hspace : ∀ c ∈ raw.toList, isSpace c = false) (hne : raw.toList ≠ [])
    (hrefused : ¬ Refused raw.toList) (hv : 0 < v)
    (h : parseRat raw.toList = .ok v) : parseRate raw = .ok ⟨some v⟩ := by
  have hraw : raw ≠ "" := by
    rintro rfl
    exact hne rfl
  unfold parseRate
  rw [if_neg (by simp [trimSpace_of_no_space hspace, hraw]), if_neg (by rwa [any_refused]), h, ok_bind,
    if_neg (not_le.2 hv)]
  rfl

/-! ### Plain decimals -/

theorem IsPlain.literal (h : IsPlain s) (hc : c ∈ s) : (digitVal c).isSome := by
  have hd := digitIn_ten (h c hc)
  obtain ⟨hd, -⟩ := Option.filter_eq_some_iff.1 hd
  simp [hd]

theorem IsPlain.not_mem (h : IsPlain s) (hc : c.isDigit = false) : c ∉ s := by
  intro hmem
  rw [h c hmem] at hc
  cases hc

theorem Denotes.chars (h : Denotes s v k) (hc : c ∈ s) : c.isDigit = true ∨ c = '.' := by
  cases h with
  | whole _ hi => exact .inl (hi c hc)
  | point _ hi hf =>
    rcases List.mem_append.1 hc with hc | hc
    · exact .inl (hi c hc)
    rcases List.mem_cons.1 hc with hc | hc
    · exact .inr hc
    · exact .inl (hf c hc)

theorem Denotes.not_mem (h : Denotes s v k) (hc : c.isDigit = false) (hpoint : c ≠ '.') : c ∉ s := by
  intro hmem
  rcases h.chars hmem with hd | hd
  · rw [hd] at hc
    cases hc
  · exact hpoint hd

theorem Denotes.ratLiteral (h : Denotes s v k) : Lib.ratLiteral s = some v := by
  cases h with
  | whole hne hi => exact ratLiteral_whole hne hi
  | point hne hi hf => exact ratLiteral_point hne hi hf

theorem Denotes.ne_nil (h : Denotes s v k) : s ≠ [] := by
  cases h with
  | whole hne _ => exact hne
  | point => simp

theorem head_ne_of_not_mem (h : c ∉ s) : s.head? ≠ some c := by
  intro hhead
  exact h (List.mem_of_mem_head? hhead)

/-- **A plain decimal is read as the number it denotes.** -/
theorem Denotes.parseRate (h : Denotes raw.toList v k) (hv : 0 < v) : parseRate raw = .ok ⟨some v⟩ := by
  have hslash : '/' ∉ raw.toList := h.not_mem (by decide) (by decide)
  apply parseRate_eq _ h.ne_nil _ hv
  · rw [parseRat, if_neg (by simp [List.count_eq_zero.2 hslash]), ratSetString_of_no_sign hslash
      (head_ne_of_not_mem (h.not_mem (by decide) (by decide)))
      (head_ne_of_not_mem (h.not_mem (by decide) (by decide))), h.ratLiteral]
  · intro c hc
    apply isSpace_of_literal
    rcases h.chars hc with hd | hd
    · exact .inl (IsPlain.literal (s := [c]) (by simpa [IsPlain] using hd) List.mem_cons_self)
    · exact .inr (.inr (.inl hd))
  · rintro (hc | hc | hc)
    · exact h.not_mem (by decide) (by decide) hc
    · exact h.not_mem (by decide) (by decide) hc
    · exact h.not_mem (by decide) (by decide) hc

/-! ### Fractions -/

theorem ne_nil_of_pos (h : 0 < Nat.ofDigitChars 10 s 0) : s ≠ [] := by
  rintro rfl
  exact absurd h (by decide)

theorem DenotesFraction.pos (h : DenotesFraction s v) : 0 < v := by
  obtain ⟨-, -, hn, hd⟩ := h
  positivity

theorem DenotesFraction.slash (h : DenotesFraction s v) : '/' ∈ s := by
  cases h
  simp

theorem parseFraction_eq (h : DenotesFraction s v) : s.count '/' = 1 ∧ parseFraction s = .ok v := by
  obtain @⟨n, d, hn, hd, hnpos, hdpos⟩ := h
  have hslash : '/' ∉ n := hn.not_mem (by decide)
  have hslash' : '/' ∉ d := hd.not_mem (by decide)
  constructor
  · rw [List.count_append, List.count_cons_self, List.count_eq_zero.2 hslash, List.count_eq_zero.2 hslash']
  · unfold parseFraction
    rw [(cut_append hslash).1, (cut_append hslash).2, intSetString_plain (ne_nil_of_pos hnpos) hn, List.tail_cons,
      intSetString_plain (ne_nil_of_pos hdpos) hd]
    simp only [Int.cast_natCast]
    rw [if_neg (by omega)]

/-- **A fraction is read as the number it denotes.** -/
theorem DenotesFraction.parseRate (h : DenotesFraction raw.toList v) : parseRate raw = .ok ⟨some v⟩ := by
  obtain ⟨hcount, hparse⟩ := parseFraction_eq h
  have hchars : ∀ c ∈ raw.toList, (digitVal c).isSome ∧ c.isDigit = true ∨ c = '/' := by
    generalize raw.toList = s at h
    obtain @⟨n, d, hn, hd, -, -⟩ := h
    intro c hc
    rcases List.mem_append.1 hc with hc | hc
    · exact .inl ⟨hn.literal hc, hn c hc⟩
    rcases List.mem_cons.1 hc with hc | hc
    · exact .inr hc
    · exact .inl ⟨hd.literal hc, hd c hc⟩
  apply parseRate_eq _ (List.ne_nil_of_mem h.slash) _ h.pos
  · rw [parseRat, if_pos hcount, hparse]
  · intro c hc
    apply isSpace_of_literal
    rcases hchars c hc with ⟨hd, -⟩ | hd
    · exact .inl hd
    · exact .inr (.inr (.inr (.inr (.inr hd))))
  · rintro (hc | hc | hc) <;> rcases hchars _ hc with ⟨-, hd⟩ | hd <;> exact absurd hd (by decide)

/-! ### Everything that is read -/

theorem DenotesFraction.of_parseFraction (h : parseFraction s = .ok v) (hv : 0 < v) (hslash : s.count '/' = 1)
    (hplus : '+' ∉ s) : DenotesFraction s v := by
  obtain ⟨n, d, rfl, hn⟩ := List.eq_append_cons_of_mem (List.count_pos_iff.1 (by omega : 0 < s.count '/'))
  unfold parseFraction at h
  rw [(cut_append hn).1, (cut_append hn).2, List.tail_cons] at h
  split at h
  · cases h
  rename_i numerator hnumerator
  split at h
  · cases h
  rename_i denominator hdenominator
  split at h
  · cases h
  rename_i hpos
  rw [not_le] at hpos
  have hvalue := Except.ok.inj h
  have hnpos : 0 < numerator := by
    have hd : (0 : ℚ) < denominator := by exact_mod_cast hpos
    rw [← hvalue, lt_div_iff₀ hd, zero_mul] at hv
    exact_mod_cast hv
  obtain ⟨hne, hplain⟩ := plain_of_intSetString hnumerator hnpos fun hc => hplus (by simp [hc])
  obtain ⟨hne', hplain'⟩ := plain_of_intSetString hdenominator hpos fun hc => hplus (by simp [hc])
  rw [intSetString_plain hne hplain, Option.some.injEq] at hnumerator
  rw [intSetString_plain hne' hplain', Option.some.injEq] at hdenominator
  subst hnumerator hdenominator
  rw [← hvalue]
  exact .mk hplain hplain' (by exact_mod_cast hnpos) (by exact_mod_cast hpos)

/-- **The texts that are accepted**: fractions of digits, and the positive literals of `big.Rat`, as far as
they have none of the refused characters. -/
theorem parseRate_ok_iff : (∃ r, parseRate raw = .ok r) ↔
    ¬ Refused raw.toList ∧ ((∃ v, DenotesFraction raw.toList v) ∨ IsPositive raw.toList) := by
  constructor
  · rintro ⟨r, h⟩
    unfold parseRate at h
    split at h
    · cases h
    split at h
    · cases h
    rename_i hrefused
    rw [any_refused] at hrefused
    have hplus : '+' ∉ raw.toList := fun hc => hrefused (.inr (.inr hc))
    obtain ⟨v, hv, h⟩ := bind_eq_ok.1 h
    obtain ⟨hpos, -⟩ := guard_eq_ok.1 h
    rw [not_le] at hpos
    refine ⟨hrefused, ?_⟩
    unfold parseRat at hv
    split at hv
    · rename_i hslash
      exact .inl ⟨v, .of_parseFraction hv hpos hslash hplus⟩
    · rename_i hslash
      split at hv
      · cases hv
      rename_i w hw
      cases hv
      exact .inr (ratLiteral_pos_iff.1 ⟨v, (ratLiteral_of_ratSetString hw hpos hplus hslash).2, hpos⟩)
  · rintro ⟨hrefused, ⟨v, hv⟩ | h⟩
    · exact ⟨_, hv.parseRate⟩
    · obtain ⟨v, hv, hpos⟩ := ratLiteral_pos_iff.2 h
      refine ⟨⟨some v⟩, parseRate_eq ?_ h.ne_nil hrefused hpos ?_⟩
      · intro c hc
        apply isSpace_of_literal
        rcases h.chars hc with hd | hd | hd | hd | hd <;> simp [hd]
      · rw [parseRat, if_neg (by simp [List.count_eq_zero.2 h.no_slash]),
          ratSetString_of_no_sign h.no_slash h.head.1 h.head.2, hv]

/-! ### What the grammar does not have -/

/-- A mark of a literal that is no plain decimal: an exponent of two, a base prefix or a separator. -/
def Foreign (s : List Char) : Prop := ∃ c ∈ s, c ∈ ['_', 'p', 'P', 'b', 'B', 'o', 'O', 'x', 'X']

instance (s : List Char) : Decidable (Foreign s) :=
  List.decidableBEx (fun c => c ∈ ['_', 'p', 'P', 'b', 'B', 'o', 'O', 'x', 'X']) s

theorem Denotes.not_foreign (h : Denotes s v k) : ¬ Foreign s := by
  rintro ⟨c, hc, hmem⟩
  have hmarks : ∀ c ∈ ['_', 'p', 'P', 'b', 'B', 'o', 'O', 'x', 'X'], ¬ (c.isDigit = true ∨ c = '.') := by
    intro c hc
    fin_cases hc <;> decide +kernel
  exact hmarks c hmem (h.chars hc)

theorem Denotes.not_refused (h : Denotes s v k) : ¬ Refused s := by
  rintro (hc | hc | hc)
  · exact h.not_mem (by decide) (by decide) hc
  · exact h.not_mem (by decide) (by decide) hc
  · exact h.not_mem (by decide) (by decide) hc

theorem plain_of_isDigits (h : IsDigits 10 s) (hsep : '_' ∉ s) : IsPlain s := by
  intro c hc
  rcases h.chars hc with hd | rfl
  · exact isDigit_of_digitIn hd
  · exact absurd hc hsep

theorem denotes_of_isMantissa (h : IsMantissa 10 false s) (hsep : '_' ∉ s) : ∃ v k, Denotes s v k := by
  have hwhole : ∀ {i}, IsWhole 10 false i → '_' ∉ i → i ≠ [] ∧ IsPlain i := by
    rintro i (hi | ⟨hfalse, -⟩) hsep
    · exact ⟨hi.ne_nil, plain_of_isDigits hi hsep⟩
    · cases hfalse
  cases h with
  | whole hi =>
    obtain ⟨hne, hi⟩ := hwhole hi hsep
    exact ⟨_, _, .whole hne hi⟩
  | point hi =>
    obtain ⟨hne, hi⟩ := hwhole hi fun hc => hsep (by simp [hc])
    exact ⟨_, _, .point (.inl hne) hi (by simp [IsPlain])⟩
  | fraction hf =>
    have hplain := plain_of_isDigits hf fun hc => hsep (by simp [hc])
    exact ⟨_, _, .point (i := []) (.inr hf.ne_nil) (by simp [IsPlain]) hplain⟩
  | both hi hf =>
    obtain ⟨hne, hi⟩ := hwhole hi fun hc => hsep (by simp [hc])
    exact ⟨_, _, .point (.inl hne) hi (plain_of_isDigits hf fun hc => hsep (by simp [hc]))⟩

/-- A positive literal without any of these marks is a plain decimal. -/
theorem denotes_of_isPositive (h : IsPositive s) (hrefused : ¬ Refused s) (hforeign : ¬ Foreign s) :
    ∃ v k, Denotes s v k ∧ 0 < v := by
  obtain ⟨v, hv, hpos⟩ := ratLiteral_pos_iff.2 h
  have hmark : ∀ c ∈ ['_', 'p', 'P', 'b', 'B', 'o', 'O', 'x', 'X'], c ∉ s :=
    fun c hc hmem => hforeign ⟨c, hmem, hc⟩
  obtain ⟨w, k, hw⟩ : ∃ w k, Denotes s w k := by
    cases h with
    | decimal hm _ he =>
      rcases he with rfl | ⟨c, sign, ds, rfl, hc, -⟩
      · rw [List.append_nil] at hmark ⊢
        exact denotes_of_isMantissa hm (hmark '_' (by decide))
      · -- the letter of the exponent is refused or one of the marks
        exfalso
        simp only [isExponent, decide_eq_true_eq] at hc
        rcases hc with rfl | rfl | ⟨rfl | rfl, -⟩
        · exact hmark 'p' (by decide) (by simp)
        · exact hmark 'P' (by decide) (by simp)
        · exact hrefused (.inl (by simp))
        · exact hrefused (.inr (.inl (by simp)))
    | @based c b m e hprefix =>
      exfalso
      refine hmark c ?_ (by simp)
      exact List.mem_append_right ['_', 'p', 'P'] (mem_of_prefixBase hprefix)
  have heq : some v = some w := hv.symm.trans hw.ratLiteral
  cases heq
  exact ⟨v, k, hw, hpos⟩

/-- **The texts on which the reader keeps to its grammar**: all of them, except the positive literals with an
exponent of two, a base prefix or a separator, which it accepts. -/
theorem parseRate_grammar (raw : String) :
    ((∃ r, parseRate raw = .ok r) ↔ IsRate raw.toList) ↔
      ¬ (IsPositive raw.toList ∧ ¬ Refused raw.toList ∧ Foreign raw.toList) := by
  rw [parseRate_ok_iff]
  constructor
  · rintro hiff ⟨hpos, hrefused, hforeign⟩
    rcases hiff.1 ⟨hrefused, .inr hpos⟩ with ⟨v, k, hv, -⟩ | ⟨v, hv⟩
    · exact hv.not_foreign hforeign
    · exact hpos.no_slash hv.slash
  · intro hkind
    constructor
    · rintro ⟨hrefused, hfraction | hpos⟩
      · exact .inr hfraction
      · exact .inl (denotes_of_isPositive hpos hrefused fun hforeign => hkind ⟨hpos, hrefused, hforeign⟩)
    · rintro (⟨v, k, hv, hpos⟩ | ⟨v, hv⟩)
      · exact ⟨hv.not_refused, .inr (ratLiteral_pos_iff.1 ⟨v, hv.ratLiteral, hpos⟩)⟩
      · exact parseRate_ok_iff.1 ⟨_, hv.parseRate⟩

/-- A binary exponent, a base prefix and separators are accepted. -/
theorem parseRate_binary_exponent :
    parseRate "1p3" = .ok ⟨some 8⟩ ∧ parseRate "0x10" = .ok ⟨some 16⟩ ∧ parseRate "1_000" = .ok ⟨some 1000⟩ ∧
      ¬ IsRate "1p3".toList ∧ ¬ IsRate "0x10".toList ∧ ¬ IsRate "1_000".toList := by
  have hnot : ∀ s, Foreign s → '/' ∉ s → ¬ IsRate s := by
    rintro s hforeign hslash (⟨v, k, hv, -⟩ | ⟨v, hv⟩)
    · exact hv.not_foreign hforeign
    · exact hslash hv.slash
  exact ⟨by decide +kernel, by decide +kernel, by decide +kernel, hnot _ (by decide +kernel) (by decide +kernel),
    hnot _ (by decide +kernel) (by decide +kernel), hnot _ (by decide +kernel) (by decide +kernel)⟩

/-! ## What is written -/

variable {p d fuel : ℕ}

/-- The loop has enough rounds, and stops only when it cannot divide any more. -/
theorem factorOut_spec (count : ℕ) (hp : 1 < p) (hd : 0 < d) (hfuel : d ≤ fuel) :
    ∃ k e, factorOut p fuel d count = (e, count + k) ∧ d = p ^ k * e ∧ ¬ p ∣ e := by
  induction fuel generalizing d count with
  | zero => omega
  | succ fuel ih =>
    rw [factorOut]
    split
    · rename_i hmod
      have hdvd := Nat.dvd_of_mod_eq_zero hmod
      have hlt : d / p < d := Nat.div_lt_self hd hp
      have hpos : 0 < d / p := Nat.div_pos (Nat.le_of_dvd hd hdvd) (by omega)
      obtain ⟨k, e, heq, hdiv, hnot⟩ := ih (count + 1) hpos (by omega)
      refine ⟨k + 1, e, by rw [heq]; congr 1; omega, ?_, hnot⟩
      rw [pow_succ, mul_right_comm, ← hdiv, Nat.div_mul_cancel hdvd]
    · rename_i hmod
      exact ⟨0, d, rfl, by simp, fun hdvd => hmod (Nat.mod_eq_zero_of_dvd hdvd)⟩

/-- A multiple of ten to the `n` clears the denominator of `v` exactly when the denominator divides it. -/
theorem integral_iff {n : ℕ} : (∃ z : ℤ, v * 10 ^ n = z) ↔ v.den ∣ 10 ^ n := by
  have hden : (v.den : ℚ) ≠ 0 := by exact_mod_cast v.den_nz
  have hv : v * v.den = v.num := Rat.mul_den_eq_num v
  constructor
  · rintro ⟨z, hz⟩
    have hmul : (v.num * 10 ^ n : ℤ) = z * v.den := by
      have : (v.num * 10 ^ n : ℚ) = z * v.den := by rw [← hv, ← hz]; ring
      exact_mod_cast this
    have hdvd : v.den ∣ v.num.natAbs * 10 ^ n := by
      have := congrArg Int.natAbs hmul
      rw [Int.natAbs_mul, Int.natAbs_mul, Int.natAbs_natCast, Int.natAbs_pow] at this
      exact ⟨z.natAbs, by rw [mul_comm v.den, ← this]; rfl⟩
    exact v.reduced.symm.dvd_of_dvd_mul_left hdvd
  · rintro ⟨m, hm⟩
    refine ⟨v.num * m, ?_⟩
    have hten : (10 : ℚ) ^ n = v.den * m := by exact_mod_cast hm
    rw [hten, ← mul_assoc, hv]
    push_cast
    rfl

/-- Ten to the `n` has only twos and fives. -/
theorem dvd_ten_pow_iff {a b e n : ℕ} (h2 : ¬ 2 ∣ e) (h5 : ¬ 5 ∣ e) :
    2 ^ a * (5 ^ b * e) ∣ 10 ^ n ↔ e = 1 ∧ a ≤ n ∧ b ≤ n := by
  have hten : 10 ^ n = 2 ^ n * 5 ^ n := by rw [← Nat.mul_pow]
  have hcop2 : Nat.Coprime e 2 := ((Nat.Prime.coprime_iff_not_dvd Nat.prime_two).2 h2).symm
  have hcop5 : Nat.Coprime e 5 := ((Nat.Prime.coprime_iff_not_dvd Nat.prime_five).2 h5).symm
  have hcop : ∀ x y, Nat.Coprime (2 ^ x) (5 ^ y) := fun x y => Nat.Coprime.pow x y (by decide)
  constructor
  · intro h
    have he : e ∣ 2 ^ n * 5 ^ n := hten ▸ (Dvd.intro_left _ (mul_assoc _ _ _)).trans h
    have hone : e = 1 := Nat.Coprime.eq_one_of_dvd ((hcop2.pow_right n).mul_right (hcop5.pow_right n)) he
    have ha : 2 ^ a ∣ 2 ^ n * 5 ^ n := hten ▸ (Dvd.intro _ rfl).trans h
    have hb : 5 ^ b ∣ 2 ^ n * 5 ^ n := hten ▸ (Dvd.intro_left (2 ^ a * e) (by ring)).trans h
    exact ⟨hone, (Nat.pow_dvd_pow_iff_le_right (by decide)).1 ((hcop a n).dvd_of_dvd_mul_right ha),
      (Nat.pow_dvd_pow_iff_le_right (by decide)).1 ((hcop n b).symm.dvd_of_dvd_mul_left hb)⟩
  · rintro ⟨rfl, ha, hb⟩
    rw [hten, mul_one]
    exact Nat.mul_dvd_mul (pow_dvd_pow 2 ha) (pow_dvd_pow 5 hb)

/-- The twos and fives of a denominator, as the two loops count them. -/
theorem factorOut_den (v : ℚ) : ∃ a b e m, factorOut 2 v.den v.den 0 = (m, a) ∧ factorOut 5 m m 0 = (e, b) ∧
    v.den = 2 ^ a * (5 ^ b * e) ∧ ¬ 2 ∣ e ∧ ¬ 5 ∣ e := by
  obtain ⟨a, m, htwo, hden, h2⟩ := factorOut_spec 0 (by decide : 1 < 2) v.den_pos le_rfl
  have hm : 0 < m := Nat.pos_of_ne_zero fun hzero => h2 (hzero ▸ Nat.dvd_zero 2)
  obtain ⟨b, e, hfive, rfl, h5⟩ := factorOut_spec 0 (by decide : 1 < 5) hm le_rfl
  rw [zero_add] at htwo hfive
  exact ⟨a, b, e, _, htwo, hfive, hden, fun hdvd => h2 (hdvd.mul_left _), h5⟩

theorem ofDigitChars_zeros (n : ℕ) : Nat.ofDigitChars 10 (List.replicate n '0') 0 = 0 := by
  induction n with
  | zero => rfl
  | succ n ih =>
    rw [List.replicate_succ, Nat.ofDigitChars_cons]
    exact ih

theorem plain_toDigits (n : ℕ) : IsPlain (Nat.toDigits 10 n) :=
  fun _ hc => Nat.isDigit_of_mem_toDigits (by decide) (by decide) hc

/-- **The point stands where it belongs**: the digits of `n` denote `n` without its last `scale` places. -/
theorem insertPoint_denotes (n scale : ℕ) :
    Denotes (insertPoint (Nat.toDigits 10 n) scale) (n / 10 ^ scale) scale := by
  unfold insertPoint
  split
  · rename_i hscale
    subst hscale
    have h := Denotes.whole Nat.toDigits_ne_nil (plain_toDigits n)
    rw [Nat.ofDigitChars_toDigits (by decide) (by decide)] at h
    simpa using h
  · rename_i hscale
    set digits := (Nat.toDigits 10 n).leftpad (scale + 1) '0' with hdigits
    -- at least one digit stays in front of the point
    have hlen : scale + 1 ≤ digits.length := by
      simp [hdigits, List.leftpad]
      omega
    have hplain : IsPlain digits := by
      intro c hc
      rcases List.mem_append.1 hc with hc | hc
      · rw [List.eq_of_mem_replicate hc]
        rfl
      · exact plain_toDigits n c hc
    have hvalue : Nat.ofDigitChars 10 digits 0 = n := by
      rw [hdigits, List.leftpad, Nat.ofDigitChars_append, ofDigitChars_zeros,
        Nat.ofDigitChars_toDigits (by decide) (by decide)]
    have hfraction : (digits.drop (digits.length - scale)).length = scale := by
      rw [List.length_drop]
      omega
    have hne : digits.drop (digits.length - scale) ≠ [] := by
      rw [← List.length_pos_iff, hfraction]
      omega
    have h := Denotes.point (i := digits.take (digits.length - scale)) (.inr hne)
      (fun c hc => hplain c (List.mem_of_mem_take hc)) (fun c hc => hplain c (List.mem_of_mem_drop hc))
    rwa [List.take_append_drop, hvalue, hfraction] at h

/-- The numerator over a common power of ten. -/
theorem scaled_numerator {a b : ℕ} (hv : 0 < v) (hden : v.den = 2 ^ a * 5 ^ b) :
    (((if b < max b a then (if a < max b a then v.num * 2 ^ (max b a - a) else v.num) * 5 ^ (max b a - b)
      else if a < max b a then v.num * 2 ^ (max b a - a) else v.num).toNat : ℕ) : ℚ) / 10 ^ max b a = v := by
  have hfactor : ∀ (x : ℤ) (q k m : ℕ), (if k < m then x * (q : ℤ) ^ (m - k) else x) = x * q ^ (m - k) := by
    intro x q k m
    split
    · rfl
    · rw [show m - k = 0 by omega, pow_zero, mul_one]
  have htwo := hfactor v.num 2 a (max b a)
  have hfive := hfactor (v.num * 2 ^ (max b a - a)) 5 b (max b a)
  push_cast at htwo hfive
  rw [htwo, hfive]
  have hnum : 0 < v.num := Rat.num_pos.2 hv
  have hcast : ((v.num * 2 ^ (max b a - a) * 5 ^ (max b a - b)).toNat : ℤ) =
      v.num * 2 ^ (max b a - a) * 5 ^ (max b a - b) := Int.toNat_of_nonneg (by positivity)
  have hrat : (((v.num * 2 ^ (max b a - a) * 5 ^ (max b a - b)).toNat : ℕ) : ℚ) =
      v.num * 2 ^ (max b a - a) * 5 ^ (max b a - b) := by exact_mod_cast hcast
  rw [hrat]
  -- what the denominator lacks of the power of ten is what the numerator was multiplied by
  have hten : (10 : ℚ) ^ max b a = v.den * (2 ^ (max b a - a) * 5 ^ (max b a - b)) := by
    have h2 : (2 : ℚ) ^ max b a = 2 ^ a * 2 ^ (max b a - a) := by
      rw [← pow_add, Nat.add_sub_cancel' (le_max_right b a)]
    have h5 : (5 : ℚ) ^ max b a = 5 ^ b * 5 ^ (max b a - b) := by
      rw [← pow_add, Nat.add_sub_cancel' (le_max_left b a)]
    rw [show (10 : ℚ) = 2 * 5 by norm_num, mul_pow, h2, h5, hden]
    push_cast
    ring
  rw [hten, mul_assoc, mul_div_mul_right _ _ (by positivity), Rat.num_div_den]

/-- What `DecimalString` returns, by the number of places the rate needs. -/
theorem decimalString_spec (hv : 0 < v) (n : ℕ) :
    (∃ t k, (⟨some v⟩ : Rate).decimalString n = .ok t ∧ Denotes t.toList v k ∧
      (∃ z : ℤ, v * 10 ^ n = z) ∧ ∀ m, (∃ z : ℤ, v * 10 ^ m = z) → k ≤ m) ∨
    (∃ e, (⟨some v⟩ : Rate).decimalString n = .error e) ∧ ¬ ∃ z : ℤ, v * 10 ^ n = z := by
  obtain ⟨a, b, e, m, htwo, hfive, hden, h2, h5⟩ := factorOut_den v
  have hintegral : ∀ n, (∃ z : ℤ, v * 10 ^ n = z) ↔ e = 1 ∧ a ≤ n ∧ b ≤ n := by
    intro n
    rw [integral_iff, hden, dvd_ten_pow_iff h2 h5]
  simp only [Rate.decimalString, htwo, hfive, hintegral]
  rw [if_neg (by simp [hv])]
  split
  · rename_i he
    exact .inr ⟨⟨_, rfl⟩, fun h => he h.1⟩
  rename_i he
  rw [not_not] at he
  subst he
  rw [mul_one] at hden
  split
  · rename_i hscale
    refine .inr ⟨⟨_, rfl⟩, fun h => ?_⟩
    have := max_le h.2.2 h.2.1
    omega
  · rename_i hscale
    left
    refine ⟨_, max b a, rfl, ?_, ⟨rfl, by omega, by omega⟩, fun m hm => max_le hm.2.2 hm.2.1⟩
    rw [String.toList_ofList]
    have h := insertPoint_denotes
      (if b < max b a then (if a < max b a then v.num * 2 ^ (max b a - a) else v.num) * 5 ^ (max b a - b)
        else if a < max b a then v.num * 2 ^ (max b a - a) else v.num).toNat (max b a)
    rwa [scaled_numerator hv hden] at h

theorem Denotes.integral (h : Denotes s v k) : ∃ z : ℤ, v * 10 ^ k = z := by
  cases h with
  | whole => exact ⟨Nat.ofDigitChars 10 s 0, by simp⟩
  | @point i f =>
    refine ⟨Nat.ofDigitChars 10 (i ++ f) 0, ?_⟩
    rw [div_mul_cancel₀ _ (by positivity)]
    norm_cast

theorem fractionString_denotes (hv : 0 < v) : DenotesFraction (fractionString v).toList v := by
  have hnum : 0 < v.num := Rat.num_pos.2 hv
  have hvalue : ∀ n, Nat.ofDigitChars 10 (Nat.toDigits 10 n) 0 = n :=
    fun n => Nat.ofDigitChars_toDigits (by decide) (by decide)
  rw [fractionString, String.toList_ofList]
  have h := DenotesFraction.mk (plain_toDigits v.num.toNat) (plain_toDigits v.den)
    (by rw [hvalue]; omega) (by rw [hvalue]; exact v.den_pos)
  have hcast : ((v.num.toNat : ℕ) : ℚ) = v.num := by
    exact_mod_cast congrArg (Int.cast : ℤ → ℚ) (Int.toNat_of_nonneg hnum.le)
  rw [hvalue, hvalue, hcast, Rat.num_div_den] at h
  exact h

/-- The text of a positive rate, read back. -/
theorem parseRate_exactString (hv : 0 < v) :
    ∃ t, (⟨some v⟩ : Rate).exactString = .ok t ∧ parseRate t = .ok ⟨some v⟩ := by
  simp only [Rate.exactString]
  rw [if_neg (not_le.2 hv)]
  rcases decimalString_spec hv 18 with ⟨t, k, ht, hdenotes, -⟩ | ⟨⟨e, he⟩, -⟩
  · simp only [Nat.cast_ofNat] at ht
    rw [ht]
    exact ⟨t, rfl, hdenotes.parseRate hv⟩
  · simp only [Nat.cast_ofNat] at he
    rw [he]
    exact ⟨_, rfl, (fractionString_denotes hv).parseRate⟩

/-- **Rate texts lose nothing.** The exact text of a positive rate is read back as that rate. A decimal with
at most `n` places exists exactly when `n` places are enough; it denotes the rate, and no decimal of the same
number has fewer fractional digits. -/
theorem rate_text_lossless (v : ℚ) (hv : 0 < v) :
    (∃ t, (⟨some v⟩ : Rate).exactString = .ok t ∧ parseRate t = .ok ⟨some v⟩) ∧
    ∀ n : ℕ,
      ((∃ t, (⟨some v⟩ : Rate).decimalString n = .ok t) ↔ ∃ z : ℤ, v * 10 ^ n = z) ∧
      ∀ t, (⟨some v⟩ : Rate).decimalString n = .ok t →
        ∃ k, Denotes t.toList v k ∧ ∀ s m, Denotes s v m → k ≤ m := by
  refine ⟨parseRate_exactString hv, fun n => ?_⟩
  rcases decimalString_spec hv n with ⟨t, k, ht, hdenotes, hintegral, hleast⟩ | ⟨⟨e, he⟩, hnot⟩
  · refine ⟨⟨fun _ => hintegral, fun _ => ⟨t, ht⟩⟩, fun t' ht' => ?_⟩
    rw [ht] at ht'
    cases ht'
    exact ⟨k, hdenotes, fun s m hs => hleast m hs.integral⟩
  · refine ⟨⟨?_, fun h => absurd h hnot⟩, ?_⟩
    · rintro ⟨t, ht⟩
      rw [he] at ht
      cases ht
    · intro t ht
      rw [he] at ht
      cases ht

theorem rate_text_lossless_eighth :
    (∃ t, (⟨some (128001 / 8)⟩ : Rate).exactString = .ok t ∧ parseRate t = .ok ⟨some (128001 / 8)⟩) ∧
    (⟨some (128001 / 8)⟩ : Rate).decimalString 3 = .ok "16000.125" ∧
    ∃ k, Denotes "16000.125".toList (128001 / 8) k ∧ ∀ s m, Denotes s (128001 / 8) m → k ≤ m := by
  obtain ⟨hexact, hdecimal⟩ := rate_text_lossless (128001 / 8) (by norm_num)
  have hthree : (⟨some (128001 / 8)⟩ : Rate).decimalString 3 = .ok "16000.125" := by decide +kernel
  exact ⟨hexact, hthree, (hdecimal 3).2 _ hthree⟩

example : (⟨some (1 / 3)⟩ : Rate).exactString = .ok "1/3" := by decide +kernel

end Seev.Ledger.Rates
