import Mathlib.Algebra.Order.Field.Power
import Mathlib.Data.Rat.Floor
import Mathlib.Tactic.Positivity
import Seev.Lib.Result

/-!
# Conversion rates

The stored rate of a pair is always in units of the quote currency for one of the base
currency. A quote takes the bid from base to quote, and the inverse of the ask from quote to base;
the amount is rounded toward zero in the minor unit of the target.

* `convertMinor_exact`: the integer division of the scaled fraction is the floor of the exact amount.
* `conversion_exact`: when a conversion fails, what it returns, and how its amount depends on the source
  amount and the spread.
* `directional_mul_le_one`: the two rates of a pair, there and back, never exceed one.
* `fx_round_trip`: a conversion and its way back, at any spreads, return at most the source amount.
-/

namespace Seev.Ledger.Rates

open Lib

inductive MoneyError where
  | invalidCurrency | currencyMismatch | invalidAmount | nonPositive | zeroTarget | overflow
  /-- `apperror.ErrFXRateInvalid`, with its text -/
  | fxRateInvalid (reason : String)
  deriving DecidableEq, Repr

/-! ## Codes -/

/-- `unicode.IsSpace` -/
def isSpace (c : Char) : Bool :=
  let n := c.toNat
  (9 ≤ n ∧ n ≤ 13) ∨ n ∈ [0x20, 0x85, 0xA0, 0x1680, 0x2028, 0x2029, 0x202F, 0x205F, 0x3000] ∨
    (0x2000 ≤ n ∧ n ≤ 0x200A)

/-- `strings.TrimSpace` -/
def trimSpace (s : String) : String :=
  String.ofList (((s.toList.dropWhile isSpace).reverse.dropWhile isSpace).reverse)

/-- `ValidateCode` -/
def validateCode (code : String) : Except MoneyError Unit :=
  if code.toList.length = 3 ∧ code.toList.all (fun c => 'A' ≤ c ∧ c ≤ 'Z') then .ok ()
  else .error .invalidCurrency

/-! ## Rates -/

/-- A number of basis points, as a factor. -/
def basisPoints (n : ℤ) : ℚ := n / 10000

/-- `canonicalDirectionalRates`: the rate of the calculation and the rate for the client. A rate
that is nil is read as 0. -/
def canonicalDirectionalRates (baseCurrency quoteCurrency sourceCurrency targetCurrency : String) (reference : ℚ)
    (spread : ℤ) : Except MoneyError (ℚ × ℚ) :=
  if reference ≤ 0 ∨ spread < 0 ∨ 10000 ≤ spread then .error (.fxRateInvalid "invalid reference rate or spread")
  else
    let base := trimSpace baseCurrency
    let quote := trimSpace quoteCurrency
    if base = "" ∨ quote = "" ∨ base = quote then .error (.fxRateInvalid "invalid FX pair currencies")
    else if sourceCurrency = base ∧ targetCurrency = quote then
      let bid := reference * basisPoints (10000 - spread)
      .ok (bid, bid)
    else if sourceCurrency = quote ∧ targetCurrency = base then
      let ask := reference * basisPoints (10000 + spread)
      .ok (ask⁻¹, ask)
    else .error (.fxRateInvalid ("direction " ++ sourceCurrency ++ "/" ++ targetCurrency ++
      " is not supported by pair " ++ base ++ "/" ++ quote))

/-! ## Amounts -/

structure Money where
  currency : String
  minor : ℤ
  deriving DecidableEq, Repr

/-- The fraction that was rounded off, as evidence of a quote. -/
structure Remainder where
  numerator : ℤ
  denominator : ℤ
  deriving DecidableEq, Repr

def maxInt64 : ℤ := 2 ^ 63 - 1

/-- `convertWithMinorUnits` -/
def convertMinor (source : Money) (targetCode : String) (sourceExp targetExp : ℤ) (rate : ℚ)
    (spreadBasisPoints : ℤ) :
    Except MoneyError (Money × Remainder) :=
  if source.minor ≤ 0 then .error .nonPositive
  else if rate ≤ 0 ∨ spreadBasisPoints < 0 ∨ 10000 ≤ spreadBasisPoints then .error .invalidAmount
  else
    let clientRate := rate * basisPoints (10000 - spreadBasisPoints)
    let numerator : ℤ :=
      source.minor * clientRate.num * if sourceExp < targetExp then 10 ^ (targetExp - sourceExp).toNat else 1
    let denominator : ℤ :=
      clientRate.den * if targetExp < sourceExp then 10 ^ (sourceExp - targetExp).toNat else 1
    let quotient := numerator.tdiv denominator
    if quotient ≤ 0 then .error .zeroTarget
    else if maxInt64 < quotient then .error .overflow
    else .ok (⟨targetCode, quotient⟩, ⟨numerator.tmod denominator, denominator⟩)

/-- `ConvertWithMinorUnits` -/
def convertWithMinorUnits (source : Money) (targetCode : String) (sourceMinorUnit targetMinorUnit : ℤ) (rate : ℚ)
    (spreadBasisPoints : ℤ) : Except MoneyError (Money × Remainder) := do
  validateCode source.currency
  validateCode targetCode
  if source.currency = targetCode then throw .currencyMismatch
  if sourceMinorUnit < 0 ∨ targetMinorUnit < 0 then throw .invalidAmount
  convertMinor source targetCode sourceMinorUnit targetMinorUnit rate spreadBasisPoints

/-! ## Rounding -/

variable {source b : Money} {r : Remainder} {targetCode : String} {sourceExp targetExp spread : ℤ} {rate : ℚ}

/-- The powers of ten on the two sides of the fraction. -/
theorem scale_div (sourceExp targetExp : ℤ) :
    ((if sourceExp < targetExp then 10 ^ (targetExp - sourceExp).toNat else 1 : ℤ) : ℚ) /
      ((if targetExp < sourceExp then 10 ^ (sourceExp - targetExp).toNat else 1 : ℤ) : ℚ) =
      10 ^ (targetExp - sourceExp) := by
  rcases lt_trichotomy sourceExp targetExp with hlt | heq | hgt
  · rw [if_pos hlt, if_neg (by omega)]
    have htoNat : ((targetExp - sourceExp).toNat : ℤ) = targetExp - sourceExp := by omega
    push_cast
    rw [div_one, ← zpow_natCast, htoNat]
  · rw [if_neg (by omega), if_neg (by omega), heq, sub_self]
    norm_num
  · rw [if_neg (by omega), if_pos hgt]
    have htoNat : ((sourceExp - targetExp).toNat : ℤ) = sourceExp - targetExp := by omega
    have hneg : targetExp - sourceExp = -(sourceExp - targetExp) := by omega
    push_cast
    rw [hneg, zpow_neg, ← zpow_natCast, htoNat, one_div]

theorem scale_pos (x y : ℤ) : 0 < (if x < y then 10 ^ (y - x).toNat else 1 : ℤ) := by
  split <;> positivity

/-- The exact amount of the target in its minor unit. -/
def exactTarget (a : ℤ) (rate : ℚ) (spread sourceExp targetExp : ℤ) : ℚ :=
  a * rate * (10000 - spread) / 10000 * 10 ^ (targetExp - sourceExp)

theorem exactTarget_eq (a : ℤ) (rate : ℚ) (spread sourceExp targetExp : ℤ) :
    exactTarget a rate spread sourceExp targetExp =
      a * (rate * basisPoints (10000 - spread)) * 10 ^ (targetExp - sourceExp) := by
  unfold exactTarget basisPoints
  push_cast
  ring

/-- The integers that are divided are the exact amount, as a fraction. -/
theorem fraction_exact (a : ℤ) (q : ℚ) (sourceExp targetExp : ℤ) :
    (a : ℚ) * q * 10 ^ (targetExp - sourceExp) =
      ((a * q.num * if sourceExp < targetExp then 10 ^ (targetExp - sourceExp).toNat else 1 : ℤ) : ℚ) /
        ((q.den * if targetExp < sourceExp then 10 ^ (sourceExp - targetExp).toNat else 1 : ℤ) : ℚ) := by
  have hdenNe : ((q.den : ℤ) : ℚ) ≠ 0 := by exact_mod_cast q.den_ne_zero
  have hdownNe : ((if targetExp < sourceExp then 10 ^ (sourceExp - targetExp).toNat else 1 : ℤ) : ℚ) ≠ 0 := by
    exact_mod_cast (scale_pos targetExp sourceExp).ne'
  have hqdiv : q = (q.num : ℚ) / ((q.den : ℤ) : ℚ) := by exact_mod_cast (Rat.num_div_den q).symm
  rw [← scale_div sourceExp targetExp]
  nth_rewrite 1 [hqdiv]
  rw [Int.cast_mul, Int.cast_mul, Int.cast_mul]
  field_simp

theorem floor_div (n : ℤ) {d : ℤ} (hd : 0 < d) : ⌊(n : ℚ) / d⌋ = n / d := by
  have hd' : (0 : ℚ) < d := by exact_mod_cast hd
  rw [Int.floor_eq_iff, le_div_iff₀ hd', div_lt_iff₀ hd']
  exact ⟨by exact_mod_cast Int.ediv_mul_le n hd.ne', by exact_mod_cast Int.lt_ediv_add_one_mul_self n hd⟩

/-- A conversion of valid amounts divides with remainder: the floor of the exact amount decides whether it
succeeds, and the remainder is what the floor leaves. -/
theorem convertMinor_exact (targetCode : String) (sourceExp targetExp : ℤ) (ha : 0 < source.minor)
    (hrate : 0 < rate)
    (h0 : 0 ≤ spread) (h1 : spread < 10000) :
    ∃ r : Remainder, 0 ≤ r.numerator ∧ r.numerator < r.denominator ∧
      exactTarget source.minor rate spread sourceExp targetExp =
        ⌊exactTarget source.minor rate spread sourceExp targetExp⌋ + (r.numerator : ℚ) / r.denominator ∧
      convertMinor source targetCode sourceExp targetExp rate spread =
        if ⌊exactTarget source.minor rate spread sourceExp targetExp⌋ ≤ 0 then .error .zeroTarget
        else if maxInt64 < ⌊exactTarget source.minor rate spread sourceExp targetExp⌋ then .error .overflow
        else .ok (⟨targetCode, ⌊exactTarget source.minor rate spread sourceExp targetExp⌋⟩, r) := by
  have hpoints : (0 : ℚ) < basisPoints (10000 - spread) := by
    have hlt : (0 : ℤ) < 10000 - spread := by omega
    exact div_pos (by exact_mod_cast hlt) (by norm_num)
  have hfraction := fraction_exact source.minor (rate * basisPoints (10000 - spread)) sourceExp targetExp
  have hnum : 0 ≤ source.minor * (rate * basisPoints (10000 - spread)).num *
      (if sourceExp < targetExp then 10 ^ (targetExp - sourceExp).toNat else 1) :=
    mul_nonneg (mul_nonneg ha.le (Rat.num_nonneg.2 (mul_pos hrate hpoints).le)) (scale_pos sourceExp targetExp).le
  have hden : (0 : ℤ) < (rate * basisPoints (10000 - spread)).den *
      (if targetExp < sourceExp then 10 ^ (sourceExp - targetExp).toNat else 1) :=
    mul_pos (by exact_mod_cast Rat.den_pos _) (scale_pos targetExp sourceExp)
  rw [convertMinor, if_neg (by omega), if_neg (by push Not; exact ⟨hrate, h0, h1⟩)]
  dsimp only
  rw [← exactTarget_eq] at hfraction
  -- the two integers, whatever they are
  generalize source.minor * (rate * basisPoints (10000 - spread)).num *
    (if sourceExp < targetExp then 10 ^ (targetExp - sourceExp).toNat else 1) = n at hfraction hnum ⊢
  generalize ((rate * basisPoints (10000 - spread)).den : ℤ) *
    (if targetExp < sourceExp then 10 ^ (sourceExp - targetExp).toNat else 1) = d at hfraction hden ⊢
  rw [Int.tdiv_eq_ediv_of_nonneg hnum, Int.tmod_eq_emod_of_nonneg hnum, hfraction, floor_div n hden]
  refine ⟨⟨n % d, d⟩, Int.emod_nonneg n hden.ne', Int.emod_lt_of_pos n hden, ?_, rfl⟩
  have hd' : (d : ℚ) ≠ 0 := by exact_mod_cast hden.ne'
  rw [div_eq_iff hd', add_mul, div_mul_cancel₀ _ hd']
  exact_mod_cast (Int.ediv_mul_add_emod n d).symm

/-- What a conversion that succeeds has checked, and its amount. -/
theorem convertMinor_ok (h : convertMinor source targetCode sourceExp targetExp rate spread = .ok (b, r)) :
    (0 < source.minor ∧ 0 < rate ∧ 0 ≤ spread ∧ spread < 10000) ∧
      b = ⟨targetCode, ⌊exactTarget source.minor rate spread sourceExp targetExp⌋⟩ ∧
      0 ≤ r.numerator ∧ r.numerator < r.denominator ∧
      exactTarget source.minor rate spread sourceExp targetExp = b.minor + (r.numerator : ℚ) / r.denominator := by
  have hvalid : 0 < source.minor ∧ 0 < rate ∧ 0 ≤ spread ∧ spread < 10000 := by
    unfold convertMinor at h
    split at h
    · cases h
    rename_i hminor
    split at h
    · cases h
    rename_i hrate
    push Not at hminor hrate
    exact ⟨hminor, hrate⟩
  obtain ⟨ha, hrate, h0, h1⟩ := hvalid
  obtain ⟨r', hr0, hr1, hsum, heq⟩ := convertMinor_exact targetCode sourceExp targetExp ha hrate h0 h1
  rw [heq] at h
  split at h
  · cases h
  split at h
  · cases h
  cases h
  exact ⟨⟨ha, hrate, h0, h1⟩, rfl, hr0, hr1, hsum⟩

theorem convertMinor_bounds (h : convertMinor source targetCode sourceExp targetExp rate spread = .ok (b, r)) :
    0 < source.minor ∧ 0 < rate ∧
      (b.minor : ℚ) ≤ source.minor * (rate * basisPoints (10000 - spread)) * 10 ^ (targetExp - sourceExp) ∧
      source.minor * (rate * basisPoints (10000 - spread)) * 10 ^ (targetExp - sourceExp) < b.minor + 1 := by
  obtain ⟨⟨ha, hrate, -, -⟩, rfl, -⟩ := convertMinor_ok h
  rw [← exactTarget_eq]
  exact ⟨ha, hrate, Int.floor_le _, Int.lt_floor_add_one _⟩

theorem convertMinor_of_units
    (h : convertWithMinorUnits source targetCode sourceExp targetExp rate spread = .ok (b, r)) :
    convertMinor source targetCode sourceExp targetExp rate spread = .ok (b, r) := by
  unfold convertWithMinorUnits at h
  obtain ⟨-, -, h⟩ := bind_eq_ok.1 h
  obtain ⟨-, -, h⟩ := bind_eq_ok.1 h
  obtain ⟨-, h⟩ := guard_eq_ok.1 h
  exact (guard_eq_ok.1 h).2

/-- A conversion between two currencies, with the checks of the codes and of the minor units. -/
theorem convertWithMinorUnits_eq (hsource : validateCode source.currency = .ok ())
    (htarget : validateCode targetCode = .ok ())
    (hne : source.currency ≠ targetCode) (hse : 0 ≤ sourceExp) (hte : 0 ≤ targetExp) :
    convertWithMinorUnits source targetCode sourceExp targetExp rate spread =
      convertMinor source targetCode sourceExp targetExp rate spread := by
  unfold convertWithMinorUnits
  rw [hsource, htarget, if_neg hne, if_neg (by omega)]
  rfl

/-- The exact amount grows with the source amount and falls with the spread. -/
theorem exactTarget_mono {a a' spread' : ℤ} (hrate : 0 < rate) (hspread : spread' < 10000) (ha : 0 ≤ a)
    (haa' : a ≤ a')
    (hss' : spread ≤ spread') :
    exactTarget a rate spread' sourceExp targetExp ≤ exactTarget a' rate spread sourceExp targetExp := by
  have ha' : (0 : ℚ) ≤ a := by exact_mod_cast ha
  have hle : (a : ℚ) ≤ a' := by exact_mod_cast haa'
  have hkept : (0 : ℚ) ≤ 10000 - spread' := by
    have hlt : (spread' : ℚ) < 10000 := by exact_mod_cast hspread
    linarith
  have hless : (10000 - spread' : ℚ) ≤ 10000 - spread := by
    have hss'' : (spread : ℚ) ≤ spread' := by exact_mod_cast hss'
    linarith
  have hsource : (0 : ℚ) ≤ a' * rate := mul_nonneg (ha'.trans hle) hrate.le
  unfold exactTarget
  gcongr

theorem exactTarget_nonneg {a : ℤ} (hrate : 0 < rate) (hspread : spread < 10000) (ha : 0 ≤ a) :
    0 ≤ exactTarget a rate spread sourceExp targetExp := by
  have hzero : exactTarget 0 rate spread sourceExp targetExp = 0 := by simp [exactTarget]
  rw [← hzero]
  exact exactTarget_mono hrate hspread le_rfl ha le_rfl

theorem exactTarget_add (a₁ a₂ : ℤ) :
    exactTarget (a₁ + a₂) rate spread sourceExp targetExp =
      exactTarget a₁ rate spread sourceExp targetExp + exactTarget a₂ rate spread sourceExp targetExp := by
  unfold exactTarget
  push_cast
  ring

/-- When a conversion of valid amounts fails. -/
theorem convertMinor_fails_iff (ha : 0 < source.minor) (hrate : 0 < rate) (h0 : 0 ≤ spread)
    (h1 : spread < 10000) :
    (∃ e, convertMinor source targetCode sourceExp targetExp rate spread = .error e) ↔
      ⌊exactTarget source.minor rate spread sourceExp targetExp⌋ = 0 ∨
        maxInt64 < ⌊exactTarget source.minor rate spread sourceExp targetExp⌋ := by
  obtain ⟨r, -, -, -, heq⟩ := convertMinor_exact targetCode sourceExp targetExp ha hrate h0 h1
  have hfloor : 0 ≤ ⌊exactTarget source.minor rate spread sourceExp targetExp⌋ :=
    Int.floor_nonneg.2 (exactTarget_nonneg hrate h1 ha.le)
  rw [heq]
  constructor
  · rintro ⟨e, he⟩
    split at he
    · exact .inl (by omega)
    split at he
    · exact .inr ‹_›
    · cases he
  · rintro (hzero | hover)
    · exact ⟨_, if_pos hzero.le⟩
    · have hmax : (0 : ℤ) < maxInt64 := by decide
      exact ⟨_, (if_neg (by omega)).trans (if_pos hover)⟩

/-- **A conversion is exact, and splitting it never pays.** Between two currencies it fails exactly when the
exact amount, rounded down, is zero or does not fit; otherwise the amount and the remainder make up the exact
one. A greater source amount gives no less, a greater spread no more, and two amounts that are converted on
their own give no more than their sum. -/
theorem conversion_exact {sourceCode targetCode : String} {sourceExp targetExp : ℤ}
    (hsource : validateCode sourceCode = .ok ()) (htarget : validateCode targetCode = .ok ())
    (hne : sourceCode ≠ targetCode) (hse : 0 ≤ sourceExp) (hte : 0 ≤ targetExp) {rate : ℚ} (hrate : 0 < rate) :
    let convert (a spread : ℤ) := convertWithMinorUnits ⟨sourceCode, a⟩ targetCode sourceExp targetExp rate spread
    let exact (a spread : ℤ) := exactTarget a rate spread sourceExp targetExp
    (∀ a spread, 0 < a → 0 ≤ spread → spread < 10000 →
      ((∃ e, convert a spread = .error e) ↔ ⌊exact a spread⌋ = 0 ∨ maxInt64 < ⌊exact a spread⌋) ∧
      ∀ t r, convert a spread = .ok (t, r) → t.currency = targetCode ∧
        exact a spread = t.minor + (r.numerator : ℚ) / r.denominator ∧ 0 ≤ r.numerator ∧
          r.numerator < r.denominator) ∧
    (∀ a a' spread t t' r r', a ≤ a' → convert a spread = .ok (t, r) → convert a' spread = .ok (t', r') →
      t.minor ≤ t'.minor) ∧
    (∀ a spread spread' t t' r r', spread ≤ spread' → convert a spread = .ok (t, r) →
      convert a spread' = .ok (t', r') → t'.minor ≤ t.minor) ∧
    ∀ a₁ a₂ spread t₁ t₂ t r₁ r₂ r, convert a₁ spread = .ok (t₁, r₁) → convert a₂ spread = .ok (t₂, r₂) →
      convert (a₁ + a₂) spread = .ok (t, r) → t₁.minor + t₂.minor ≤ t.minor := by
  intro convert exact
  have hconvert : ∀ a spread, convert a spread =
      convertMinor ⟨sourceCode, a⟩ targetCode sourceExp targetExp rate spread :=
    fun a spread => convertWithMinorUnits_eq hsource htarget hne hse hte
  simp only [hconvert]
  refine ⟨?_, ?_, ?_, ?_⟩
  · intro a spread ha h0 h1
    constructor
    · exact convertMinor_fails_iff ha hrate h0 h1
    · intro t r h
      obtain ⟨-, rfl, hr0, hr1, hsum⟩ := convertMinor_ok h
      exact ⟨rfl, hsum, hr0, hr1⟩
  · intro a a' spread t t' r r' haa' h h'
    obtain ⟨⟨ha, -, -, h1⟩, rfl, -⟩ := convertMinor_ok h
    obtain ⟨-, rfl, -⟩ := convertMinor_ok h'
    exact Int.floor_mono (exactTarget_mono hrate h1 ha.le haa' le_rfl)
  · intro a spread spread' t t' r r' hss' h h'
    obtain ⟨⟨ha, -⟩, rfl, -⟩ := convertMinor_ok h
    obtain ⟨⟨-, -, -, h1⟩, rfl, -⟩ := convertMinor_ok h'
    exact Int.floor_mono (exactTarget_mono hrate h1 ha.le le_rfl hss')
  · intro a₁ a₂ spread t₁ t₂ t r₁ r₂ r h₁ h₂ h
    obtain ⟨-, rfl, -⟩ := convertMinor_ok h₁
    obtain ⟨-, rfl, -⟩ := convertMinor_ok h₂
    obtain ⟨-, rfl, -⟩ := convertMinor_ok h
    dsimp only
    rw [exactTarget_add]
    exact Int.le_floor_add _ _

/-- Fourteen cents at once, and in two halves. -/
theorem conversion_exact_halves :
    convertWithMinorUnits ⟨"USD", 7⟩ "EUR" 2 2 (3 / 2) 100 = .ok (⟨"EUR", 10⟩, ⟨79, 200⟩) ∧
      convertWithMinorUnits ⟨"USD", 14⟩ "EUR" 2 2 (3 / 2) 100 = .ok (⟨"EUR", 20⟩, ⟨158, 200⟩) ∧
      (⟨"EUR", 10⟩ : Money).minor + (⟨"EUR", 10⟩ : Money).minor ≤ (⟨"EUR", 20⟩ : Money).minor := by
  have hhalf : convertWithMinorUnits ⟨"USD", 7⟩ "EUR" 2 2 (3 / 2) 100 = .ok (⟨"EUR", 10⟩, ⟨79, 200⟩) := by
    decide +kernel
  have hwhole : convertWithMinorUnits ⟨"USD", 14⟩ "EUR" 2 2 (3 / 2) 100 = .ok (⟨"EUR", 20⟩, ⟨158, 200⟩) := by
    decide +kernel
  have hexact :=
    conversion_exact (by decide : validateCode "USD" = .ok ()) (by decide : validateCode "EUR" = .ok ())
    (by decide) (by decide : (0 : ℤ) ≤ 2) (by decide : (0 : ℤ) ≤ 2) (by norm_num : (0 : ℚ) < 3 / 2)
  exact ⟨hhalf, hwhole, hexact.2.2.2 7 7 100 _ _ _ _ _ _ hhalf hhalf hwhole⟩

/-! ## There and back -/

variable {base quote sourceCode : String} {reference calculation client : ℚ}

/-- The two directions of a pair: the bid from base to quote, the inverse of the ask back. -/
theorem directional_cases
    (h : canonicalDirectionalRates base quote sourceCode targetCode reference spread =
      .ok (calculation, client)) :
    (0 < reference ∧ 0 ≤ spread ∧ spread < 10000 ∧ trimSpace base ≠ trimSpace quote) ∧
      (sourceCode = trimSpace base ∧ targetCode = trimSpace quote ∧
        calculation = reference * basisPoints (10000 - spread) ∨
        sourceCode = trimSpace quote ∧ targetCode = trimSpace base ∧
          calculation = (reference * basisPoints (10000 + spread))⁻¹) := by
  unfold canonicalDirectionalRates at h
  split at h
  · cases h
  rename_i hvalid
  push Not at hvalid
  dsimp only at h
  split at h
  · cases h
  rename_i hpair
  push Not at hpair
  refine ⟨⟨hvalid.1, hvalid.2.1, hvalid.2.2, hpair.2.2⟩, ?_⟩
  split at h
  · rename_i hdir
    cases h
    exact .inl ⟨hdir.1, hdir.2, rfl⟩
  split at h
  · rename_i hdir
    cases h
    exact .inr ⟨hdir.1, hdir.2, rfl⟩
  · cases h

/-- The bid and the ask of one reference rate. -/
theorem bid_div_ask_le_one {bidSpread askSpread : ℤ} (href : 0 < reference) (hbid : 0 ≤ bidSpread)
    (hask : 0 ≤ askSpread) :
    reference * basisPoints (10000 - bidSpread) * (reference * basisPoints (10000 + askSpread))⁻¹ ≤ 1 := by
  have hbid' : (0 : ℚ) ≤ bidSpread := by exact_mod_cast hbid
  have hask' : (0 : ℚ) ≤ askSpread := by exact_mod_cast hask
  have hpos : 0 < reference * basisPoints (10000 + askSpread) := by
    refine mul_pos href (div_pos ?_ (by norm_num))
    push_cast
    linarith
  rw [← div_eq_mul_inv, div_le_one hpos]
  refine mul_le_mul_of_nonneg_left ?_ href.le
  unfold basisPoints
  push_cast
  linarith

/-- **The two rates of a pair**, there and back, never exceed one. -/
theorem directional_mul_le_one {spread₁ spread₂ : ℤ} {calculation₁ calculation₂ client₁ client₂ : ℚ}
    (hthere : canonicalDirectionalRates base quote sourceCode targetCode reference spread₁ =
      .ok (calculation₁, client₁))
    (hback : canonicalDirectionalRates base quote targetCode sourceCode reference spread₂ =
      .ok (calculation₂, client₂)) :
    calculation₁ * calculation₂ ≤ 1 := by
  obtain ⟨⟨href, h₁, -, hne⟩, hdir₁⟩ := directional_cases hthere
  obtain ⟨⟨-, h₂, -, -⟩, hdir₂⟩ := directional_cases hback
  rcases hdir₁ with ⟨hsource, htarget, rfl⟩ | ⟨hsource, htarget, rfl⟩
  · rcases hdir₂ with ⟨hsource₂, -, -⟩ | ⟨-, -, rfl⟩
    · exact absurd (hsource₂.symm.trans htarget) hne
    · exact bid_div_ask_le_one href h₁ h₂
  · rcases hdir₂ with ⟨-, -, rfl⟩ | ⟨hsource₂, -, -⟩
    · rw [mul_comm]
      exact bid_div_ask_le_one href h₂ h₁
    · exact absurd (htarget.symm.trans hsource₂) hne

/-- **A round trip never profits.** An amount that is converted and converted back, at one
reference rate and any two spreads, between currencies of any minor units and in either direction
first, is at most what it was. -/
theorem fx_round_trip {base quote sourceCode targetCode : String} {reference : ℚ} {spread₁ spread₂ : ℤ}
    {sourceExp targetExp : ℤ} {a : ℤ} {b c : Money} {calculation₁ calculation₂ client₁ client₂ : ℚ}
    {r₁ r₂ : Remainder}
    (hthere : canonicalDirectionalRates base quote sourceCode targetCode reference spread₁ =
      .ok (calculation₁, client₁))
    (hb : convertWithMinorUnits ⟨sourceCode, a⟩ targetCode sourceExp targetExp calculation₁ 0 = .ok (b, r₁))
    (hback : canonicalDirectionalRates base quote targetCode sourceCode reference spread₂ =
      .ok (calculation₂, client₂))
    (hc : convertWithMinorUnits b sourceCode targetExp sourceExp calculation₂ 0 = .ok (c, r₂)) : c.minor ≤ a := by
  have hone : basisPoints (10000 - 0) = 1 := by norm_num [basisPoints]
  obtain ⟨hapos, -, hble, -⟩ := convertMinor_bounds (convertMinor_of_units hb)
  obtain ⟨-, hcalc₂, hcle, -⟩ := convertMinor_bounds (convertMinor_of_units hc)
  rw [hone, mul_one] at hble hcle
  have hrates := directional_mul_le_one hthere hback
  have hscale : (10 : ℚ) ^ (targetExp - sourceExp) * 10 ^ (sourceExp - targetExp) = 1 := by
    rw [← zpow_add₀ (by norm_num), sub_add_sub_cancel, sub_self, zpow_zero]
  have hapos' : (0 : ℚ) < a := by exact_mod_cast hapos
  have hle : (c.minor : ℚ) ≤ a := by
    calc (c.minor : ℚ) ≤ b.minor * calculation₂ * 10 ^ (sourceExp - targetExp) := hcle
      _ ≤ (a * calculation₁ * 10 ^ (targetExp - sourceExp)) * calculation₂ * 10 ^ (sourceExp - targetExp) := by
          gcongr
      _ = a * (calculation₁ * calculation₂)
        * ((10 : ℚ) ^ (targetExp - sourceExp) * 10 ^ (sourceExp - targetExp)) := by
          ring
      _ = a * (calculation₁ * calculation₂) := by rw [hscale, mul_one]
      _ ≤ a * 1 := by gcongr
      _ = a := mul_one _
  exact_mod_cast hle

/-- One dollar to rupiah and back, at 15000 with a spread of one percent each way. -/
theorem fx_round_trip_dollar :
    convertWithMinorUnits ⟨"USD", 100⟩ "IDR" 2 0 14850 0 = .ok (⟨"IDR", 14850⟩, ⟨0, 100⟩) ∧
      convertWithMinorUnits ⟨"IDR", 14850⟩ "USD" 0 2 (1 / 15150) 0 = .ok (⟨"USD", 98⟩, ⟨300, 15150⟩) ∧
      (⟨"USD", 98⟩ : Money).minor ≤ 100 := by
  have hthere : canonicalDirectionalRates "USD" "IDR" "USD" "IDR" 15000 100 = .ok (14850, 14850) := by
    decide +kernel
  have hb : convertWithMinorUnits ⟨"USD", 100⟩ "IDR" 2 0 14850 0 = .ok (⟨"IDR", 14850⟩, ⟨0, 100⟩) := by
    decide +kernel
  have hback : canonicalDirectionalRates "USD" "IDR" "IDR" "USD" 15000 100 = .ok (1 / 15150, 15150) := by
    decide +kernel
  have hc : convertWithMinorUnits ⟨"IDR", 14850⟩ "USD" 0 2 (1 / 15150) 0 = .ok (⟨"USD", 98⟩, ⟨300, 15150⟩) := by
    decide +kernel
  exact ⟨hb, hc, fx_round_trip hthere hb hback hc⟩

end Seev.Ledger.Rates
