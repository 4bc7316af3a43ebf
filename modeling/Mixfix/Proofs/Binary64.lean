import Mathlib
import Mixfix.Binary64

/-!
# Doubles and ratios

A finite double is made of its form (`eq_of_form_finite`), and a ratio is rounded to the double to which it is near
(`nearest_of_near`). So a decimal notation is read as every double to which it is near (`ofDecimal_of_near`).

The sides of a comparison are natural numbers in the code and rationals here. `IsRatio` is the way from one to the
other.
-/

set_option autoImplicit false

namespace Mixfix.Binary64

open Float.Model (Format UnpackedFloat)

/-! ## Bits -/

/-- Bits of a number or of an infinity are kept by the double that is made of them. -/
theorem toBits_ofBits {b : UInt64} (h : b.toNat / 2 ^ 52 % 2 ^ 11 ≠ 2047 ∨ b.toNat % 2 ^ 52 = 0) :
    (Float.ofBits b).toBits = b := by
  have hbits : @UnpackedFloat.isNaNBits Format.binary64 b.toBitVec = false := by
    rw [UnpackedFloat.isNaNBits, decide_eq_false_iff_not, UnpackedFloat.unpackExponent_def,
      UnpackedFloat.unpackMantissa_def, ← BitVec.toNat_inj, ← BitVec.toNat_inj.ne]
    simp [Nat.shiftRight_eq_div_pow]
    intro hexp
    rcases h with h | h
    · exact absurd hexp h
    · exact h
  apply UInt64.toBitVec_inj.mp
  have hpack := @UnpackedFloat.pack_unpack Format.binary64 b.toBitVec (by decide)
  rwa [hbits] at hpack

theorem toNat_toBits_ofSignBits (negative : Bool) {bits : Nat} (h : bits ≤ infinityBits) :
    (ofSignBits negative bits).toBits.toNat = if negative then bits + 2 ^ 63 else bits := by
  unfold infinityBits at h
  have hnat : (UInt64.ofNat (if negative then bits + Nat.pow 2 63 else bits)).toNat =
      if negative then bits + 2 ^ 63 else bits := by
    rw [UInt64.toNat_ofNat']
    apply Nat.mod_eq_of_lt
    cases negative <;> simp <;> omega
  rw [ofSignBits, toBits_ofBits, hnat]
  rw [hnat]
  cases negative <;> simp <;> omega

/-- The mantissa and the exponent of a finite double. Only at the least exponent is the mantissa short of a digit. -/
structure IsForm (mantissa : Nat) (exponent : Int) : Prop where
  lt : mantissa < 2 ^ 53
  least : minExponent ≤ exponent
  normal : minExponent < exponent → 2 ^ 52 ≤ mantissa
  greatest : exponent ≤ 971

/-- The bits of a finite double, without its sign. -/
def bitsOf (mantissa : Nat) (exponent : Int) : Nat :=
  (exponent - minExponent).toNat * Nat.pow 2 52 + mantissa

variable {x : Float} {negative : Bool} {bits mantissa : Nat} {exponent : Int}

theorem IsForm.bitsOf_lt (h : IsForm mantissa exponent) : bitsOf mantissa exponent < infinityBits := by
  obtain ⟨hlt, hleast, -, hgreatest⟩ := h
  simp only [minExponent, bitsOf, infinityBits, Nat.pow_eq] at *
  omega

/-- A double is made of its sign and of its other bits. -/
theorem ofSignBits_toBits (x : Float) :
    ofSignBits (x.toBits.toNat / Nat.pow 2 63 == 1) (x.toBits.toNat % 2 ^ 63) = x := by
  have hbits : (if (x.toBits.toNat / Nat.pow 2 63 == 1) = true then x.toBits.toNat % 2 ^ 63 + Nat.pow 2 63
      else x.toBits.toNat % 2 ^ 63) = x.toBits.toNat := by
    have hlt := x.toBits.toNat_lt
    simp only [Nat.pow_eq, beq_iff_eq]
    split <;> omega
  rw [ofSignBits, hbits, UInt64.ofNat_toNat, Float.ofBits_toBits]

/-- A finite double is made of its form. -/
theorem eq_of_form_finite (h : form x = .finite negative mantissa exponent) :
    IsForm mantissa exponent ∧ x = ofSignBits negative (bitsOf mantissa exponent) := by
  have hx := ofSignBits_toBits x
  have hlt := x.toBits.toNat_lt
  unfold form at h
  generalize x.toBits.toNat = b at *
  simp only [Nat.pow_eq] at *
  split at h
  · split at h <;> cases h
  · split at h
    · cases h
      refine ⟨⟨by omega, Int.le_refl _, by omega, by decide⟩, ?_⟩
      rw [← hx]
      congr 1
      simp only [bitsOf, minExponent, Nat.pow_eq]
      omega
    · cases h
      refine ⟨⟨by omega, ?_, fun _ => by omega, by omega⟩, ?_⟩
      · simp only [minExponent]
        omega
      rw [← hx]
      congr 1
      simp only [bitsOf, minExponent, Nat.pow_eq]
      omega

theorem eq_of_form_infinite (h : form x = .infinite negative) : x = infinity negative := by
  have hx := ofSignBits_toBits x
  have hlt := x.toBits.toNat_lt
  unfold form at h
  generalize x.toBits.toNat = b at *
  simp only [Nat.pow_eq] at *
  split at h
  · split at h
    · cases h
      rw [← hx, infinity]
      congr 1
      unfold infinityBits
      omega
    · cases h
  · split at h <;> cases h

/-- What is made of a sign and of bits up to those of the infinity is a number or infinite. -/
theorem form_ofSignBits_ne_nan (h : bits ≤ infinityBits) : form (ofSignBits negative bits) ≠ .nan := by
  have hbits := toNat_toBits_ofSignBits negative h
  unfold infinityBits at h
  unfold form
  generalize (ofSignBits negative bits).toBits.toNat = b at *
  simp only [Nat.pow_eq] at *
  split
  · split
    · nofun
    · cases negative <;> simp at hbits <;> omega
  · split <;> nofun

/-- The bits of the double at the last place of a ratio. -/
theorem nearest_of_lastPlace {num den : Nat} {place : Int} (h : num ≠ 0) (hplace : lastPlace num den = place) :
    nearest num den =
      if bitsOf (roundHalfEven (num * (powTwo place).2) (den * (powTwo place).1)) place < infinityBits then
        some (bitsOf (roundHalfEven (num * (powTwo place).2) (den * (powTwo place).1)) place)
      else none := by
  unfold nearest
  rw [if_neg h, hplace]
  rfl

theorem nearest_lt {num den : Nat} (h : nearest num den = some bits) : bits < infinityBits := by
  by_cases hzero : num = 0
  · rw [nearest, if_pos hzero] at h
    cases h
    decide
  · rw [nearest_of_lastPlace hzero rfl] at h
    obtain ⟨hlt, h⟩ := Option.ite_none_right_eq_some.mp h
    rwa [← Option.some.inj h]

/-- What is read of a decimal notation is a number or infinite. -/
theorem form_ofDecimal_ne_nan (negative : Bool) (digits : Nat) (exponent : Int) :
    form (ofDecimal negative digits exponent) ≠ .nan := by
  unfold ofDecimal
  dsimp only
  split
  · exact form_ofSignBits_ne_nan (Nat.zero_le _)
  · split
    · exact form_ofSignBits_ne_nan (Nat.le_refl _)
    · unfold ofRatio
      cases hnear : nearest (digits * (powTen exponent).1) (powTen exponent).2 with
      | none => exact form_ofSignBits_ne_nan (Nat.le_refl _)
      | some bits => exact form_ofSignBits_ne_nan (Nat.le_of_lt (nearest_lt hnear))

/-! ## Ratios -/

/-- A ratio of positive numbers that is a given one. -/
structure IsRatio (pair : Nat × Nat) (q : ℚ) : Prop where
  num_pos : 0 < pair.1
  den_pos : 0 < pair.2
  eq : (pair.1 : ℚ) = q * pair.2

theorem isRatio_pow {b : Nat} (hb : 0 < b) (e : Int) :
    IsRatio (if 0 ≤ e then (Nat.pow b e.toNat, 1) else (1, Nat.pow b (-e).toNat)) ((b : ℚ) ^ e) := by
  have hpos : (0 : ℚ) < b := Nat.cast_pos.mpr hb
  split
  · rename_i hsign
    refine ⟨Nat.pow_pos hb, Nat.one_pos, ?_⟩
    obtain ⟨n, rfl⟩ := Int.eq_ofNat_of_zero_le hsign
    simp
  · rename_i hsign
    refine ⟨Nat.one_pos, Nat.pow_pos hb, ?_⟩
    obtain ⟨n, rfl⟩ := Int.exists_eq_neg_ofNat (Int.le_of_lt (Int.not_le.mp hsign))
    simp only [neg_neg, Int.toNat_natCast, zpow_neg, zpow_natCast, Nat.pow_eq, Nat.cast_pow, Nat.cast_one]
    rw [inv_mul_cancel₀ (pow_ne_zero n hpos.ne')]

theorem isRatio_powTwo (e : Int) : IsRatio (powTwo e) (2 ^ e) := isRatio_pow Nat.two_pos e

theorem isRatio_powTen (e : Int) : IsRatio (powTen e) (10 ^ e) := isRatio_pow (by decide : 0 < 10) e

/-- To scale both sides of a ratio. -/
theorem IsRatio.div {pair : Nat × Nat} {q : ℚ} (h : IsRatio pair q) (num den : Nat) :
    ((num * pair.2 : Nat) : ℚ) / (den * pair.1 : Nat) = num / den / q := by
  have hden : (pair.2 : ℚ) ≠ 0 := Nat.cast_ne_zero.mpr h.den_pos.ne'
  push_cast
  rw [h.eq, ← mul_assoc, mul_div_mul_right _ _ hden, div_div]

/-- To take so many of a ratio. -/
theorem IsRatio.smul {pair : Nat × Nat} {q : ℚ} (h : IsRatio pair q) (n : Nat) :
    ((n * pair.1 : Nat) : ℚ) / pair.2 = n * q := by
  have hden : (pair.2 : ℚ) ≠ 0 := Nat.cast_ne_zero.mpr h.den_pos.ne'
  rw [Nat.cast_mul, h.eq, ← mul_assoc, mul_div_cancel_right₀ _ hden]

theorem IsRatio.lt_iff {pair : Nat × Nat} {q : ℚ} (h : IsRatio pair q) (num : Nat) {den : Nat} (hden : 0 < den) :
    num * pair.2 < den * pair.1 ↔ (num : ℚ) / den < q := by
  have hpos : (0 : ℚ) < den := Nat.cast_pos.mpr hden
  have hpair : (0 : ℚ) < pair.2 := Nat.cast_pos.mpr h.den_pos
  rw [div_lt_iff₀ hpos, ← @Nat.cast_lt ℚ, Nat.cast_mul, Nat.cast_mul, h.eq, ← mul_assoc,
    mul_lt_mul_iff_left₀ hpair, mul_comm q]

/-- A ratio is within the powers that its sides are within. -/
theorem ratio_bounds {base num den a c : Nat} (hbase : 0 < base) (hden : 0 < den)
    (hnum : base ^ a ≤ num ∧ num < base ^ (a + 1)) (hden' : base ^ c ≤ den ∧ den < base ^ (c + 1)) :
    (base : ℚ) ^ ((a : Int) - c - 1) ≤ num / den ∧ (num : ℚ) / den < base ^ ((a : Int) - c + 1) := by
  have hne : (base : ℚ) ≠ 0 := Nat.cast_ne_zero.mpr hbase.ne'
  have hpos : (0 : ℚ) < den := Nat.cast_pos.mpr hden
  constructor
  · rw [le_div_iff₀ hpos]
    calc (base : ℚ) ^ ((a : Int) - c - 1) * den
        ≤ base ^ ((a : Int) - c - 1) * base ^ ((c : Int) + 1) := by
          gcongr
          exact_mod_cast hden'.2.le
      _ = base ^ (a : Int) := by
          rw [← zpow_add₀ hne]
          congr 1
          omega
      _ ≤ num := by exact_mod_cast hnum.1
  · rw [div_lt_iff₀ hpos]
    calc (num : ℚ) < base ^ ((a : Int) + 1) := by exact_mod_cast hnum.2
      _ = base ^ ((a : Int) - c + 1) * base ^ (c : Int) := by
          rw [← zpow_add₀ hne]
          congr 1
          omega
      _ ≤ base ^ ((a : Int) - c + 1) * den := by
          gcongr
          exact_mod_cast hden'.1

/-! ## Rounding -/

/-- A ratio rounds to an integer: this is the nearest, and it is even where another one is as near. -/
structure RoundsTo (q : ℚ) (k : Nat) : Prop where
  near : |q - k| ≤ 1 / 2
  even : |q - k| = 1 / 2 → k % 2 = 0

/-- What a division leaves, as a part of the divisor. -/
theorem exists_rest (num : Nat) {den : Nat} (hden : 0 < den) :
    ∃ r : ℚ, (num : ℚ) / den = (num / den : Nat) + r ∧ (0 ≤ r ∧ r < 1) ∧
      (2 * (num % den) < den ↔ r < 1 / 2) ∧ (den < 2 * (num % den) ↔ 1 / 2 < r) := by
  have hpos : (0 : ℚ) < den := Nat.cast_pos.mpr hden
  refine ⟨((num % den : Nat) : ℚ) / den, ?_, ⟨by positivity, ?_⟩, ?_, ?_⟩
  · rw [div_eq_iff hpos.ne', add_mul, div_mul_cancel₀ _ hpos.ne']
    exact_mod_cast (Nat.div_add_mod' num den).symm
  · rw [div_lt_one hpos]
    exact_mod_cast Nat.mod_lt num hden
  · rw [div_lt_div_iff₀ hpos (by norm_num), one_mul, mul_comm]
    exact_mod_cast Iff.rfl
  · rw [div_lt_div_iff₀ (by norm_num) hpos, one_mul, mul_comm _ (2 : ℚ)]
    exact_mod_cast Iff.rfl

theorem roundHalfEven_eq {num den k : Nat} (hden : 0 < den) (h : RoundsTo (num / den) k) :
    roundHalfEven num den = k := by
  obtain ⟨r, hsplit, ⟨hfrom, hto⟩, hlow, hhigh⟩ := exists_rest num hden
  obtain ⟨hnear, heven⟩ := h
  unfold roundHalfEven
  simp only [hlow, hhigh]
  rw [hsplit] at hnear heven
  generalize num / den = low at *
  obtain ⟨habove, hbelow⟩ := abs_le.mp hnear
  -- The nearest integer is one of the two around the ratio.
  have hleast : (low : ℚ) < k + 1 := by linarith
  have hmost : (k : ℚ) < low + 2 := by linarith
  have hleast' : low < k + 1 := by exact_mod_cast hleast
  have hmost' : k < low + 2 := by exact_mod_cast hmost
  obtain rfl | rfl : k = low ∨ k = low + 1 := by omega
  · have hhalf : r ≤ 1 / 2 := by linarith
    rw [if_neg (not_lt.mpr hhalf)]
    split
    · rfl
    · rw [if_pos (heven _)]
      rw [add_sub_cancel_left, abs_of_nonneg hfrom]
      linarith
  · push_cast at habove hbelow heven
    rw [if_neg (by linarith)]
    split
    · rfl
    · have hhalf : r = 1 / 2 := by linarith
      have hparity := heven (by rw [hhalf, abs_of_neg] <;> linarith)
      rw [if_neg]
      omega

/-! ## The last place -/

theorem two_pow_mul_zpow (n : Nat) (e : Int) : (2 : ℚ) ^ n * 2 ^ e = 2 ^ (n + e) := by
  rw [zpow_add₀ two_ne_zero, zpow_natCast]

/-- Where the power of two that is guessed for a ratio is too large, the one below it is not. -/
theorem lastPlace_eq {num den : Nat} {guess : Int} (h : (num.log2 : Int) - den.log2 - 52 = guess) :
    lastPlace num den =
      max (if num * (powTwo guess).2 < den * (powTwo guess).1 * Nat.pow 2 52 then guess - 1 else guess)
        minExponent := by
  unfold lastPlace
  rw [h]

theorem log2_bounds {n : Nat} (h : 0 < n) : 2 ^ n.log2 ≤ n ∧ n < 2 ^ (n.log2 + 1) :=
  ⟨Nat.log2_self_le h.ne', Nat.lt_log2_self⟩

/-- The last place of a ratio is 52 places after the first, unless it is the least. -/
theorem lastPlace_spec {num den : Nat} (hnum : 0 < num) (hden : 0 < den) :
    (num : ℚ) / den < 2 ^ (lastPlace num den + 53) ∧
      (minExponent < lastPlace num den → (2 : ℚ) ^ (lastPlace num den + 52) ≤ num / den) := by
  obtain ⟨hlow, hhigh⟩ := ratio_bounds Nat.two_pos hden (log2_bounds hnum) (log2_bounds hden)
  rw [Nat.cast_ofNat] at hlow hhigh
  obtain ⟨guess, hguess⟩ : ∃ guess, (num.log2 : Int) - den.log2 - 52 = guess := ⟨_, rfl⟩
  have hcond : num * (powTwo guess).2 < den * (powTwo guess).1 * Nat.pow 2 52 ↔
      (num : ℚ) / den < 2 ^ (guess + 52) := by
    have hpow : ((den * 2 ^ 52 : Nat) : ℚ) = den * 2 ^ 52 := by push_cast; rfl
    have h := (isRatio_powTwo guess).lt_iff num (show 0 < den * 2 ^ 52 by positivity)
    rw [Nat.mul_right_comm, Nat.pow_eq, h, hpow, ← div_div, div_lt_iff₀ (by positivity), zpow_add₀ two_ne_zero]
    norm_num
  rw [show (num.log2 : Int) - den.log2 - 1 = guess + 51 by omega] at hlow
  rw [show (num.log2 : Int) - den.log2 + 1 = guess + 53 by omega] at hhigh
  rw [lastPlace_eq hguess]
  simp only [hcond]
  split
  · rename_i hsmall
    constructor
    · refine hsmall.trans_le (zpow_le_zpow_right₀ one_le_two ?_)
      omega
    · intro hmin
      rw [max_eq_left (by omega)]
      exact hlow.trans_eq' (by congr 1; omega)
  · rename_i hlarge
    constructor
    · refine hhigh.trans_le (zpow_le_zpow_right₀ one_le_two ?_)
      omega
    · intro hmin
      rw [max_eq_left (by omega)]
      exact not_lt.mp hlarge

/-! ## Near doubles -/

/-- Half of a place, or a quarter of it below a power of two, where the places are half as wide. -/
def below (mantissa : Nat) (exponent : Int) : ℚ :=
  if mantissa = 2 ^ 52 ∧ minExponent < exponent then 1 / 4 else 1 / 2

/-- A ratio to which no double is nearer than `mantissa * 2 ^ exponent`. Where another one is as near the mantissa
is even. -/
structure Near (mantissa : Nat) (exponent : Int) (q : ℚ) : Prop where
  low : (mantissa - below mantissa exponent) * 2 ^ exponent ≤ q
  high : q ≤ (mantissa + 1 / 2) * 2 ^ exponent
  even : q = (mantissa - below mantissa exponent) * 2 ^ exponent ∨ q = (mantissa + 1 / 2) * 2 ^ exponent →
    mantissa % 2 = 0

variable {q : ℚ}

theorem below_bounds (mantissa : Nat) (exponent : Int) :
    0 ≤ below mantissa exponent ∧ below mantissa exponent ≤ 1 / 2 := by
  unfold below
  split <;> norm_num

theorem below_cases (h : IsForm mantissa exponent) :
    (mantissa = 2 ^ 52 ∧ minExponent < exponent ∧ below mantissa exponent = 1 / 4) ∨
      ((minExponent < exponent → 2 ^ 52 < mantissa) ∧ below mantissa exponent = 1 / 2) := by
  unfold below
  split
  · rename_i h
    exact .inl ⟨h.1, h.2, rfl⟩
  · rename_i hne
    refine .inr ⟨fun hleast => ?_, rfl⟩
    exact lt_of_le_of_ne (h.normal hleast) fun heq => hne ⟨heq.symm, hleast⟩

theorem minExponent_le_lastPlace (num den : Nat) : minExponent ≤ lastPlace num den := by
  rw [lastPlace_eq rfl]
  exact le_max_right _ _

/-- The last place of a ratio is not beyond that of the double to which it is near. -/
theorem Near.lastPlace_le {num den : Nat} (hform : IsForm mantissa exponent) (hnum : 0 < num) (hden : 0 < den)
    (h : Near mantissa exponent (num / den)) : lastPlace num den ≤ exponent := by
  by_contra hlt
  have hleast := hform.least
  have hunit : (0 : ℚ) < 2 ^ exponent := by positivity
  have hmantissa : (mantissa : ℚ) + 1 ≤ 2 ^ 53 := by exact_mod_cast hform.lt
  have hless : ((mantissa : ℚ) + 1 / 2) * 2 ^ exponent < 2 ^ 53 * 2 ^ exponent := by
    apply mul_lt_mul_of_pos_right _ hunit
    linarith
  have hplace : (2 : ℚ) ^ 53 * 2 ^ exponent ≤ 2 ^ (Binary64.lastPlace num den + 52) := by
    rw [two_pow_mul_zpow]
    exact zpow_le_zpow_right₀ one_le_two (by push_cast; omega)
  have hfirst := (lastPlace_spec hnum hden).2 (by omega)
  have hhigh := h.high
  linarith

/-- The last place of a ratio is that of the double to which it is near, or it is just below a power of two. -/
theorem Near.lastPlace {num den : Nat} (hform : IsForm mantissa exponent) (hnum : 0 < num) (hden : 0 < den)
    (h : Near mantissa exponent (num / den)) :
    lastPlace num den = exponent ∨
      (lastPlace num den = exponent - 1 ∧ minExponent < exponent ∧ mantissa = 2 ^ 52 ∧
        (num : ℚ) / den < 2 ^ 52 * 2 ^ exponent ∧ (2 ^ 52 - 1 / 4) * 2 ^ exponent ≤ (num : ℚ) / den) := by
  have hhigh := (lastPlace_spec hnum hden).1
  have hmin := minExponent_le_lastPlace num den
  have hle := h.lastPlace_le hform hnum hden
  generalize Binary64.lastPlace num den = place at *
  generalize (num : ℚ) / den = q at *
  have hunit : (0 : ℚ) < 2 ^ exponent := by positivity
  rcases hle.eq_or_lt with heq | hlt
  · exact .inl heq
  · right
    have hleast : minExponent < exponent := by omega
    have hplace : (2 : ℚ) ^ (place + 53) ≤ 2 ^ 52 * 2 ^ exponent := by
      rw [two_pow_mul_zpow]
      exact zpow_le_zpow_right₀ one_le_two (by push_cast; omega)
    have hless : q < 2 ^ 52 * 2 ^ exponent := hhigh.trans_le hplace
    have hfrom := h.low
    rcases below_cases hform with ⟨rfl, -, hbelow⟩ | ⟨hmantissa, hbelow⟩
    · rw [hbelow] at hfrom
      push_cast at hfrom
      refine ⟨?_, hleast, rfl, hless, hfrom⟩
      by_contra hne
      have hplace : (2 : ℚ) ^ (place + 53) ≤ 2 ^ 51 * 2 ^ exponent := by
        rw [two_pow_mul_zpow]
        exact zpow_le_zpow_right₀ one_le_two (by push_cast; omega)
      have hquarter : (2 : ℚ) ^ 51 * 2 ^ exponent < (2 ^ 52 - 1 / 4) * 2 ^ exponent := by
        apply mul_lt_mul_of_pos_right _ hunit
        norm_num
      linarith
    · have hsucc : (2 : ℚ) ^ 52 + 1 ≤ mantissa := by exact_mod_cast hmantissa hleast
      have hhalf : (2 : ℚ) ^ 52 * 2 ^ exponent < (mantissa - below mantissa exponent) * 2 ^ exponent := by
        apply mul_lt_mul_of_pos_right _ hunit
        rw [hbelow]
        linarith
      linarith

theorem Near.pos (hmantissa : 0 < mantissa) (h : Near mantissa exponent q) : 0 < q := by
  have hunit : (0 : ℚ) < 2 ^ exponent := by positivity
  have hone : (1 : ℚ) ≤ mantissa := by exact_mod_cast hmantissa
  have hbelow := (below_bounds mantissa exponent).2
  exact lt_of_lt_of_le (mul_pos (by linarith) hunit) h.low

/-- A ratio near to a double rounds to its mantissa, in its place. -/
theorem Near.roundsTo (h : Near mantissa exponent q) :
    RoundsTo (q / 2 ^ exponent) mantissa := by
  have hunit : (0 : ℚ) < 2 ^ exponent := by positivity
  have hlow : (mantissa : ℚ) - below mantissa exponent ≤ q / 2 ^ exponent := (le_div_iff₀ hunit).mpr h.low
  have hhigh : q / 2 ^ exponent ≤ mantissa + 1 / 2 := (div_le_iff₀ hunit).mpr h.high
  have hbelow := (below_bounds mantissa exponent).2
  constructor
  · rw [abs_le]
    constructor <;> linarith
  · intro htie
    apply h.even
    rcases abs_eq (by norm_num : (0 : ℚ) ≤ 1 / 2) |>.mp htie with habove | hunder
    · right
      rw [← div_eq_iff hunit.ne']
      linarith
    · left
      rw [← div_eq_iff hunit.ne']
      linarith

/-- **A ratio near to a double is rounded to it.** -/
theorem nearest_of_near {num den : Nat} (hform : IsForm mantissa exponent) (hmantissa : 0 < mantissa) (hden : 0 < den)
    (h : Near mantissa exponent (num / den)) : nearest num den = some (bitsOf mantissa exponent) := by
  have hpos := h.pos hmantissa
  have hnum : num ≠ 0 := by
    rintro rfl
    simp at hpos
  have hrounds : ∃ k, bitsOf k (Binary64.lastPlace num den) = bitsOf mantissa exponent ∧
      RoundsTo (num / den / 2 ^ Binary64.lastPlace num den) k := by
    rcases h.lastPlace hform (Nat.pos_of_ne_zero hnum) hden with hplace | ⟨hplace, hleast, rfl, hless, hfrom⟩
    · rw [hplace]
      exact ⟨mantissa, rfl, h.roundsTo⟩
    · -- One place below, the power of two has another digit.
      refine ⟨2 ^ 53, ?_, ?_⟩
      · rw [hplace]
        unfold bitsOf
        rw [Nat.pow_eq]
        omega
      · have hhalf : (2 : ℚ) ^ exponent = 2 * 2 ^ (exponent - 1) := by
          rw [← zpow_one_add₀ two_ne_zero]
          congr 1
          omega
        have hunit : (0 : ℚ) < 2 ^ (exponent - 1) := by positivity
        rw [hhalf, ← mul_assoc, ← div_lt_iff₀ hunit] at hless
        rw [hhalf, ← mul_assoc, ← le_div_iff₀ hunit] at hfrom
        rw [hplace]
        constructor
        · rw [abs_le]
          push_cast
          constructor <;> linarith
        · intro _
          decide
  obtain ⟨k, hbits, hrounds⟩ := hrounds
  have hpair := isRatio_powTwo (Binary64.lastPlace num den)
  rw [← hpair.div] at hrounds
  rw [nearest_of_lastPlace hnum rfl, roundHalfEven_eq (Nat.mul_pos hden hpair.num_pos) hrounds, hbits,
    if_pos hform.bitsOf_lt]

/-! ## Decimal notation -/

/-- A number has as many digits as powers of ten go up to it. -/
theorem exists_length_toDigits {n : Nat} (h : 0 < n) :
    ∃ k, (Nat.toDigits 10 n).length = k + 1 ∧ 10 ^ k ≤ n ∧ n < 10 ^ (k + 1) := by
  have hpos : 0 < (Nat.toDigits 10 n).length := List.length_pos_iff.mpr Nat.toDigits_ne_nil
  obtain ⟨k, hk⟩ := Nat.exists_eq_add_one_of_ne_zero hpos.ne'
  refine ⟨k, hk, ?_, (Nat.length_toDigits_le_iff (by decide) (Nat.succ_pos k)).mp hk.le⟩
  cases k with
  | zero => exact h
  | succ k =>
    by_contra hlt
    have hle := (Nat.length_toDigits_le_iff (by decide) (Nat.succ_pos k)).mpr (not_le.mp hlt)
    omega

/-- A double is within the powers of two that are its range. -/
theorem Near.bounds (hform : IsForm mantissa exponent) (hmantissa : 0 < mantissa) (h : Near mantissa exponent q) :
    (2 : ℚ) ^ (-1075 : Int) ≤ q ∧ q < 2 ^ (1024 : Int) := by
  have hunit : (0 : ℚ) < 2 ^ exponent := by positivity
  have hone : (1 : ℚ) ≤ mantissa := by exact_mod_cast hmantissa
  have hlt : (mantissa : ℚ) + 1 ≤ 2 ^ 53 := by exact_mod_cast hform.lt
  have hbelow := (below_bounds mantissa exponent).2
  constructor
  · calc (2 : ℚ) ^ (-1075 : Int) = 1 / 2 * 2 ^ minExponent := by
          rw [one_div, ← zpow_neg_one, ← zpow_add₀ two_ne_zero]
          rfl
      _ ≤ (mantissa - below mantissa exponent) * 2 ^ exponent := by
          have hleast := zpow_le_zpow_right₀ (one_le_two : (1 : ℚ) ≤ 2) hform.least
          exact mul_le_mul (by linarith) hleast (by positivity) (by linarith)
      _ ≤ q := h.low
  · calc q ≤ (mantissa + 1 / 2) * 2 ^ exponent := h.high
      _ < 2 ^ 53 * 2 ^ exponent := mul_lt_mul_of_pos_right (by linarith) hunit
      _ ≤ 2 ^ 53 * 2 ^ (971 : Int) := by
          gcongr ?_ * ?_
          exact zpow_le_zpow_right₀ one_le_two hform.greatest
      _ = 2 ^ (1024 : Int) := two_pow_mul_zpow 53 971

/-- The range of doubles is within that of decimal notation. -/
theorem two_pow_lt_ten_pow : (2 : ℚ) ^ (1075 : Int) < 10 ^ (400 : Int) := by
  have hroot : ((2 : ℚ) ^ 43) ^ 25 < (10 ^ 16) ^ 25 := by
    apply pow_lt_pow_left₀ _ (by positivity) (by decide)
    norm_num
  rwa [← pow_mul, ← pow_mul, ← zpow_natCast, ← zpow_natCast] at hroot

/-- A decimal number is within the powers of ten that its number of digits tells. -/
theorem decimal_bounds {digits : Nat} (h : digits ≠ 0) {power size : Int}
    (hsize : power + (Nat.toDigits 10 digits).length = size) :
    (10 : ℚ) ^ (size - 1) ≤ digits * 10 ^ power ∧ (digits : ℚ) * 10 ^ power < 10 ^ size := by
  obtain ⟨k, hk, hfrom, hto⟩ := exists_length_toDigits (Nat.pos_of_ne_zero h)
  have hunit : (0 : ℚ) < 10 ^ power := by positivity
  have hten : (10 : ℚ) ≠ 0 := by norm_num
  obtain rfl : size = ((k + 1 : Nat) : Int) + power := by omega
  constructor
  · calc (10 : ℚ) ^ (((k + 1 : Nat) : Int) + power - 1) = 10 ^ k * 10 ^ power := by
          rw [← zpow_natCast, ← zpow_add₀ hten]
          congr 1
          omega
      _ ≤ digits * 10 ^ power := by
          gcongr
          exact_mod_cast hfrom
  · rw [zpow_add₀ hten, zpow_natCast]
    apply mul_lt_mul_of_pos_right _ hunit
    exact_mod_cast hto

/-- A decimal number that is near to a double is not beyond the range of decimal notation. -/
theorem Near.size {digits : Nat} {power : Int} (hform : IsForm mantissa exponent) (hmantissa : 0 < mantissa)
    (h : Near mantissa exponent (digits * 10 ^ power)) (hdigits : digits ≠ 0) :
    -decimalRange ≤ power + (Nat.toDigits 10 digits).length ∧
      power + (Nat.toDigits 10 digits).length ≤ decimalRange := by
  obtain ⟨hleast, hgreatest⟩ := h.bounds hform hmantissa
  obtain ⟨size, hsize⟩ : ∃ size, power + ((Nat.toDigits 10 digits).length : Int) = size := ⟨_, rfl⟩
  obtain ⟨hfrom, hto⟩ := decimal_bounds hdigits hsize
  have hten : (1 : ℚ) ≤ 10 := by norm_num
  rw [hsize]
  unfold decimalRange
  constructor
  · by_contra hsmall
    have hpower : (10 : ℚ) ^ size ≤ 10 ^ (-400 : Int) := zpow_le_zpow_right₀ hten (by omega)
    have hrange : (10 : ℚ) ^ (-400 : Int) < 2 ^ (-1075 : Int) := by
      rw [zpow_neg, zpow_neg]
      exact inv_strictAnti₀ (by positivity) two_pow_lt_ten_pow
    linarith
  · by_contra hlarge
    have hpower : (10 : ℚ) ^ (400 : Int) ≤ 10 ^ (size - 1) := zpow_le_zpow_right₀ hten (by omega)
    have hrange : (2 : ℚ) ^ (1024 : Int) ≤ 2 ^ (1075 : Int) := zpow_le_zpow_right₀ one_le_two (by decide)
    exact absurd (hpower.trans (hfrom.trans hgreatest.le)) (not_le.mpr (hrange.trans_lt two_pow_lt_ten_pow))

/-- **A decimal notation that is near to a double is read as it.** -/
theorem ofDecimal_of_near {digits : Nat} {power : Int} (hform : IsForm mantissa exponent) (hmantissa : 0 < mantissa)
    (h : Near mantissa exponent (digits * 10 ^ power)) (negative : Bool) :
    ofDecimal negative digits power = ofSignBits negative (bitsOf mantissa exponent) := by
  have hpos := h.pos hmantissa
  have hdigits : digits ≠ 0 := by
    rintro rfl
    simp at hpos
  obtain ⟨hsmall, hlarge⟩ := h.size hform hmantissa hdigits
  have hpair := isRatio_powTen power
  have hnear : nearest (digits * (powTen power).1) (powTen power).2 = some (bitsOf mantissa exponent) := by
    apply nearest_of_near hform hmantissa hpair.den_pos
    rwa [hpair.smul]
  have hrange : (decide (digits = 0) || decide (power + (Nat.toDigits 10 digits).length < -decimalRange)) = false := by
    rw [Bool.or_eq_false_iff]
    exact ⟨decide_eq_false hdigits, decide_eq_false (not_lt.mpr hsmall)⟩
  unfold ofDecimal
  dsimp only
  rw [hrange, if_neg Bool.false_ne_true, if_neg (not_lt.mpr hlarge), ofRatio, hnear]
  rfl

end Mixfix.Binary64
