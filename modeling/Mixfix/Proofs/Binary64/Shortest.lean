import Mixfix.Binary64.Shortest
import Mixfix.Proofs.Binary64
import Mixfix.Proofs.Decimal

/-!
# The shortest decimal notation

The decimal number that is written for a double is near to it (`shortest_near`), so it is read back. It is found
because seventeen digits are always enough: their grid is finer than the interval of the double
(`Interval.Surrounds.exists_onGrid?`).
-/

set_option autoImplicit false

namespace Mixfix.Binary64

variable {mantissa num den : Nat} {exponent place : Int} {i : Interval} {d : DecimalNumber}

/-- The number that a decimal number is. -/
def DecimalNumber.value (d : DecimalNumber) : ℚ :=
  d.coefficient * 10 ^ d.exponent

/-! ## The interval of a double -/

/-- The ends of an interval are those of the ratios near to a double. -/
structure Interval.Surrounds (i : Interval) (mantissa : Nat) (exponent : Int) : Prop where
  den_pos : 0 < i.den
  low : (i.low : ℚ) / i.den = (mantissa - below mantissa exponent) * 2 ^ exponent
  value : (i.value : ℚ) / i.den = mantissa * 2 ^ exponent
  high : (i.high : ℚ) / i.den = (mantissa + 1 / 2) * 2 ^ exponent
  closed : i.closed = true ↔ mantissa % 2 = 0

theorem surrounds_interval (h : 0 < mantissa) (exponent : Int) :
    (interval mantissa exponent).Surrounds mantissa exponent := by
  have hpair := isRatio_powTwo (exponent - 2)
  have hquarter : (2 : ℚ) ^ (exponent - 2) = 2 ^ exponent / 4 := by
    rw [zpow_sub₀ two_ne_zero]
    norm_num
  -- A side of the interval counts quarters of a place.
  have hside : ∀ n : Nat,
      ((n * (powTwo (exponent - 2)).1 : Nat) : ℚ) / (powTwo (exponent - 2)).2 = n / 4 * 2 ^ exponent := by
    intro n
    rw [hpair.smul, hquarter]
    ring
  refine ⟨hpair.den_pos, ?_, ?_, ?_, decide_eq_true_iff⟩
  · refine (hside _).trans ?_
    simp only [below, Nat.pow_eq, Bool.and_eq_true, decide_eq_true_eq]
    split
    · rw [Nat.cast_sub (by omega)]
      push_cast
      ring
    · rw [Nat.cast_sub (by omega)]
      push_cast
      ring
  · refine (hside _).trans ?_
    push_cast
    ring
  · refine (hside _).trans ?_
    push_cast
    ring

variable {q : ℚ}

/-- A ratio in the interval of a double is near to it. -/
theorem Interval.Surrounds.near (h : i.Surrounds mantissa exponent) (hden : 0 < den) (hq : (num : ℚ) / den = q)
    (hholds : i.holds num den = true) : Near mantissa exponent q := by
  subst hq
  have hpos : (0 : ℚ) < den := Nat.cast_pos.mpr hden
  have hipos : (0 : ℚ) < i.den := Nat.cast_pos.mpr h.den_pos
  unfold Interval.holds at hholds
  split at hholds
  · rename_i hclosed
    simp only [Bool.and_eq_true, decide_eq_true_eq] at hholds
    refine ⟨?_, ?_, fun _ => h.closed.mp hclosed⟩
    · rw [← h.low, div_le_div_iff₀ hipos hpos]
      exact_mod_cast hholds.1
    · rw [← h.high, div_le_div_iff₀ hpos hipos]
      exact_mod_cast hholds.2
  · simp only [Bool.and_eq_true, decide_eq_true_eq] at hholds
    have hlow : (mantissa - below mantissa exponent) * 2 ^ exponent < (num : ℚ) / den := by
      rw [← h.low, div_lt_div_iff₀ hipos hpos]
      exact_mod_cast hholds.1
    have hhigh : (num : ℚ) / den < (mantissa + 1 / 2) * 2 ^ exponent := by
      rw [← h.high, div_lt_div_iff₀ hpos hipos]
      exact_mod_cast hholds.2
    refine ⟨hlow.le, hhigh.le, ?_⟩
    rintro (heq | heq)
    · exact absurd heq hlow.ne'
    · exact absurd heq hhigh.ne

/-- A ratio that is not in the interval of a double is not between its ends. -/
theorem Interval.Surrounds.outside (h : i.Surrounds mantissa exponent) (hden : 0 < den) (hq : (num : ℚ) / den = q)
    (hholds : i.holds num den = false) :
    q ≤ (mantissa - below mantissa exponent) * 2 ^ exponent ∨ (mantissa + 1 / 2) * 2 ^ exponent ≤ q := by
  subst hq
  have hpos : (0 : ℚ) < den := Nat.cast_pos.mpr hden
  have hipos : (0 : ℚ) < i.den := Nat.cast_pos.mpr h.den_pos
  rw [← h.low, ← h.high, div_le_div_iff₀ hpos hipos, div_le_div_iff₀ hipos hpos]
  by_contra hinside
  rw [not_or, not_le, not_le] at hinside
  have hfrom : i.low * den < num * i.den := by exact_mod_cast hinside.1
  have hto : num * i.den < i.high * den := by exact_mod_cast hinside.2
  unfold Interval.holds at hholds
  split at hholds
  · simp [hfrom.le, hto.le] at hholds
  · simp [hfrom, hto] at hholds

/-! ## Grids -/

/-- What is found on a grid is in the interval. -/
theorem Interval.holds_of_onGrid? (h : i.onGrid? place = some d) :
    i.holds (d.coefficient * (powTen place).1) (powTen place).2 = true ∧ d.exponent = place := by
  unfold Interval.onGrid? at h
  generalize powTen place = pair at *
  obtain ⟨up, down⟩ := pair
  dsimp only at h
  generalize i.value * down / (i.den * up) = k at h
  cases hlow : i.holds (k * up) down <;> cases hhigh : i.holds ((k + 1) * up) down <;>
    simp only [hlow, hhigh] at h <;> cases h
  · exact ⟨hhigh, rfl⟩
  · exact ⟨hlow, rfl⟩
  · refine ⟨?_, rfl⟩
    dsimp only
    split_ifs <;> assumption

/-- The numbers of a grid that are next to a ratio. -/
theorem grid_bounds {pair : Nat × Nat} {step v : ℚ} (hpair : IsRatio pair step) (hstep : 0 < step)
    (hv : (num : ℚ) / den = v) {k : Nat} (hk : num * pair.2 / (den * pair.1) = k) :
    k * step ≤ v ∧ v < ((k + 1 : Nat) : ℚ) * step := by
  have hfloor : ⌊v / step⌋₊ = k := by
    rw [← hk, ← hv, ← hpair.div, Nat.floor_div_eq_div]
  have hpos : 0 ≤ v / step := div_nonneg (hv ▸ by positivity) hstep.le
  constructor
  · rw [← le_div_iff₀ hstep, ← hfloor]
    exact Nat.floor_le hpos
  · rw [← div_lt_iff₀ hstep, ← hfloor]
    exact_mod_cast Nat.lt_floor_add_one _

/-- The interval of a double is wider than one part in `10 ^ 16` of the double. -/
theorem lt_width (hform : IsForm mantissa exponent) {step : ℚ} (hfine : step * 10 ^ 16 ≤ mantissa * 2 ^ exponent) :
    step < (below mantissa exponent + 1 / 2) * 2 ^ exponent := by
  have hunit : (0 : ℚ) < 2 ^ exponent := by positivity
  have hmantissa : (mantissa : ℚ) < (below mantissa exponent + 1 / 2) * 10 ^ 16 := by
    rcases below_cases hform with ⟨rfl, -, hquarter⟩ | ⟨-, hhalf⟩
    · rw [hquarter]
      norm_num
    · have hlt : (mantissa : ℚ) < 2 ^ 53 := by exact_mod_cast hform.lt
      rw [hhalf]
      linarith
  have hless := mul_lt_mul_of_pos_right hmantissa hunit
  linarith

/-- A grid that is finer than the interval has a number in it. -/
theorem Interval.Surrounds.exists_onGrid? (h : i.Surrounds mantissa exponent) (hform : IsForm mantissa exponent)
    (hfine : (10 : ℚ) ^ place * 10 ^ 16 ≤ mantissa * 2 ^ exponent) : ∃ d, i.onGrid? place = some d := by
  have hpair := isRatio_powTen place
  have hunit : (0 : ℚ) < 2 ^ exponent := by positivity
  have hstep : (0 : ℚ) < 10 ^ place := by positivity
  unfold Interval.onGrid?
  generalize powTen place = pair at *
  obtain ⟨k, hk⟩ : ∃ k, i.value * pair.2 / (i.den * pair.1) = k := ⟨_, rfl⟩
  obtain ⟨hfrom, hto⟩ := grid_bounds hpair hstep h.value hk
  obtain ⟨up, down⟩ := pair
  dsimp only at *
  rw [hk]
  cases hunder : i.holds (k * up) down with
  | true => cases i.holds ((k + 1) * up) down <;> exact ⟨_, rfl⟩
  | false =>
    cases hover : i.holds ((k + 1) * up) down with
    | true => exact ⟨_, rfl⟩
    | false =>
      exfalso
      -- The step from one neighbour to the other would be as wide as the interval.
      have hbelow : (k : ℚ) * 10 ^ place ≤ (mantissa - below mantissa exponent) * 2 ^ exponent := by
        refine (h.outside hpair.den_pos (hpair.smul k) hunder).resolve_right ?_
        linarith
      have habove : (mantissa + 1 / 2) * 2 ^ exponent ≤ ((k + 1 : Nat) : ℚ) * 10 ^ place := by
        refine (h.outside hpair.den_pos (hpair.smul (k + 1)) hover).resolve_left ?_
        have hlow := mul_nonneg (below_bounds mantissa exponent).1 hunit.le
        linarith
      have hwidth := lt_width hform hfine
      push_cast at habove
      linarith

/-! ## The first digit -/

theorem decimalExponent_eq {guess : Int}
    (h : ((Nat.toDigits 10 num).length : Int) - (Nat.toDigits 10 den).length = guess) :
    decimalExponent num den =
      if den * (powTen guess).1 ≤ num * (powTen guess).2 then guess else guess - 1 := by
  unfold decimalExponent
  rw [h]

/-- The power of ten of the first digit is not beyond the number. -/
theorem decimalExponent_spec (hnum : 0 < num) (hden : 0 < den) :
    (10 : ℚ) ^ decimalExponent num den ≤ num / den := by
  obtain ⟨guess, hguess⟩ :
    ∃ guess, ((Nat.toDigits 10 num).length : Int) - (Nat.toDigits 10 den).length = guess := ⟨_, rfl⟩
  rw [decimalExponent_eq hguess]
  split
  · rename_i hle
    rw [← not_lt] at hle ⊢
    exact fun hlt => hle (((isRatio_powTen guess).lt_iff num hden).mpr hlt)
  · obtain ⟨a, ha, hnum'⟩ := exists_length_toDigits hnum
    obtain ⟨c, hc, hden'⟩ := exists_length_toDigits hden
    have hbounds := (ratio_bounds (by decide) hden hnum' hden').1
    rw [Nat.cast_ofNat] at hbounds
    refine hbounds.trans_eq' ?_
    congr 1
    omega

/-! ## The shortest -/

/-- **The shortest notation of a double is near to it.** -/
theorem shortest_near (hform : IsForm mantissa exponent) (hmantissa : 0 < mantissa) :
    Near mantissa exponent (shortest mantissa exponent).value := by
  have hsurrounds := surrounds_interval hmantissa exponent
  unfold shortest
  dsimp only
  generalize interval mantissa exponent = i at *
  have hvalue : 0 < i.value := by
    apply Nat.pos_of_ne_zero
    intro hzero
    have hratio := hsurrounds.value
    rw [hzero, Nat.cast_zero, zero_div] at hratio
    exact absurd hratio (by positivity)
  have hfirst := decimalExponent_spec hvalue hsurrounds.den_pos
  generalize decimalExponent i.value i.den = first at *
  -- The last of the grids that are tried is fine enough.
  have hlast : ∃ d, i.onGrid? (first - (16 : Nat)) = some d := by
    apply hsurrounds.exists_onGrid? hform
    rw [← hsurrounds.value, ← zpow_natCast, ← zpow_add₀ (by norm_num)]
    exact hfirst.trans_eq' (by congr 1; omega)
  have hsome : ((List.range 17).findSome? fun k : Nat => i.onGrid? (first - k)).isSome = true := by
    apply List.findSome?_isSome_iff.mpr
    obtain ⟨d, hd⟩ := hlast
    exact ⟨16, by decide, Option.isSome_of_eq_some hd⟩
  obtain ⟨d, hd⟩ := Option.isSome_iff_exists.mp hsome
  rw [hd, Option.getD_some]
  obtain ⟨k, -, hgrid⟩ := List.exists_of_findSome?_eq_some hd
  obtain ⟨hholds, hplace⟩ := Interval.holds_of_onGrid? hgrid
  have hpair := isRatio_powTen (first - k)
  apply hsurrounds.near hpair.den_pos _ hholds
  rw [hpair.smul, DecimalNumber.value, hplace]

/-- The digits of a decimal number and the place of the first of them are the number. -/
theorem DecimalNumber.exists_scientific {d : DecimalNumber} (h : 0 < d.coefficient) :
    ∃ s first, d.scientific = (s, first) ∧ Decimal.Leading s ∧
      d.value = Decimal.toNat s * 10 ^ (first - s.length + 1) := by
  obtain ⟨s, n, hs, hdigits, hleading⟩ := Decimal.exists_zeros (Decimal.leading_ofNat h)
  refine ⟨s, _, congrArg (·, _) hs, hleading, ?_⟩
  have hcoefficient : d.coefficient = Decimal.toNat s * 10 ^ n := by
    rw [← Decimal.toNat_ofNat d.coefficient, hdigits, Decimal.toNat_append, Decimal.toNat_zeros, List.length_replicate,
      Nat.add_zero]
  rw [value, hdigits, hcoefficient, List.length_append, List.length_replicate, Nat.cast_mul, Nat.cast_pow, mul_assoc,
    ← zpow_natCast, Nat.cast_ofNat, ← zpow_add₀ (by norm_num)]
  congr 2
  omega

end Mixfix.Binary64
