import Mixfix.Proofs.Binary64
import Mixfix.Value.Compare

/-!
# The order of doubles and of integers

Finite doubles have the order of their bits, with the sign before these (`HasRank.compare_eq`), and rounding keeps
the order of what is rounded (`nearest_mono`). So the doubles nearest to two integers are in the order of these, or
they are one double (**`compareReals_ofInt`**). Integers of up to 53 binary digits share their double with no other
integer (`eq_of_ofInt_eq`).
-/

set_option autoImplicit false

namespace Mixfix.Binary64

open Float.Model (Format UnpackedFloat)
open Float.Model.UnpackedFloat (Sign)

variable {mantissa bits bits' : Nat} {exponent : Int} {negative negative' : Bool} {x y : Float}

/-! ## The parts of doubles -/

/-- The sign of a double. -/
def signOf (negative : Bool) : Sign :=
  if negative then .negative else .positive

theorem unpackSign_eq {w : UInt64} (h : bits < infinityBits)
    (hw : w.toNat = if negative then bits + 2 ^ 63 else bits) :
    Sign.ofBitVec (@UnpackedFloat.unpackSign Format.binary64 w.toBitVec) = signOf negative := by
  have hsign : (@UnpackedFloat.unpackSign Format.binary64 w.toBitVec).toNat = if negative then 1 else 0 := by
    unfold infinityBits at h
    simp [UnpackedFloat.unpackSign, Nat.shiftRight_eq_div_pow]
    cases negative <;> simp at hw ⊢ <;> omega
  simp only [Sign.ofBitVec, ← BitVec.toNat_inj, hsign]
  cases negative <;> rfl

theorem unpack_eq_zero (hx : x.toBits.toNat = if negative then 2 ^ 63 else 0) :
    x.toModel.unpack = .zero (signOf negative) := by
  have hzero : x = zero negative := by
    rw [← Float.ofBits_toBits x, zero, ofSignBits]
    congr 1
    apply UInt64.toNat_inj.mp
    rw [hx]
    cases negative <;> decide
  rw [hzero]
  cases negative <;> rfl

/-- A double with the bits of a form has its parts. -/
theorem unpack_eq_finite (h : IsForm mantissa exponent) (hpos : 0 < mantissa)
    (hx : x.toBits.toNat = if negative then bitsOf mantissa exponent + 2 ^ 63 else bitsOf mantissa exponent) :
    x.toModel.unpack = .finite (signOf negative) mantissa exponent hpos := by
  have hlt := h.bitsOf_lt
  have hsign := unpackSign_eq hlt hx
  obtain ⟨hmantissa, hleast, hnormal, hgreatest⟩ := h
  unfold infinityBits at hlt
  have hbits : x.toModel.toBits = x.toBits := rfl
  unfold Float.Model.unpack
  rw [hbits]
  generalize x.toBits = w at *
  have hexponent : (@UnpackedFloat.unpackExponent Format.binary64 w.toBitVec).toNat =
      bitsOf mantissa exponent / 2 ^ 52 := by
    rw [UnpackedFloat.unpackExponent_def]
    simp [Nat.shiftRight_eq_div_pow]
    cases negative <;> simp at hx <;> omega
  have hfraction : (@UnpackedFloat.unpackMantissa Format.binary64 w.toBitVec).toNat =
      bitsOf mantissa exponent % 2 ^ 52 := by
    rw [UnpackedFloat.unpackMantissa_def]
    simp [Nat.shiftRight_eq_div_pow]
    cases negative <;> simp at hx <;> omega
  unfold bitsOf minExponent at *
  rw [Nat.pow_eq] at *
  have hfinite : ¬@UnpackedFloat.unpackExponent Format.binary64 w.toBitVec = -1#_ := by
    rw [← BitVec.toNat_inj, hexponent]
    simp
    omega
  have hleading : @UnpackedFloat.unpackExponent Format.binary64 w.toBitVec = 0#_ ↔ mantissa < 2 ^ 52 := by
    rw [← BitVec.toNat_inj, hexponent]
    simp
    omega
  have hbias : (Format.binary64.exponentBias : Int) = 1023 := rfl
  unfold UnpackedFloat.unpack
  dsimp only
  rw [hsign, if_neg hfinite, hexponent]
  -- Without its leading digit the mantissa is the fraction itself.
  by_cases hshort : mantissa < 2 ^ 52
  · rw [if_pos (hleading.mpr hshort), dif_neg]
    · congr 1
      · omega
      · rw [hbias]
        omega
    · rw [← BitVec.toNat_inj, hfraction]
      simp
      omega
  · rw [if_neg (hleading.not.mpr hshort)]
    congr 1
    · rw [BitVec.toNat_append, ← Nat.shiftLeft_add_eq_or_of_lt (BitVec.isLt _), hfraction]
      simp [Nat.shiftLeft_eq]
      omega
    · rw [hbias]
      omega

/-! ## Ranks -/

theorem bitsOf_pos (exponent : Int) (h : 0 < mantissa) : (0 : Int) < bitsOf mantissa exponent := by
  unfold bitsOf
  omega

/-- Signs turn the order around. -/
theorem compare_neg (a b : Int) : compare (-a) (-b) = (compare a b).swap := by
  rcases lt_trichotomy a b with hlt | rfl | hgt
  · rw [compare_lt_iff_lt.mpr hlt, Ordering.swap, compare_gt_iff_gt]
    exact Int.neg_lt_neg hlt
  · rw [compare_eq_iff_eq.mpr rfl, compare_eq_iff_eq.mpr rfl, Ordering.swap]
  · rw [compare_gt_iff_gt.mpr hgt, Ordering.swap, compare_lt_iff_lt]
    exact Int.neg_lt_neg hgt

/-- Forms have the order of their bits. -/
theorem compare_bitsOf {m m' : Nat} {e e' : Int} (h : IsForm m e) (h' : IsForm m' e') :
    (compare e e').then (compare m m') = compare (bitsOf m e : Int) (bitsOf m' e') := by
  obtain ⟨hm, hleast, hnormal, -⟩ := h
  obtain ⟨hm', hleast', hnormal', -⟩ := h'
  unfold bitsOf minExponent at *
  rw [Nat.pow_eq] at *
  rcases lt_trichotomy e e' with hlt | rfl | hgt
  · rw [compare_lt_iff_lt.mpr hlt, Ordering.lt_then, eq_comm, compare_lt_iff_lt]
    omega
  · rw [compare_eq_iff_eq.mpr rfl, Ordering.eq_then]
    rcases lt_trichotomy m m' with hlt | rfl | hgt
    · rw [compare_lt_iff_lt.mpr hlt, eq_comm, compare_lt_iff_lt]
      omega
    · rw [compare_eq_iff_eq.mpr rfl, compare_eq_iff_eq.mpr rfl]
    · rw [compare_gt_iff_gt.mpr hgt, eq_comm, compare_gt_iff_gt]
      omega
  · rw [compare_gt_iff_gt.mpr hgt, Ordering.gt_then, eq_comm, compare_gt_iff_gt]
    omega

/-- Bits of finite doubles are zero, or those of a form. -/
theorem bits_cases (h : bits < infinityBits) :
    bits = 0 ∨ ∃ mantissa exponent, IsForm mantissa exponent ∧ 0 < mantissa ∧ bits = bitsOf mantissa exponent := by
  unfold infinityBits at h
  simp only [bitsOf, minExponent, Nat.pow_eq]
  by_cases hshort : bits < 2 ^ 52
  · rcases Nat.eq_zero_or_pos bits with hzero | hpos
    · exact .inl hzero
    · exact .inr ⟨bits, minExponent, ⟨by omega, Int.le_refl _, by omega, by decide⟩, hpos, by simp [minExponent]⟩
  · refine .inr ⟨bits % 2 ^ 52 + 2 ^ 52, bits / 2 ^ 52 - 1075, ⟨?_, ?_, ?_, ?_⟩, ?_, ?_⟩
    all_goals try simp only [minExponent]
    all_goals omega

/-- The place of a finite double in their order. -/
def rank (negative : Bool) (bits : Nat) : Int :=
  if negative then -bits else bits

/-- The rank of a double that is zero or finite, by its parts. -/
inductive HasRank : UnpackedFloat → Int → Prop
  | zero (sign : Sign) : HasRank (.zero sign) 0
  | positive {m : Nat} {e : Int} (h : IsForm m e) (hpos : 0 < m) : HasRank (.finite .positive m e hpos) (bitsOf m e)
  | negative {m : Nat} {e : Int} (h : IsForm m e) (hpos : 0 < m) : HasRank (.finite .negative m e hpos) (-bitsOf m e)

/-- **Doubles that are zero or finite have the order of their ranks.** -/
theorem HasRank.compare_eq {u v : UnpackedFloat} {r r' : Int} (hu : HasRank u r) (hv : HasRank v r') :
    u.compare v = some (compare r r') := by
  cases hu with
  | zero =>
    cases hv with
    | zero => rw [UnpackedFloat.compare, compare_eq_iff_eq.mpr rfl]
    | positive _ hpos => rw [UnpackedFloat.compare, compare_lt_iff_lt.mpr (bitsOf_pos _ hpos)]
    | negative _ hpos => rw [UnpackedFloat.compare, compare_gt_iff_gt.mpr (Int.neg_neg_of_pos (bitsOf_pos _ hpos))]
  | @positive m e h hpos =>
    have hbits := bitsOf_pos e hpos
    cases hv with
    | zero => rw [UnpackedFloat.compare, compare_gt_iff_gt.mpr hbits]
    | positive h' => rw [UnpackedFloat.compare, compare_bitsOf h h']
    | @negative m' e' _ hpos' =>
      have hbits' := Int.neg_neg_of_pos (bitsOf_pos e' hpos')
      rw [UnpackedFloat.compare, compare_gt_iff_gt.mpr (hbits'.trans hbits)]
  | @negative m e h hpos =>
    have hbits := Int.neg_neg_of_pos (bitsOf_pos e hpos)
    cases hv with
    | zero => rw [UnpackedFloat.compare, compare_lt_iff_lt.mpr hbits]
    | positive _ hpos' => rw [UnpackedFloat.compare, compare_lt_iff_lt.mpr (hbits.trans (bitsOf_pos _ hpos'))]
    | negative h' => rw [UnpackedFloat.compare, compare_bitsOf h h', compare_neg]

@[simp] theorem rank_zero (negative : Bool) : rank negative 0 = 0 := by
  cases negative <;> rfl

@[simp] theorem rank_true (bits : Nat) : rank true bits = -bits := if_pos rfl

@[simp] theorem rank_false (bits : Nat) : rank false bits = bits := if_neg Bool.false_ne_true

theorem hasRank_unpack (h : bits < infinityBits) (hx : x.toBits.toNat = if negative then bits + 2 ^ 63 else bits) :
    HasRank x.toModel.unpack (rank negative bits) := by
  rcases bits_cases h with rfl | ⟨m, e, hform, hpos, rfl⟩
  · rw [Nat.zero_add] at hx
    rw [unpack_eq_zero hx, rank_zero]
    exact .zero _
  · rw [unpack_eq_finite hform hpos hx]
    cases negative with
    | true =>
      rw [rank_true]
      exact .negative hform hpos
    | false =>
      rw [rank_false]
      exact .positive hform hpos

theorem compareReals_eq {r r' : Int} (hx : HasRank x.toModel.unpack r) (hy : HasRank y.toModel.unpack r') :
    Number.compareReals x y = some (compare r r') := by
  have hlt : x < y ↔ r < r' := by
    change decide ((x.toModel.unpack.compare y.toModel.unpack == some .lt) = true) = true ↔ r < r'
    rw [hx.compare_eq hy, decide_eq_true_iff, beq_iff_eq, Option.some_inj, compare_lt_iff_lt]
  have hgt : y < x ↔ r' < r := by
    change decide ((y.toModel.unpack.compare x.toModel.unpack == some .lt) = true) = true ↔ r' < r
    rw [hy.compare_eq hx, decide_eq_true_iff, beq_iff_eq, Option.some_inj, compare_lt_iff_lt]
  have heq : (x == y) = true ↔ r = r' := by
    change (x.toModel.unpack.compare y.toModel.unpack == some .eq) = true ↔ r = r'
    rw [hx.compare_eq hy, beq_iff_eq, Option.some_inj, compare_eq_iff_eq]
  unfold Number.compareReals
  rcases lt_trichotomy r r' with hless | hsame | hmore
  · rw [if_pos (hlt.mpr hless), compare_lt_iff_lt.mpr hless]
  · rw [if_neg (hlt.not.mpr hsame.not_lt), if_neg (hgt.not.mpr hsame.symm.not_lt), if_pos (heq.mpr hsame),
      compare_eq_iff_eq.mpr hsame]
  · rw [if_neg (hlt.not.mpr hmore.not_gt), if_pos (hgt.mpr hmore), compare_gt_iff_gt.mpr hmore]

/-! ## Rounding -/

theorem roundsTo_natCast (n : Nat) : RoundsTo n n := by
  constructor <;> norm_num

/-- The code rounds to the nearest integer. -/
theorem roundsTo_roundHalfEven (num : Nat) {den : Nat} (hden : 0 < den) :
    RoundsTo (num / den) (roundHalfEven num den) := by
  obtain ⟨r, hsplit, ⟨hfrom, hto⟩, hlow, hhigh⟩ := exists_rest num hden
  unfold roundHalfEven
  simp only [hlow, hhigh]
  rw [hsplit]
  generalize num / den = low
  have hdown : |(low : ℚ) + r - low| = r := by rw [add_sub_cancel_left, abs_of_nonneg hfrom]
  have hup : |(low : ℚ) + r - (low + 1 : Nat)| = 1 - r := by
    push_cast
    rw [add_sub_add_left_eq_sub, abs_of_neg (by linarith)]
    ring
  split_ifs with hless hmore heven
  · exact ⟨by rw [hdown]; linarith, by rw [hdown]; intro; linarith⟩
  · exact ⟨by rw [hup]; linarith, by rw [hup]; intro; linarith⟩
  · exact ⟨by rw [hdown]; linarith, fun _ => heven⟩
  · exact ⟨by rw [hup]; linarith, fun _ => by omega⟩

/-- Rounding keeps the order. -/
theorem RoundsTo.mono {q q' : ℚ} {k k' : Nat} (h : RoundsTo q k) (h' : RoundsTo q' k') (hle : q ≤ q') : k ≤ k' := by
  by_contra hlt
  obtain ⟨hfrom, -⟩ := abs_le.mp h.near
  obtain ⟨-, hto⟩ := abs_le.mp h'.near
  have hsucc : (k' : ℚ) + 1 ≤ k := by exact_mod_cast Nat.not_le.mp hlt
  -- Then both are halfway between the integers, and both of these are even.
  have hq : q = k - 1 / 2 := by linarith
  have hq' : q' = k' + 1 / 2 := by linarith
  have hk : (k : ℚ) = k' + 1 := by linarith
  have heven := h.even (by rw [hq, sub_sub_cancel_left, abs_neg, abs_of_pos (by norm_num)])
  have heven' := h'.even (by rw [hq', add_sub_cancel_left, abs_of_pos (by norm_num)])
  have hsame : k = k' + 1 := by exact_mod_cast hk
  omega

section

variable {num den num' den' : Nat}

theorem num_pos_of_le (hnum : 0 < num) (hden : 0 < den) (hle : (num : ℚ) / den ≤ num' / den') : 0 < num' := by
  have hpos : (0 : ℚ) < num / den := by positivity
  rcases Nat.eq_zero_or_pos num' with rfl | hpos'
  · rw [Nat.cast_zero, zero_div] at hle
    linarith
  · exact hpos'

/-- The last place of a greater ratio is not before that of a smaller one. -/
theorem lastPlace_mono (hnum : 0 < num) (hden : 0 < den) (hden' : 0 < den')
    (hle : (num : ℚ) / den ≤ num' / den') : lastPlace num den ≤ lastPlace num' den' := by
  have hnum' := num_pos_of_le hnum hden hle
  by_contra hlt
  have hleast := minExponent_le_lastPlace num' den'
  have hfrom := (lastPlace_spec hnum hden).2 (by omega)
  have hto := (lastPlace_spec hnum' hden').1
  have hpower : (2 : ℚ) ^ (lastPlace num' den' + 53) ≤ 2 ^ (lastPlace num den + 52) :=
    zpow_le_zpow_right₀ one_le_two (by omega)
  linarith

/-- The mantissa of the double nearest to a ratio, at its last place. -/
theorem exists_mantissa (hnum : 0 < num) (hden : 0 < den) (h : nearest num den = some bits) :
    ∃ k, bits = bitsOf k (lastPlace num den) ∧ RoundsTo (num / den / 2 ^ lastPlace num den) k ∧ k ≤ 2 ^ 53 ∧
      (minExponent < lastPlace num den → 2 ^ 52 ≤ k) := by
  have hpair := isRatio_powTwo (lastPlace num den)
  obtain ⟨hto, hfrom⟩ := lastPlace_spec hnum hden
  rw [nearest_of_lastPlace hnum.ne' rfl] at h
  obtain ⟨-, h⟩ := Option.ite_none_right_eq_some.mp h
  have hrounds := roundsTo_roundHalfEven (num * (powTwo (lastPlace num den)).2) (Nat.mul_pos hden hpair.num_pos)
  rw [hpair.div] at hrounds
  have hunit : (0 : ℚ) < 2 ^ lastPlace num den := by positivity
  refine ⟨_, (Option.some.inj h).symm, hrounds, hrounds.mono (roundsTo_natCast _) ?_, fun hleast => ?_⟩
  · rw [div_le_iff₀ hunit, Nat.cast_pow, Nat.cast_ofNat, two_pow_mul_zpow]
    exact (hto.trans_eq (by rw [Nat.cast_ofNat, add_comm])).le
  · refine (roundsTo_natCast _).mono hrounds ?_
    rw [le_div_iff₀ hunit, Nat.cast_pow, Nat.cast_ofNat, two_pow_mul_zpow]
    exact (hfrom hleast).trans_eq' (by rw [Nat.cast_ofNat, add_comm])

/-- **Rounding to doubles keeps the order.** -/
theorem nearest_mono (hden : 0 < den) (hden' : 0 < den') (hle : (num : ℚ) / den ≤ num' / den')
    (h : nearest num den = some bits) (h' : nearest num' den' = some bits') : bits ≤ bits' := by
  rcases Nat.eq_zero_or_pos num with rfl | hnum
  · cases h
    exact Nat.zero_le _
  obtain ⟨k, rfl, hrounds, hmost, -⟩ := exists_mantissa hnum hden h
  obtain ⟨k', rfl, hrounds', -, hleast⟩ := exists_mantissa (num_pos_of_le hnum hden hle) hden' h'
  have hmin := minExponent_le_lastPlace num den
  rcases (lastPlace_mono hnum hden hden' hle).eq_or_lt with hplace | hplace
  · rw [← hplace] at hrounds' ⊢
    have hk : k ≤ k' := hrounds.mono hrounds' (by gcongr)
    unfold bitsOf
    omega
  · -- At a later place the mantissa has its leading digit, so the bits are not fewer.
    have hk' := hleast (by omega)
    unfold bitsOf
    rw [Nat.pow_eq]
    omega

end

/-! ## Integers -/

/-- A double is of one sign and of one sequence of bits. -/
theorem ofSignBits_inj (h : bits < infinityBits) (h' : bits' < infinityBits)
    (heq : ofSignBits negative bits = ofSignBits negative' bits') : negative = negative' ∧ bits = bits' := by
  have hbits := toNat_toBits_ofSignBits negative h.le
  rw [heq, toNat_toBits_ofSignBits negative' h'.le] at hbits
  unfold infinityBits at h h'
  cases negative <;> cases negative' <;> simp at hbits ⊢ <;> omega

/-- A ratio that is a double is near to it. -/
theorem near_self (h : IsForm mantissa exponent) : Near mantissa exponent (mantissa * 2 ^ exponent) := by
  have hunit : (0 : ℚ) < 2 ^ exponent := by positivity
  have hbelow : 0 < below mantissa exponent := by
    rcases below_cases h with ⟨-, -, hquarter⟩ | ⟨-, hhalf⟩ <;> linarith
  have hlow : (mantissa - below mantissa exponent) * 2 ^ exponent < mantissa * (2 : ℚ) ^ exponent := by
    gcongr
    linarith
  have hhigh : mantissa * (2 : ℚ) ^ exponent < (mantissa + 1 / 2) * 2 ^ exponent := by
    gcongr
    linarith
  exact ⟨hlow.le, hhigh.le, fun h => h.elim (fun heq => absurd heq hlow.ne') fun heq => absurd heq hhigh.ne⟩

/-- Integers up to the power 53 of two are doubles. -/
theorem exists_form_eq {n : Nat} (hpos : 0 < n) (h : n ≤ 2 ^ 53) :
    ∃ mantissa exponent, IsForm mantissa exponent ∧ 0 < mantissa ∧ (n : ℚ) = mantissa * 2 ^ exponent := by
  rcases h.eq_or_lt with rfl | hlt
  · exact ⟨2 ^ 52, 1, ⟨by norm_num, by decide, fun _ => le_rfl, by decide⟩, by norm_num, by norm_num⟩
  · obtain ⟨hfrom, hto⟩ := log2_bounds hpos
    have hlog : n.log2 < 53 := (Nat.log2_lt hpos.ne').mpr hlt
    obtain ⟨k, hk⟩ := Nat.exists_eq_add_of_le (Nat.le_of_lt_succ hlog)
    refine ⟨n * 2 ^ k, -(k : Int), ⟨?_, ?_, fun _ => ?_, ?_⟩, by positivity, ?_⟩
    · calc n * 2 ^ k < 2 ^ (n.log2 + 1) * 2 ^ k := by gcongr
        _ = 2 ^ 53 := by rw [← pow_add]; congr 1; omega
    · unfold minExponent
      omega
    · calc 2 ^ 52 = 2 ^ n.log2 * 2 ^ k := by rw [← pow_add, hk]
        _ ≤ n * 2 ^ k := by gcongr
    · omega
    · rw [zpow_neg, zpow_natCast]
      push_cast
      field_simp

/-- They are not rounded. -/
theorem nearest_eq_of_le {n : Nat} (hpos : 0 < n) (h : n ≤ 2 ^ 53) :
    ∃ mantissa exponent, IsForm mantissa exponent ∧ 0 < mantissa ∧ (n : ℚ) = mantissa * 2 ^ exponent ∧
      nearest n 1 = some (bitsOf mantissa exponent) := by
  obtain ⟨m, e, hform, hm, hn⟩ := exists_form_eq hpos h
  refine ⟨m, e, hform, hm, hn, nearest_of_near hform hm one_pos ?_⟩
  rw [Nat.cast_one, div_one, hn]
  exact near_self hform

theorem IsForm.bitsOf_inj {m m' : Nat} {e e' : Int} (h : IsForm m e) (h' : IsForm m' e')
    (heq : bitsOf m e = bitsOf m' e') : m = m' ∧ e = e' := by
  obtain ⟨hm, hleast, hnormal, -⟩ := h
  obtain ⟨hm', hleast', hnormal', -⟩ := h'
  unfold bitsOf minExponent at *
  rw [Nat.pow_eq] at *
  omega

/-- Greater integers have doubles that are not smaller. -/
theorem nearest_natCast_mono {a b : Nat} (hab : a ≤ b) (h : nearest a 1 = some bits) (h' : nearest b 1 = some bits') :
    bits ≤ bits' :=
  nearest_mono one_pos one_pos (by gcongr) h h'

/-- Integers below the power 53 of two have smaller doubles than greater integers. -/
theorem nearest_strictMono {a b : Nat} (ha : a < 2 ^ 53) (hab : a < b) (h : nearest a 1 = some bits)
    (h' : nearest b 1 = some bits') : bits < bits' := by
  obtain ⟨m, e, hform, hm, hsucc, hnext⟩ := nearest_eq_of_le (Nat.succ_pos a) ha
  refine lt_of_lt_of_le ?_ (nearest_natCast_mono hab hnext h')
  rcases Nat.eq_zero_or_pos a with rfl | hpos
  · cases h
    exact_mod_cast bitsOf_pos e hm
  · obtain ⟨m', e', hform', -, hself, hown⟩ := nearest_eq_of_le hpos ha.le
    obtain rfl := Option.some.inj (h.symm.trans hown)
    refine lt_of_le_of_ne (nearest_natCast_mono (Nat.le_succ a) hown hnext) fun heq => ?_
    obtain ⟨rfl, rfl⟩ := hform'.bitsOf_inj hform heq
    have hsame : (a : ℚ) = (a + 1 : Nat) := hself.trans hsucc.symm
    exact absurd (Nat.cast_injective hsame) (Nat.ne_of_lt (Nat.lt_succ_self a))

variable {m n : Int}

theorem ofInt_eq_some :
    ofInt n = some x ↔ ∃ bits, nearest n.natAbs 1 = some bits ∧ ofSignBits (n < 0) bits = x :=
  Option.map_eq_some_iff

/-- Greater integers have doubles of no smaller rank. -/
theorem rank_mono (hm : nearest m.natAbs 1 = some bits) (hn : nearest n.natAbs 1 = some bits') (hle : m ≤ n) :
    rank (m < 0) bits ≤ rank (n < 0) bits' := by
  by_cases hsign : n < 0
  · have hsign' : m < 0 := by omega
    have hbits := nearest_natCast_mono (show n.natAbs ≤ m.natAbs by omega) hn hm
    simp only [hsign, hsign', decide_true, rank_true]
    omega
  · by_cases hsign' : m < 0
    · simp only [hsign, hsign', decide_true, decide_false, rank_true, rank_false]
      omega
    · have hbits := nearest_natCast_mono (show m.natAbs ≤ n.natAbs by omega) hm hn
      simp only [hsign, hsign', decide_false, rank_false]
      omega

/-- Integers with doubles of one rank have one double: that of zero has no sign. -/
theorem rank_inj (hm : nearest m.natAbs 1 = some bits) (hn : nearest n.natAbs 1 = some bits')
    (h : rank (m < 0) bits = rank (n < 0) bits') : decide (m < 0) = decide (n < 0) ∧ bits = bits' := by
  have hpos : ∀ {k : Int} {b : Nat}, nearest k.natAbs 1 = some b → k < 0 → 0 < b := by
    intro k b hk hsign
    exact nearest_strictMono (show 0 < 2 ^ 53 by norm_num) (show 0 < k.natAbs by omega) rfl hk
  by_cases hsign : m < 0
  · have hbits := hpos hm hsign
    by_cases hsign' : n < 0
    · simp only [hsign, hsign', decide_true, rank_true] at h
      exact ⟨by simp [hsign, hsign'], by omega⟩
    · simp only [hsign, hsign', decide_true, decide_false, rank_true, rank_false] at h
      omega
  · by_cases hsign' : n < 0
    · have hbits := hpos hn hsign'
      simp only [hsign, hsign', decide_true, decide_false, rank_true, rank_false] at h
      omega
    · simp only [hsign, hsign', decide_false, rank_false] at h
      exact ⟨by simp [hsign, hsign'], by omega⟩

/-- The order of two integers as far as their doubles tell it. -/
def roundedOrder (m n : Int) : Ordering :=
  if ofInt m = ofInt n then .eq else compare m n

theorem roundedOrder_swap (m n : Int) : roundedOrder m n = (roundedOrder n m).swap := by
  unfold roundedOrder
  by_cases h : ofInt m = ofInt n
  · rw [if_pos h, if_pos h.symm, Ordering.swap]
  · rw [if_neg h, if_neg (Ne.symm h)]
    exact Std.OrientedCmp.eq_swap

/-- **The doubles nearest to two integers are one double, or they have the order of these.** -/
theorem compareReals_ofInt (hx : ofInt m = some x) (hy : ofInt n = some y) :
    Number.compareReals x y = some (roundedOrder m n) := by
  obtain ⟨bits, hm, rfl⟩ := ofInt_eq_some.mp hx
  obtain ⟨bits', hn, rfl⟩ := ofInt_eq_some.mp hy
  have hrank := hasRank_unpack (nearest_lt hm) (toNat_toBits_ofSignBits (m < 0) (nearest_lt hm).le)
  have hrank' := hasRank_unpack (nearest_lt hn) (toNat_toBits_ofSignBits (n < 0) (nearest_lt hn).le)
  rw [compareReals_eq hrank hrank', roundedOrder, hx, hy]
  congr 1
  split
  · rename_i heq
    obtain ⟨hsign, hbits⟩ := ofSignBits_inj (nearest_lt hm) (nearest_lt hn) (Option.some.inj heq)
    rw [hsign, hbits, compare_eq_iff_eq]
  · rename_i hne
    have hranks : rank (m < 0) bits ≠ rank (n < 0) bits' := by
      intro h
      obtain ⟨hsign, hbits⟩ := rank_inj hm hn h
      exact hne (by rw [hsign, hbits])
    rcases lt_trichotomy m n with hlt | rfl | hgt
    · rw [compare_lt_iff_lt.mpr hlt, compare_lt_iff_lt]
      exact lt_of_le_of_ne (rank_mono hm hn hlt.le) hranks
    · exact absurd (hx.symm.trans hy) hne
    · rw [compare_gt_iff_gt.mpr hgt, compare_gt_iff_gt]
      exact lt_of_le_of_ne (rank_mono hn hm hgt.le) hranks.symm

/-- **Integers of up to 53 binary digits have doubles of their own.** -/
theorem eq_of_ofInt_eq (hn : n.natAbs < 2 ^ 53) (hx : ofInt m = some x) (hy : ofInt n = some x) : m = n := by
  obtain ⟨bits, hm, rfl⟩ := ofInt_eq_some.mp hx
  obtain ⟨bits', hn', heq⟩ := ofInt_eq_some.mp hy
  obtain ⟨hsign, rfl⟩ := ofSignBits_inj (nearest_lt hn') (nearest_lt hm) heq
  have hsize : m.natAbs = n.natAbs := by
    rcases lt_trichotomy m.natAbs n.natAbs with hlt | hsame | hgt
    · exact absurd (nearest_strictMono (hlt.trans hn) hlt hm hn') (lt_irrefl _)
    · exact hsame
    · exact absurd (nearest_strictMono hn hgt hn' hm) (lt_irrefl _)
  have hsign' : m < 0 ↔ n < 0 := by simpa using hsign.symm
  omega

theorem exists_ofInt (hn : n.natAbs < 2 ^ 53) : ∃ x, ofInt n = some x := by
  rcases Nat.eq_zero_or_pos n.natAbs with hzero | hpos
  · exact ⟨_, ofInt_eq_some.mpr ⟨0, by rw [hzero]; rfl, rfl⟩⟩
  · obtain ⟨m, e, -, -, -, hnearest⟩ := nearest_eq_of_le hpos hn.le
    exact ⟨_, ofInt_eq_some.mpr ⟨_, hnearest, rfl⟩⟩

/-- The doubles of integers of up to 53 binary digits tell their order to all integers. -/
theorem roundedOrder_eq (m : Int) (hn : n.natAbs < 2 ^ 53) : roundedOrder m n = compare m n := by
  obtain ⟨y, hy⟩ := exists_ofInt hn
  unfold roundedOrder
  split
  · rename_i heq
    obtain rfl := eq_of_ofInt_eq hn (heq.trans hy) hy
    exact (compare_eq_iff_eq.mpr rfl).symm
  · rfl

end Mixfix.Binary64
