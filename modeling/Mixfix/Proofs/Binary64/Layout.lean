import Mixfix.Proofs.Binary64.Shortest

/-!
# The layouts of a double

Every style writes a finite double as a `Spelling`: digits, a point and more digits, and an exponent, of which the point
or the exponent may be missing. The decimal number that is spelled is read as the double (`exists_write`), whatever
layout the style takes for its digits (`exists_layOut`).
-/

set_option autoImplicit false

namespace Mixfix.Binary64

open Decimal (Leading toNat)

variable {style : Style} {s : Text}

/-! ## Spellings -/

/-- The parts of a decimal notation without its sign. -/
structure Spelling where
  whole : Text
  fraction : Text
  power : Option Int

/-- A point and the digits after it, unless there are none. -/
def fractionPart : Text → Text
  | [] => []
  | fraction => CodePoint.ofChar '.' :: fraction

/-- An exponent as it stands in a number, unless there is none. -/
def exponentPart : Option Int → Text
  | none => []
  | some power => txt "e" ++ exponentText power

namespace Spelling

/-- The parts of a decimal notation, one after the other. -/
def text (n : Spelling) : Text :=
  n.whole ++ (fractionPart n.fraction ++ exponentPart n.power)

/-- The number that all digits write. -/
def digits (n : Spelling) : Nat :=
  toNat (n.whole ++ n.fraction)

/-- The power of ten that the last digit counts. -/
def place (n : Spelling) : Int :=
  n.power.getD 0 - n.fraction.length

/-- The number that is spelled. -/
def value (n : Spelling) : ℚ :=
  n.digits * 10 ^ n.place

/-- The parts are such as a style puts together. One without a point has an exponent. -/
structure Fits (style : Style) (n : Spelling) : Prop where
  whole : n.whole = txt "0" ∨ Leading n.whole
  fraction : n.fraction.all CodePoint.isDigit = true
  pointed : n.fraction = [] → style.pointBeforeExponent = false ∧ ∃ power, n.power = some power

end Spelling

/-- The digits of an exponent, with a zero before a lone one. -/
theorem exists_exponentText (power : Int) :
    ∃ sign digits, exponentText power = sign :: digits ∧ digits ≠ [] ∧ digits.all CodePoint.isDigit = true ∧
      toNat digits = power.natAbs ∧ sign = if power < 0 then CodePoint.ofChar '-' else CodePoint.ofChar '+' := by
  have hall := Decimal.all_isDigit_ofNat power.natAbs
  have hvalue := Decimal.toNat_ofNat power.natAbs
  obtain ⟨digits, hdigits, hne, hall, hvalue⟩ :
      ∃ digits, (if (Decimal.ofNat power.natAbs).length < 2 then txt "0" ++ Decimal.ofNat power.natAbs
        else Decimal.ofNat power.natAbs) = digits ∧ digits ≠ [] ∧ digits.all CodePoint.isDigit = true ∧
        toNat digits = power.natAbs := by
    refine ⟨_, rfl, ?_⟩
    split
    · refine ⟨List.cons_ne_nil _ _, hall, ?_⟩
      rw [Decimal.toNat_zero_append, hvalue]
    · exact ⟨Decimal.ofNat_ne_nil _, hall, hvalue⟩
  refine ⟨_, digits, ?_, hne, hall, hvalue, rfl⟩
  unfold exponentText
  dsimp only
  rw [hdigits]
  split <;> rfl

/-! ## Layouts -/

/-- A text spells a number as a style does. -/
def Spells (style : Style) (t : Text) (q : ℚ) : Prop :=
  ∃ n : Spelling, t = n.text ∧ n.Fits style ∧ n.value = q

/-- Digits, a point and more digits. -/
theorem spells_fraction {whole fraction : Text} {q : ℚ} (hwhole : whole = txt "0" ∨ Leading whole)
    (hall : fraction.all CodePoint.isDigit = true) (hne : fraction ≠ [])
    (hq : toNat (whole ++ fraction) * 10 ^ (-(fraction.length : Int)) = q) :
    Spells style (whole ++ CodePoint.ofChar '.' :: fraction) q := by
  refine ⟨⟨whole, fraction, none⟩, ?_, ⟨hwhole, hall, fun h => absurd h hne⟩, ?_⟩
  · obtain ⟨d, fraction, rfl⟩ := List.exists_cons_of_ne_nil hne
    rw [Spelling.text, exponentPart, List.append_nil]
    rfl
  · rw [Spelling.value, Spelling.place, Option.getD_none, zero_sub]
    exact hq

/-- Digits with zeros before them. -/
theorem spells_small (h : Leading s) {first : Int} (hfirst : first < 0) :
    Spells style (txt "0." ++ List.replicate ((-first).toNat - 1) (CodePoint.ofChar '0') ++ s)
      (toNat s * 10 ^ (first - s.length + 1)) := by
  obtain ⟨d, rest, hs, -⟩ := h.first
  have htext : txt "0." ++ List.replicate ((-first).toNat - 1) (CodePoint.ofChar '0') ++ s =
    txt "0" ++ CodePoint.ofChar '.' :: (List.replicate ((-first).toNat - 1) (CodePoint.ofChar '0') ++ s) := rfl
  rw [htext]
  refine spells_fraction (.inl rfl) ?_ ?_ ?_
  · rw [List.all_append, Decimal.all_isDigit_zeros, h.all]
    rfl
  · simp [hs]
  · rw [Decimal.toNat_zero_append, Decimal.toNat_append, Decimal.toNat_zeros, Nat.zero_mul, Nat.zero_add,
      List.length_append, List.length_replicate]
    congr 2
    omega

/-- Digits with zeros after them. -/
theorem spells_padded (h : Leading s) {n : Nat} (hn : s.length ≤ n) :
    Spells style (s ++ List.replicate (n - s.length) (CodePoint.ofChar '0') ++ txt ".0")
      (toNat s * 10 ^ ((n : Int) - s.length)) := by
  have hwhole := h.append (Decimal.all_isDigit_zeros (n - s.length))
  change Spells style (_ ++ CodePoint.ofChar '.' :: txt "0") _
  refine spells_fraction (.inr hwhole) rfl (List.cons_ne_nil _ _) ?_
  have hlength : (txt "0").length = 1 := rfl
  have hzero : toNat (txt "0") = 0 := rfl
  rw [Decimal.toNat_append, Decimal.toNat_append, Decimal.toNat_zeros, List.length_replicate, hlength, hzero,
    ← Int.ofNat_sub hn, zpow_natCast]
  push_cast
  rw [add_zero, add_zero, zpow_neg_one, mul_inv_cancel_right₀ (by norm_num)]

/-- Digits with a point among them. -/
theorem spells_split (h : Leading s) {n : Nat} (hpos : 0 < n) (hn : n < s.length) :
    Spells style (s.take n ++ CodePoint.ofChar '.' :: s.drop n) (toNat s * 10 ^ ((n : Int) - s.length)) := by
  have hsplit : s.take n ++ s.drop n = s := List.take_append_drop n s
  obtain ⟨hall, d, rest, hs, hd⟩ := h
  have hall' := hall
  rw [← hsplit, List.all_append, Bool.and_eq_true] at hall'
  refine spells_fraction (.inr ⟨hall'.1, d, rest.take (n - 1), ?_, hd⟩) hall'.2 ?_ ?_
  · obtain ⟨n, rfl⟩ := Nat.exists_eq_add_one_of_ne_zero hpos.ne'
    rw [hs]
    rfl
  · rw [ne_eq, List.drop_eq_nil_iff, not_le]
    exact hn
  · rw [hsplit, List.length_drop]
    congr 2
    omega

/-- One digit before an exponent, with a point and a zero after it or not. -/
theorem spells_lone {d : CodePoint} (h : Leading [d]) (first : Int) :
    Spells style (d :: (if style.pointBeforeExponent then txt ".0" else []) ++ txt "e" ++ exponentText first)
      (toNat [d] * 10 ^ first) := by
  cases hpoint : style.pointBeforeExponent with
  | true =>
    refine ⟨⟨[d], txt "0", some first⟩, rfl, ⟨.inr h, rfl, nofun⟩, ?_⟩
    have hzero : toNat (txt "0") = 0 := rfl
    have hdigits : toNat ([d] ++ txt "0") = toNat [d] * 10 := by
      rw [Decimal.toNat_append, hzero]
      rfl
    have hplace : 10 * (10 : ℚ) ^ (first - 1) = 10 ^ first := by
      rw [zpow_sub_one₀ (by norm_num), mul_comm, inv_mul_cancel_right₀ (by norm_num)]
    change (toNat ([d] ++ txt "0") : ℚ) * 10 ^ (first - 1) = _
    rw [hdigits, Nat.cast_mul, mul_assoc, Nat.cast_ofNat, hplace]
  | false =>
    refine ⟨⟨[d], [], some first⟩, rfl, ⟨.inr h, rfl, fun _ => ⟨hpoint, first, rfl⟩⟩, ?_⟩
    change (toNat [d] : ℚ) * 10 ^ (first - 0) = _
    rw [sub_zero]

/-- One digit before the point, and an exponent. -/
theorem spells_scientific {d e : CodePoint} {rest : Text} (h : Leading (d :: e :: rest)) (first : Int) :
    Spells style (d :: txt "." ++ (e :: rest) ++ txt "e" ++ exponentText first)
      (toNat (d :: e :: rest) * 10 ^ (first - (e :: rest).length)) := by
  obtain ⟨hall, _, _, hfirst, hzero⟩ := h
  cases hfirst
  rw [List.all_cons, Bool.and_eq_true] at hall
  have hlead : Leading [d] := ⟨by simpa using hall.1, d, [], rfl, hzero⟩
  refine ⟨⟨[d], e :: rest, some first⟩, ?_, ⟨.inr hlead, hall.2, nofun⟩, rfl⟩
  rw [List.append_assoc _ (txt "e")]
  rfl

/-- **Every layout of some digits spells their number.** -/
theorem spells_layOut (hstyle : style.wholeFraction = true) (h : Leading s) (first : Int) :
    Spells style (style.layOut s first) (toNat s * 10 ^ (first - s.length + 1)) := by
  unfold Style.layOut
  split
  · split
    · rename_i hfirst
      exact spells_small h hfirst
    · rename_i hfirst
      have hpower : first - s.length + 1 = ((first.toNat + 1 : Nat) : Int) - s.length := by omega
      rw [hpower]
      dsimp only
      split
      · rename_i hdrop
        have hlength := List.drop_eq_nil_iff.mp hdrop
        rw [List.take_of_length_le hlength]
        exact spells_padded h hlength
      · rename_i hdrop
        have hlength : first.toNat + 1 < s.length := by
          rw [← not_le, ← List.drop_eq_nil_iff]
          exact hdrop
        rw [List.length_take_of_le hlength.le, Nat.sub_self, List.replicate_zero, List.append_nil, List.append_assoc]
        exact spells_split h (Nat.succ_pos _) hlength
  · obtain ⟨d, rest, rfl, hd⟩ := h.first
    cases rest with
    | nil =>
      have hpower : first - [d].length + 1 = first := sub_add_cancel _ _
      rw [hpower]
      exact spells_lone h first
    | cons e rest =>
      have hpower : first - (d :: e :: rest).length + 1 = first - (e :: rest).length := by
        rw [List.length_cons]
        omega
      rw [hpower]
      exact spells_scientific h first

/-! ## Doubles -/

/-- A finite double other than zero is read from the spelling of its digits. -/
theorem exists_layOut (hstyle : style.wholeFraction = true) {mantissa : Nat} {exponent : Int}
    (hform : IsForm mantissa exponent) (hpos : 0 < mantissa) :
    ∃ n : Spelling, style.layOut (shortest mantissa exponent).scientific.1 (shortest mantissa exponent).scientific.2 =
        n.text ∧ n.Fits style ∧
        ∀ negative, ofDecimal negative n.digits n.place = ofSignBits negative (bitsOf mantissa exponent) := by
  have hnear := shortest_near hform hpos
  have hcoefficient : 0 < (shortest mantissa exponent).coefficient := by
    apply Nat.pos_of_ne_zero
    intro hzero
    have hvalue := hnear.pos hpos
    rw [DecimalNumber.value, hzero, Nat.cast_zero, zero_mul] at hvalue
    exact lt_irrefl _ hvalue
  obtain ⟨s, first, hscientific, hleading, hvalue⟩ := DecimalNumber.exists_scientific hcoefficient
  obtain ⟨n, hn, hfits, hnumber⟩ := spells_layOut hstyle hleading first
  rw [hvalue, ← hnumber] at hnear
  rw [hscientific]
  exact ⟨n, hn, hfits, ofDecimal_of_near hform hpos hnear⟩

/-- **A finite double is read from its notation**, of which the sign is apart. -/
theorem exists_write (hstyle : style.wholeFraction = true) {x : Float} {negative : Bool} {mantissa : Nat}
    {exponent : Int} (h : form x = .finite negative mantissa exponent) :
    ∃ n : Spelling, style.write x = (if negative then txt "-" else []) ++ n.text ∧ n.Fits style ∧
      ofDecimal negative n.digits n.place = x := by
  obtain ⟨hform, hx⟩ := eq_of_form_finite h
  unfold Style.write
  rw [h]
  dsimp only
  by_cases hzero : mantissa = 0
  · rw [if_pos hzero, if_pos hstyle]
    refine ⟨⟨txt "0", txt "0", none⟩, rfl, ⟨.inl rfl, rfl, nofun⟩, ?_⟩
    have hleast : exponent = minExponent := by
      by_contra hne
      have hnormal := hform.normal (lt_of_le_of_ne hform.least (Ne.symm hne))
      rw [hzero] at hnormal
      exact absurd hnormal (by decide)
    rw [hx, hzero, hleast]
    rfl
  · rw [if_neg hzero]
    obtain ⟨n, hn, hfits, hread⟩ := exists_layOut hstyle hform (Nat.pos_of_ne_zero hzero)
    refine ⟨n, ?_, hfits, (hread negative).trans hx.symm⟩
    rw [← hn]

end Mixfix.Binary64
