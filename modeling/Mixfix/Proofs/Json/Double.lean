import Mixfix.Proofs.Binary64.Layout
import Mixfix.Proofs.Json.Scalar

/-!
# Doubles in JSON

The notation of a double is read back as the double (`Json.scalar_writeDouble`), since the parts of every spelling are
read as what they are (`Json.unsigned_spelling`).
-/

set_option autoImplicit false

namespace Mixfix.Json

open Decimal (toNat)

variable {fraction rest : Text}

/-! ## The parts of a number -/

theorem fractionDigits_of_all (hall : fraction.all CodePoint.isDigit = true) (hne : fraction ≠ [])
    (hrest : rest.begins CodePoint.isDigit = false) :
    fractionDigits (CodePoint.ofChar '.' :: (fraction ++ rest)) = (fraction, rest) := by
  obtain ⟨d, digits, rfl⟩ := List.exists_cons_of_ne_nil hne
  have hrun := Text.takeRun_of_all hall hrest
  unfold fractionDigits
  refine (if_pos rfl).trans ?_
  rw [hrun]

theorem begins_exponentPart (power : Option Int) :
    Text.begins CodePoint.isDigit (Binary64.exponentPart power) = false := by
  cases power <;> rfl

theorem exponent_exponentPart (power : Option Int) : exponent (Binary64.exponentPart power) = (power, []) := by
  cases power with
  | none => rfl
  | some power =>
    obtain ⟨sign, digits, htext, hne, hall, hvalue, hsign⟩ := Binary64.exists_exponentText power
    have hrun : Text.takeRun CodePoint.isDigit digits = (digits, []) := by
      simpa using Text.takeRun_of_all hall (Text.begins_nil _)
    have hdigits : exponentDigits (sign :: digits) = (digits, []) := by
      rw [hsign]
      split <;> exact hrun
    change exponent (CodePoint.ofChar 'e' :: Binary64.exponentText power) = _
    rw [htext, exponent_cons rfl, hdigits]
    obtain ⟨d, digits, rfl⟩ := List.exists_cons_of_ne_nil hne
    dsimp only
    rw [hvalue, hsign, List.head?_cons]
    by_cases hnegative : power < 0
    · rw [if_pos hnegative, if_pos (by decide)]
      congr 2
      omega
    · rw [if_neg hnegative, if_neg (by decide)]
      congr 2
      omega

/-- **Every spelling is read** as the double of its number. -/
theorem unsigned_spelling {style : Binary64.Style} {n : Binary64.Spelling} (h : n.Fits style) (negative : Bool) :
    unsigned negative n.text = .ok (.float (Binary64.ofDecimal negative n.digits n.place), []) := by
  obtain ⟨whole, fraction, power⟩ := n
  obtain ⟨hwhole, hall, hpointed⟩ := h
  unfold unsigned
  cases fraction with
  | nil =>
    obtain ⟨-, power, rfl⟩ := hpointed rfl
    have htext : Binary64.Spelling.text ⟨whole, [], some power⟩ = whole ++ Binary64.exponentPart (some power) := rfl
    have hfraction : fractionDigits (Binary64.exponentPart (some power)) = ([], Binary64.exponentPart (some power)) :=
      rfl
    rw [htext, wholeDigits?_of_whole hwhole (begins_exponentPart _)]
    dsimp only
    rw [hfraction]
    dsimp only
    rw [exponent_exponentPart]
    rfl
  | cons d fraction =>
    have htext : Binary64.Spelling.text ⟨whole, d :: fraction, power⟩ =
        whole ++ CodePoint.ofChar '.' :: (d :: fraction ++ Binary64.exponentPart power) := rfl
    rw [htext, wholeDigits?_of_whole hwhole (by rfl)]
    dsimp only
    rw [fractionDigits_of_all hall (List.cons_ne_nil _ _) (begins_exponentPart power)]
    dsimp only
    rw [exponent_exponentPart, List.isEmpty_cons, Bool.false_and, if_neg Bool.false_ne_true]
    rfl

/-! ## Doubles -/

/-- **A double is read back** from its notation. -/
theorem scalar_writeDouble {x : Float} (h : Binary64.form x ≠ .nan) : scalar (writeDouble x) = .ok (.float x, []) := by
  cases hform : Binary64.form x with
  | nan => exact absurd hform h
  | infinite negative =>
    have hx := Binary64.eq_of_form_infinite hform
    unfold writeDouble Binary64.Style.write
    rw [hform, hx]
    cases negative <;> rfl
  | finite negative mantissa exponent =>
    obtain ⟨n, hn, hfits, hx⟩ := Binary64.exists_write (show doubleStyle.wholeFraction = true from rfl) hform
    have hread := unsigned_spelling hfits negative
    rw [hx] at hread
    have hbegins := begins_of_unsigned hread
    unfold writeDouble
    rw [hn]
    cases negative with
    | true => exact (scalar_of_minus hbegins).trans hread
    | false => exact (scalar_of_digit hbegins).trans hread

end Mixfix.Json
