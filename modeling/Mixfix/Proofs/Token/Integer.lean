import Mixfix.Proofs.Decimal
import Mixfix.Proofs.Token.Readable

/-!
# Integers are read back

The notation of an integer is a numeral (`Numeral.ofInt`), and its value is the integer again
(`Numeral.value_ofInt`). A numeral is read as far as it goes, so the text behind it only has to stop it: it begins
neither with a digit nor with a point that a digit follows. Of such a text the reading takes a point at the front and
nothing else (`Scan.swallowPoint_eq`).
-/

set_option autoImplicit false

namespace Mixfix

namespace Decimal

/-- The notation of an integer has at most so many digits where the integer is below this power of ten. -/
theorem digitCount_ofInt_le_iff {n : Int} {count : Nat} (h : 0 < count) :
    digitCount (ofInt n) ≤ count ↔ n.natAbs < 10 ^ count := by
  rw [digitCount_ofInt, ofNat, List.length_map]
  exact Nat.length_toDigits_le_iff (by decide) h

/-- An integer of few enough digits is written. -/
theorem writeInt_eq_ok {n : Int} (h : n.natAbs < 10 ^ digitLimit) : writeInt n = .ok (ofInt n) :=
  if_pos ((digitCount_ofInt_le_iff (by decide)).mpr h)

end Decimal

namespace Numeral

/-- The numeral of an integer. -/
def ofInt (n : Int) : Numeral where
  negative := decide (n < 0)
  whole := Decimal.ofNat n.natAbs
  fraction := []
  whole_ne_nil := Decimal.ofNat_ne_nil n.natAbs
  whole_digits := Decimal.all_isDigit_ofNat n.natAbs
  fraction_digits := List.all_nil

theorem text_ofInt (n : Int) : (ofInt n).text = Decimal.ofInt n := by
  rcases Decimal.ofInt_cases n with ⟨hsign, hn⟩ | ⟨hsign, hn⟩
  · simp [text, ofInt, sign, pointed, hsign, hn]
  · simp [text, ofInt, sign, pointed, Int.not_lt.mpr hsign, hn]

/-- The numeral of an integer has the integer as its value. -/
theorem value_ofInt (n : Int) : (ofInt n).value = .int n := by
  have hint : (ofInt n).isFractional = false := rfl
  rw [value, hint, if_neg Bool.false_ne_true, text_ofInt, (Decimal.writes_ofInt n).toInt_eq]

theorem isReadable_ofInt {n : Int} (h : n.natAbs < 10 ^ Decimal.digitLimit) : (ofInt n).isReadable = true := by
  have hcount := (Decimal.digitCount_ofInt_le_iff (by decide)).mpr h
  rw [← text_ofInt, digitCount_text rfl] at hcount
  rw [isReadable, decide_eq_true hcount, Bool.or_true]

end Numeral

namespace Scan

/-- A text has no fraction at its front where no digit follows a point there. -/
theorem fraction?_eq_none {s : Text} (h : ∀ d tail, s = CodePoint.ofChar '.' :: d :: tail → d.isDigit = false) :
    fraction? s = none := by
  unfold fraction?
  split
  · rename_i p d tail
    refine if_neg fun hboth => ?_
    obtain ⟨hp, hd⟩ := Bool.and_eq_true_iff.mp hboth
    rw [h d tail (by rw [of_decide_eq_true hp])] at hd
    cases hd
  · rfl

/-- A point that begins no fraction is swallowed. -/
theorem swallowPoint_eq {s : Text} (h : fraction? s = none) :
    swallowPoint s = if s.begins (· == CodePoint.ofChar '.') then s.tail else s := by
  unfold swallowPoint
  rw [h, if_neg (by simp)]
  cases s with
  | nil => rfl
  | cons c s => simp

/-- **Integers are read back.** The notation of an integer that has few enough digits to be written is read as a
number whose source text is the notation and whose value is the integer, whatever blanks stand before it and whatever
follows that it does not go on in. What is left is the text behind it, without a point at its front. -/
theorem number_writeInt {n : Int} {blanks rest : Text} (hn : n.natAbs < 10 ^ Decimal.digitLimit)
    (hblanks : blanks.isBlank = true) (hdigit : rest.begins CodePoint.isDigit = false)
    (hpoint : ∀ d tail, rest = CodePoint.ofChar '.' :: d :: tail → d.isDigit = false) :
    ∃ written, Decimal.writeInt n = .ok written ∧
      number (blanks ++ written ++ rest) =
        .ok (some {
          kind := .number
          raw := written
          value := .int n
          rest := if rest.begins (· == CodePoint.ofChar '.') then rest.tail else rest }) := by
  have hfraction := fraction?_eq_none hpoint
  have htrim : (blanks ++ ((Numeral.ofInt n).text ++ rest)).trimStart = (Numeral.ofInt n).text ++ rest := by
    rw [Text.trimStart_append_of_blank hblanks, Numeral.trimStart_append]
  have hvalue : numberValue (Numeral.ofInt n).text (Numeral.ofInt n).isFractional = .ok (.int n) :=
    numberValue_eq_ok.mpr ⟨Numeral.isReadable_ofInt hn, (Numeral.value_ofInt n).symm⟩
  have hread := number_eq_ok_some.mpr ⟨Numeral.ofInt n, rest, .int n, htrim, ⟨hdigit, fun _ => hfraction⟩, hvalue, rfl⟩
  rw [Numeral.text_ofInt, swallowPoint_eq hfraction, ← List.append_assoc] at hread
  exact ⟨Decimal.ofInt n, Decimal.writeInt_eq_ok hn, hread⟩

/-- Two points, of which the first one is swallowed: no digit follows it. -/
theorem number_writeInt_points :
    (-120 : Int).natAbs < 10 ^ Decimal.digitLimit ∧
      number (txt "\t -120..5") =
        .ok (some { kind := .number, raw := txt "-120", value := .int (-120), rest := txt ".5" }) := by
  have hn : (-120 : Int).natAbs < 10 ^ Decimal.digitLimit :=
    Nat.lt_of_lt_of_le (show 120 < 10 ^ 3 by decide) (Nat.pow_le_pow_right (by decide) (by decide))
  have hpoint : ∀ d tail, txt "..5" = CodePoint.ofChar '.' :: d :: tail → d.isDigit = false := by
    rintro d tail h
    cases h
    decide
  have hblanks : (txt "\t ").isBlank = true := by decide
  obtain ⟨written, hwritten, hread⟩ := number_writeInt hn hblanks (by decide) hpoint
  cases hwritten
  exact ⟨hn, hread⟩

end Scan

end Mixfix
