import Mixfix.Proofs.Token.Front

/-!
# Texts whose numbers have values

Reading a number fails for one reason: an integer of more digits than are converted
(`Scan.number_eq_error`). `Text.Readable` says that no such integer stands in a text, wherever one begins
to read, and then reading a number never fails (`Scan.exists_number`). It is enough that the text has no
long run of digits at all (`Text.ShortRuns.readable`).
-/

set_option autoImplicit false

namespace Mixfix

open Decimal (TooManyDigits)

namespace Numeral

/-- Blanks are no part of a numeral. -/
theorem trimStart_append (n : Numeral) (tail : Text) : Text.trimStart (n.text ++ tail) = n.text ++ tail := by
  obtain ⟨negative, whole, fraction, hne, hwhole, hfraction⟩ := n
  cases negative with
  | true => exact Text.trimStart_cons_of_not_blank (by decide) _
  | false =>
    cases whole with
    | nil => exact absurd rfl hne
    | cons d whole =>
      rw [List.all_cons, Bool.and_eq_true] at hwhole
      exact Text.trimStart_cons_of_not_blank (CodePoint.isBlank_of_isDigit hwhole.1) _

end Numeral

namespace Text

/-- A text without runs of more digits than are converted. -/
def ShortRuns (s : Text) : Prop :=
  ∀ run : Text, run <:+: s → run.all CodePoint.isDigit = true → run.length ≤ Decimal.digitLimit

/-- A short text has short runs only. -/
theorem shortRuns_of_length_le {s : Text} (h : s.length ≤ Decimal.digitLimit) : s.ShortRuns :=
  fun _ hrun _ => Nat.le_trans hrun.length_le h

/-- The ends of a text without long runs have none either. -/
theorem ShortRuns.of_suffix {s t : Text} (h : s.ShortRuns) (ht : t <:+ s) : t.ShortRuns :=
  fun run hrun => h run (hrun.trans ht.isInfix)

/-- A numeral of a text without long runs is readable. -/
theorem ShortRuns.isReadable {s rest : Text} {n : Numeral} (h : s.ShortRuns)
    (hs : s.trimStart = n.text ++ rest) : n.isReadable = true := by
  have htext : n.whole <:+: n.text :=
    (List.prefix_append n.whole (Numeral.pointed n.fraction)).isInfix.trans
      (List.suffix_append (Numeral.sign n.negative) _).isInfix
  have hfront : n.text <:+: s :=
    (hs ▸ List.prefix_append n.text rest).isInfix.trans (List.dropWhile_suffix _).isInfix
  have hwhole : n.whole <:+: s := htext.trans hfront
  have hlength := h n.whole hwhole n.whole_digits
  simp [Numeral.isReadable, hlength]

/-- A text in which every number has a value: each numeral that stands in it and does not go on is
readable. -/
def Readable (s : Text) : Prop :=
  ∀ (n : Numeral) (rest : Text), n.text ++ rest <:+ s → n.StopsAt rest → n.isReadable = true

theorem Readable.of_suffix {s t : Text} (h : s.Readable) (ht : t <:+ s) : t.Readable :=
  fun n rest hn => h n rest (hn.trans ht)

/-- Blank text is readable, as no numeral stands in it. -/
theorem readable_of_isBlank {s : Text} (h : s.isBlank = true) : s.Readable := by
  intro n rest hn _
  have hblank : (n.text ++ rest).isBlank = true :=
    List.all_eq_true.mpr fun c hc => List.all_eq_true.mp h c (hn.subset hc)
  rw [← trimStart_eq_nil_iff, n.trimStart_append] at hblank
  exact absurd (List.append_eq_nil_iff.mp hblank).1 n.text_ne_nil

/-- A text without long runs of digits is readable. -/
theorem ShortRuns.readable {s : Text} (h : s.ShortRuns) : s.Readable := by
  intro n rest hn _
  exact (h.of_suffix hn).isReadable (n.trimStart_append rest)

end Text

namespace Scan

/-- **Reading a number fails** exactly where a numeral stands that is not readable. -/
theorem number_eq_error {s : Text} {e : TooManyDigits} :
    number s = .error e ↔
      ∃ (n : Numeral) (rest : Text), s.trimStart = n.text ++ rest ∧ n.StopsAt rest ∧
        n.isReadable = false := by
  constructor
  · intro h
    unfold number at h
    split at h
    · cases h
    · rename_i raw fractional rest hs
      obtain ⟨n, tail, htrim, hstop, rfl, rfl, -⟩ := signedNumber?_eq_some.mp hs
      refine ⟨n, tail, htrim, hstop, ?_⟩
      by_contra hreadable
      have hvalue := numberValue_eq_ok.mpr ⟨Bool.not_eq_false _ ▸ hreadable, rfl⟩
      rw [hvalue] at h
      cases h
  · rintro ⟨n, rest, hs, hstop, hreadable⟩
    have hread : signedNumber? s.trimStart = some (n.text, n.isFractional, swallowPoint rest) :=
      signedNumber?_eq_some.mpr ⟨n, rest, hs, hstop, rfl, rfl, rfl⟩
    cases hvalue : numberValue n.text n.isFractional with
    | error e' =>
      simp only [number, hread, hvalue]
      rfl
    | ok value =>
      rw [(numberValue_eq_ok.mp hvalue).1] at hreadable
      cases hreadable

/-- More digits than are converted are no number. -/
theorem number_eq_error_of_digits {s : Text} (hdigits : s.all CodePoint.isDigit = true)
    (hlong : Decimal.digitLimit < s.length) : number s = .error .tooManyDigits := by
  have hne : s ≠ [] := List.ne_nil_of_length_pos (Nat.zero_lt_of_lt hlong)
  let n : Numeral := ⟨false, s, [], hne, hdigits, rfl⟩
  have htext : n.text ++ [] = s := (List.append_nil _).trans (List.append_nil s)
  refine number_eq_error.mpr ⟨n, [], ?_, ⟨rfl, fun _ => rfl⟩, ?_⟩
  · rw [← htext, n.trimStart_append]
  · simp only [Numeral.isReadable, Bool.or_eq_false_iff, decide_eq_false_iff_not, Nat.not_le]
    exact ⟨rfl, hlong⟩

/-- Numbers of a readable text are read or refused. -/
theorem exists_number {s : Text} (h : s.Readable) : ∃ found, number s = .ok found := by
  cases hnumber : number s with
  | ok found => exact ⟨found, rfl⟩
  | error e =>
    obtain ⟨n, rest, hs, hstop, hreadable⟩ := number_eq_error.mp hnumber
    rw [h n rest (hs ▸ List.dropWhile_suffix _) hstop] at hreadable
    cases hreadable

end Scan

end Mixfix
