import Mixfix.Proofs.Token.Front

/-!
# Writing a string

Any text can be put between two marks: `Text.escaped` puts a backslash before each backslash and each
mark. The search for the closing mark and the decoder of escapes read what stands there in the same
units, one for each code point of the text: the first passes over a hidden code point
(`quoted_escaped`), and the second takes it for itself (`decodeEscapes_escaped`). So a backslash of the
text begins no other escape, whatever follows it (`string_escaped`).
-/

set_option autoImplicit false

namespace Mixfix

namespace Text

/-! ## Single units -/

/-- Only a backslash begins an escape. -/
theorem decodeEscapes_cons {c : CodePoint} (h : c ≠ '\\') (s : Text) :
    decodeEscapes (c :: s) = c :: decodeEscapes s := by
  conv_lhs => unfold decodeEscapes
  exact if_neg h

/-- An escape of one letter. -/
theorem decodeEscapes_letter {e c : CodePoint} (h : letterEscape? e = some c) (s : Text) :
    decodeEscapes ('\\' :: e :: s) = c :: decodeEscapes s := by
  conv_lhs => unfold decodeEscapes
  rw [if_pos rfl]
  dsimp only
  rw [h]

/-! ## Whole texts -/

/-- A code point as it is written between two marks. -/
def escapedPoint (mark c : CodePoint) : Text :=
  if c = '\\' || c = mark then [CodePoint.ofChar '\\', c] else [c]

/-- A text as it is written between two marks. -/
def escaped (mark : CodePoint) (s : Text) : Text :=
  s.flatMap (escapedPoint mark)

theorem escapedPoint_cases (mark c : CodePoint) :
    escapedPoint mark c = [CodePoint.ofChar '\\', c] ∧ (c = '\\' ∨ c = mark) ∨
      escapedPoint mark c = [c] ∧ c ≠ '\\' ∧ c ≠ mark := by
  unfold escapedPoint
  split
  case isTrue h => exact .inl ⟨rfl, by simpa using h⟩
  case isFalse h => exact .inr ⟨rfl, by simpa using h⟩

/-- Decoding takes back what was written, if the mark behind a backslash stands for itself. -/
theorem decodeEscapes_escaped {mark : CodePoint} (hmark : letterEscape? mark = some mark) (s : Text) :
    (escaped mark s).decodeEscapes = s := by
  induction s with
  | nil => rfl
  | cons c s ih =>
    have hunit : (escaped mark (c :: s)).decodeEscapes = c :: (escaped mark s).decodeEscapes := by
      rw [escaped, List.flatMap_cons]
      rcases escapedPoint_cases mark c with ⟨h, rfl | rfl⟩ | ⟨h, hbackslash, -⟩
      · rw [h]
        exact decodeEscapes_letter rfl _
      · rw [h]
        exact decodeEscapes_letter hmark _
      · rw [h]
        exact decodeEscapes_cons hbackslash _
    rw [hunit, ih]

end Text

namespace Scan

/-- Every mark of the text is hidden by the backslash before it. -/
theorem quoted_escaped (mark : CodePoint) (s : Text) : Quoted mark (s.escaped mark) := by
  induction s with
  | nil => exact .nil
  | cons c s ih =>
    rw [Text.escaped, List.flatMap_cons]
    rcases Text.escapedPoint_cases mark c with ⟨h, -⟩ | ⟨h, hbackslash, hmark⟩
    · rw [h]
      exact .hidden c ih
    · rw [h]
      exact .plain hbackslash hmark ih

/-- Every text can be written as a string: between two marks it is read back as it is, and the text
after the closing mark is left. -/
theorem string_escaped {mark : CodePoint} (hmark : mark = '"' ∨ mark = '\'') {blanks : Text}
    (hblanks : blanks.isBlank = true) (s rest : Text) :
    string stringMarks (blanks ++ mark :: (s.escaped mark ++ mark :: rest)) =
      some { kind := .string, raw := s.escaped mark, value := .str s, rest } := by
  have hletter : Text.letterEscape? mark = some mark := by
    rcases hmark with rfl | rfl
    · rfl
    · rfl
  have hblank : mark.isBlank = false := by
    rcases hmark with rfl | rfl
    · rfl
    · rfl
  have htrim : (blanks ++ mark :: (s.escaped mark ++ mark :: rest)).trimStart =
      mark :: (s.escaped mark ++ mark :: rest) := by
    rw [Text.trimStart_append_of_blank hblanks, Text.trimStart_cons_of_not_blank hblank]
  rw [string_of_quoted (mem_stringMarks.mpr hmark) (quoted_escaped mark s) htrim,
    Text.decodeEscapes_escaped hletter]

/-- The text begins like an escape, holds both marks, and ends with a backslash. -/
theorem string_escaped_mixed :
    string stringMarks (txt "\t " ++ CodePoint.ofChar '"' ::
        ((txt "\\x41\"'\\").escaped '"' ++ CodePoint.ofChar '"' :: txt "+1")) =
      some { kind := .string, raw := txt "\\\\x41\\\"'\\\\", value := .str (txt "\\x41\"'\\"), rest := txt "+1" } :=
  string_escaped (.inl rfl) (by decide) (txt "\\x41\"'\\") (txt "+1")

end Scan

end Mixfix
