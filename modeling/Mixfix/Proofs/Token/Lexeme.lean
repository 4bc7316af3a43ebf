import Mixfix.Proofs.Token.Quotation

/-!
# Tokens are lossless

A token keeps the text that it was read from, but for the blanks before it, the quotation marks of a string, and a
point that a number swallows. `Scanner.Takes` says what a scanner takes of a text for a token, and
`Scanner.scan_lossless` that this and the rest of the token are the text without its leading blanks.

Nothing here says which texts a scanner refuses: for that see `Scan.number_eq_ok_some`, `Scan.string_eq_some`,
`Scan.identifier_eq_some`, `Scan.const_eq_some` and `Scan.keyword_eq_some`.
-/

set_option autoImplicit false

namespace Mixfix

open Decimal (TooManyDigits)

/-- A scanner with the marks, the text or the word that it looks for. -/
inductive Scanner
  | number
  | string (marks : List Text)
  | identifier
  | const (value : Text)
  | keyword (k : Keyword)

namespace Scanner

/-- Reads a token. -/
def scan (s : Text) : Scanner → Except TooManyDigits (Option Token)
  | .number => Scan.number s
  | .string marks => .ok (Scan.string marks s)
  | .identifier => .ok (Scan.identifier s)
  | .const value => .ok (Scan.const value s)
  | .keyword k => .ok (Scan.keyword k s)

/-- What a scanner takes of the text `s` for a token. -/
inductive Takes (s : Text) (token : Token) : Scanner → Text → Prop
  /-- A number is taken as it is, and a point that is left behind it has a digit after it. -/
  | number : (∀ tail : Text, token.rest = CodePoint.ofChar '.' :: tail → tail.begins CodePoint.isDigit = true) →
      Takes s token .number token.raw
  /-- A number is taken with a point behind it that has no digit after it. -/
  | pointed : token.rest.begins CodePoint.isDigit = false → Takes s token .number (token.raw ++ txt ".")
  /-- A string is taken with its marks. -/
  | string {marks : List Text} {mark : Text} : Scan.firstMark? marks s.trimStart = some mark →
      token.raw.hidesNext = false → ¬ mark.BeginsInside token.raw (mark ++ token.rest) →
      Takes s token (.string marks) (mark ++ token.raw ++ mark)
  | identifier : Takes s token .identifier token.raw
  | const (value : Text) : Takes s token (.const value) token.raw
  | keyword (k : Keyword) : Takes s token (.keyword k) token.raw

variable {s : Text} {token : Token}

theorem lossless_of_number (h : Scan.number s = .ok (some token)) :
    ∃ lexeme, Takes s token .number lexeme ∧ s.trimStart = lexeme ++ token.rest := by
  obtain ⟨n, tail, value, hs, -, -, rfl⟩ := Scan.number_eq_ok_some.mp h
  rcases Scan.swallowPoint_cases tail with ⟨hrest, hpoint⟩ | ⟨htail, hdigit⟩
  · rw [hrest]
    exact ⟨n.text, .number hpoint, hs⟩
  · refine ⟨n.text ++ txt ".", .pointed hdigit, ?_⟩
    rw [hs, List.append_assoc]
    exact congrArg _ htail

theorem lossless_of_string {marks : List Text} (h : Scan.string marks s = some token) :
    ∃ lexeme, Takes s token (.string marks) lexeme ∧ s.trimStart = lexeme ++ token.rest := by
  obtain ⟨mark, raw, rest, hfirst, -, hends, hs, rfl⟩ := Scan.string_eq_some.mp h
  refine ⟨mark ++ raw ++ mark, .string hfirst hends.not_hidden hends.not_before, ?_⟩
  simp only [hs, List.append_assoc]

/-- **Tokens are lossless**: what a scanner takes for a token and the rest of the token are the text, without its
leading blanks. -/
theorem scan_lossless {scanner : Scanner} (h : scanner.scan s = .ok (some token)) :
    ∃ lexeme, scanner.Takes s token lexeme ∧ s.trimStart = lexeme ++ token.rest := by
  cases scanner with
  | number => exact lossless_of_number h
  | string marks => exact lossless_of_string (Except.ok.inj h)
  | identifier =>
    obtain ⟨name, rest, -, hs, -, rfl⟩ := Scan.identifier_eq_some.mp (Except.ok.inj h)
    exact ⟨name, .identifier, hs⟩
  | const value =>
    obtain ⟨rest, hs, rfl⟩ := Scan.const_eq_some.mp (Except.ok.inj h)
    exact ⟨value, .const value, hs⟩
  | keyword k =>
    obtain ⟨rest, hs, -, rfl⟩ := Scan.keyword_eq_some.mp (Except.ok.inj h)
    exact ⟨k.text, .keyword k, hs⟩

/-- The string holds a mark that a backslash hides, and the mark that closes it overlaps another one. -/
theorem scan_lossless_overlapping :
    scan (txt "\t '''a\\'''''+1") (.string [txt "\"", txt "'''", txt "'"]) =
        .ok (some ⟨.string, txt "a\\'", .str (txt "a'"), txt "'+1"⟩) ∧
      Takes (txt "\t '''a\\'''''+1") ⟨.string, txt "a\\'", .str (txt "a'"), txt "'+1"⟩
        (.string [txt "\"", txt "'''", txt "'"]) (txt "'''a\\''''") := by
  have hread : Scan.string [txt "\"", txt "'''", txt "'"] (txt "\t '''a\\'''''+1") =
      some ⟨.string, txt "a\\'", .str (txt "a'"), txt "'+1"⟩ := by cbv
  have hscan : scan _ (.string _) = .ok (some _) := congrArg Except.ok hread
  have hstripped : (txt "\t '''a\\'''''+1").trimStart = txt "'''a\\''''" ++ txt "'+1" := by cbv
  obtain ⟨lexeme, htakes, hs⟩ := scan_lossless hscan
  rw [hstripped, List.append_cancel_right_eq] at hs
  rw [hs]
  exact ⟨hscan, htakes⟩

end Scanner

end Mixfix
