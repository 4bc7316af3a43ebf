import Mixfix.Descriptor.Reader
import Mixfix.Proofs.Descriptor.Token
import Mixfix.Proofs.Parse.Terminal
import Mixfix.Proofs.Token.Escape

/-!
# Constants as descriptors

The schema of a constant is its text as a JSON string, and descriptors have another language of escapes.
But JSON strings are written in what both have: the escapes of one letter, and those of four digits for the
other control characters (`Text.decodeEscapes_quotedPoint`). So a JSON string describes its text and nothing
else (`Descriptor.read_quote`).
-/

set_option autoImplicit false

namespace Mixfix

namespace Text

/-! ## Escapes of JSON -/

/-- The escapes of one letter that JSON has are escapes, but for the one of a slash. -/
theorem letterEscape?_of_json {e c : CodePoint} (h : Json.letterEscape? e = some c) (hslash : e ≠ '/') :
    letterEscape? e = some c := by
  unfold Json.letterEscape? at h
  split_ifs at h with hself hb hf hn hr ht
  · cases h
    simp only [Bool.or_eq_true, decide_eq_true_eq] at hself
    rcases hself with (rfl | rfl) | rfl
    · rfl
    · rfl
    · exact absurd rfl hslash
  all_goals
    subst_vars
    exact h

/-- The escape with the number of a control character. -/
theorem decodeEscapes_unitEscape {c : CodePoint} (h : c.val < 0x20) (s : Text) :
    decodeEscapes (Json.unitEscape c.val ++ s) = c :: decodeEscapes s := by
  have hall : ∀ n < 0x20,
      (hex false 4 n).all CodePoint.isHexDigit = true ∧ ofHexDigits (hex false 4 n) = .ofNat n := by
    decide
  obtain ⟨hdigits, hvalue⟩ := hall c.val h
  obtain ⟨h₁, h₂, h₃, h₄, hhex⟩ : ∃ h₁ h₂ h₃ h₄, hex false 4 c.val = [h₁, h₂, h₃, h₄] := ⟨_, _, _, _, rfl⟩
  have hpoint : CodePoint.ofNat c.val = c := dif_pos c.isLt
  rw [hhex] at hdigits hvalue
  rw [Json.unitEscape, hhex]
  change decodeEscapes (CodePoint.ofChar '\\' :: CodePoint.ofChar 'u' :: h₁ :: h₂ :: h₃ :: h₄ :: s) = _
  conv_lhs => unfold decodeEscapes
  rw [if_pos rfl]
  dsimp only
  rw [show letterEscape? (CodePoint.ofChar 'u') = none from rfl]
  dsimp only
  rw [if_neg (by decide), if_pos rfl, if_pos hdigits, hvalue, hpoint]

/-- What a JSON string writes for a code point is decoded to it. -/
theorem decodeEscapes_quotedPoint (c : CodePoint) (s : Text) :
    decodeEscapes (Json.quotedPoint false c ++ s) = c :: decodeEscapes s := by
  rcases Json.quotedPoint_cases c with ⟨hpoint, -, -, hbackslash⟩ | ⟨e, hpoint, he⟩ | ⟨hpoint, hcontrol⟩
  · rw [hpoint]
    exact decodeEscapes_cons hbackslash s
  · have hslash : e ≠ '/' := by
      rintro rfl
      cases he
      cases hpoint
    rw [hpoint]
    exact decodeEscapes_letter (letterEscape?_of_json he hslash) s
  · rw [hpoint]
    exact decodeEscapes_unitEscape hcontrol s

/-- The text that a JSON string holds is decoded unit by unit. -/
theorem decodeEscapes_flatMap_quotedPoint (s : Text) :
    decodeEscapes (s.flatMap (Json.quotedPoint false)) = s := by
  induction s with
  | nil => rfl
  | cons c s ih => rw [List.flatMap_cons, decodeEscapes_quotedPoint, ih]

end Text

namespace Descriptor

/-! ## JSON strings -/

/-- A JSON string is unquoted to its text. -/
theorem unquote_quote (s : Text) : unquote (Json.quote false s) = s := by
  have hbody : ((Json.quote false s).drop 1).dropLast = s.flatMap (Json.quotedPoint false) :=
    List.dropLast_concat
  rw [unquote, hbody, Text.decodeEscapes_flatMap_quotedPoint]

/-- **A JSON string describes its text**, and nothing else. -/
theorem read_quote (s : Text) : read (Json.quote false s) = .ok (.literal (.str s)) := by
  have htokens : tokenize (Json.quote false s).length (Json.quote false s) = .ok [.quoted (Json.quote false s)] :=
    tokensOf_quote s
  rw [read, htokens]
  change Except.ok (Shape.literal (.str (unquote (Json.quote false s)))) = _
  rw [unquote_quote]

end Descriptor

namespace Terminal

/-- **The schema of a constant is an exact literal.** One schema goes with the text of a constant: wherever the
constant is matched, its node has this schema, and what the schema describes is that text. -/
theorem const_schema_exact (value : Text) :
    ∃ schema : Text, Descriptor.read schema = .ok (.literal (.str value)) ∧
      ∀ (context : Context) (s : Text) (r : Match Node), match? context s (.const value) = .ok (some r) ↔
        ∃ rest : Text, s.trimStart = value ++ rest ∧ r = ⟨.const (.str schema), rest⟩ :=
  ⟨Json.quote false value, Descriptor.read_quote value, fun _ _ _ => match?_const⟩

end Terminal

end Mixfix
