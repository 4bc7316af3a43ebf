import Mixfix.Parse.Terminal
import Mixfix.Proofs.Except
import Mixfix.Proofs.Token

/-!
# Terminals advance

A terminal that matches reads something, unless it is the empty constant, which no checked element is. Which
texts a constant matches, and to what, is said of all of them at once (`Terminal.match?_const`).
-/

set_option autoImplicit false

namespace Mixfix

namespace Terminal

/-- The literal of a token leaves what the token leaves. -/
theorem advances_of_literal {s schema : Text} {found : Option Token} {r : Match Node}
    (hfound : ∀ token, found = some token → s.Advances token.rest)
    (h : found.map (literal schema) = some r) : s.Advances r.rest := by
  obtain ⟨token, htoken, rfl⟩ := Option.map_eq_some_iff.mp h
  exact hfound token htoken

/-- A terminal that matches advances. -/
theorem match?_advances {context : Context} {s : Text} {t : Terminal} {r : Match Node}
    (ht : t ≠ .const []) (h : t.match? context s = .ok (some r)) : s.Advances r.rest := by
  cases t with
  | number =>
    obtain ⟨found, hf, h⟩ := bind_eq_ok.mp h
    exact advances_of_literal (fun token ht => Scan.advances_of_number (ht ▸ hf)) (Except.ok.inj h)
  | string marks =>
    exact advances_of_literal (fun token ht => Scan.advances_of_string ht) (Except.ok.inj h)
  | identifier =>
    obtain ⟨token, hf, rfl⟩ := Option.map_eq_some_iff.mp (Except.ok.inj h)
    exact Scan.advances_of_identifier hf
  | const value =>
    obtain ⟨token, hf, rfl⟩ := Option.map_eq_some_iff.mp (Except.ok.inj h)
    exact Scan.advances_of_const (by simpa using ht) hf
  | null => exact advances_of_literal (fun token ht => Scan.advances_of_keyword ht) (Except.ok.inj h)
  | boolean =>
    refine advances_of_literal (fun token ht => ?_) (Except.ok.inj h)
    rcases Option.or_eq_some_iff.mp ht with hf | ⟨-, hf⟩
    · exact Scan.advances_of_keyword hf
    · exact Scan.advances_of_keyword hf
  | undefined =>
    exact advances_of_literal (fun token ht => Scan.advances_of_keyword ht) (Except.ok.inj h)

/-- A constant is matched where its text stands after blanks. -/
theorem match?_const {context : Context} {s value : Text} {r : Match Node} :
    match? context s (.const value) = .ok (some r) ↔
      ∃ rest : Text, s.trimStart = value ++ rest ∧ r = ⟨constNode value, rest⟩ := by
  constructor
  · intro h
    obtain ⟨token, htoken, rfl⟩ := Option.map_eq_some_iff.mp (Except.ok.inj h)
    obtain ⟨rest, hs, rfl⟩ := Scan.const_eq_some.mp htoken
    exact ⟨rest, hs, rfl⟩
  · rintro ⟨rest, hs, rfl⟩
    rw [match?, Scan.const_eq_some.mpr ⟨rest, hs, rfl⟩]
    rfl

/-- What a terminal leaves is an end of the text, also where it reads nothing. -/
theorem match?_suffix {context : Context} {s : Text} {t : Terminal} {r : Match Node}
    (h : t.match? context s = .ok (some r)) : r.rest <:+ s := by
  by_cases ht : t = .const []
  · subst ht
    obtain ⟨rest, hs, rfl⟩ := match?_const.mp h
    exact Text.suffix_of_trimStart hs
  · exact (match?_advances ht h).suffix

end Terminal

end Mixfix
