import Mixfix.Proofs.Parse.Leaves
import Mixfix.Proofs.Parse.Memory

/-!
# Words

Keywords and identifiers are written in the same code points, and no scanner tells them apart on its own: the
scanner of identifiers reads `null` as well. It is the order of the atoms that does. Where the terminal of
identifiers is tried, those of the keywords have refused, so no keyword stands there (`Parse.ne_text_of_within`).

Either scanner goes on to the end of a word: that of identifiers takes all that continues one, and that of keywords
refuses a word that goes on (`Terminal.begins_of_isWord`).
-/

set_option autoImplicit false

namespace Mixfix

/-- A node that a word makes: an identifier, or a literal with the value of a keyword. -/
def Node.IsWord : Node → Prop
  | .identifier _ _ => True
  | .literal _ value _ => ∃ k : Keyword, value = k.value
  | _ => False

namespace Terminal

variable {context : Context} {s rest : Text} {t : Terminal}

/-- Only the terminal of identifiers makes one, of a name that stands at the front. -/
theorem eq_identifier_of_match? {name : Text} {schema : Value}
    (h : t.match? context s = .ok (some ⟨.identifier name schema, rest⟩)) :
    t = .identifier ∧ s.trimStart = name ++ rest ∧ rest.begins CodePoint.continuesIdentifier = false := by
  cases matches_of_match? h with
  | identifier _ hs hrest => exact ⟨rfl, hs, hrest⟩

/-- **Words are whole**: whichever terminal makes a word of a text, the word does not go on in what is left. -/
theorem begins_of_isWord {r : Match Node} (h : t.match? context s = .ok (some r)) (hword : r.value.IsWord) :
    r.rest.begins CodePoint.continuesIdentifier = false := by
  cases matches_of_match? h with
  | number n _ _ _ =>
    obtain ⟨k, hk⟩ : ∃ k : Keyword, n.value = k.value := hword
    unfold Numeral.value at hk
    split at hk
    · cases k <;> cases hk
    · cases k <;> cases hk
  | @string _ _ _ raw _ _ _ _ =>
    obtain ⟨k, hk⟩ : ∃ k : Keyword, Value.str raw.decodeEscapes = k.value := hword
    cases k <;> cases hk
  | keyword _ _ hrest => exact hrest
  | identifier _ _ hrest => exact hrest
  | const => exact hword.elim

end Terminal

/-- A rule keeps the match of an element of its pattern. -/
theorem Rule.Keeps.exists_element {rule : Rule} {t : Terminal} (h : rule.Keeps t) :
    ∃ element ∈ rule.pattern, element.kind = .terminal t := by
  rcases h with ⟨name, hmem⟩ | hpattern
  · exact ⟨_, hmem, rfl⟩
  · exact ⟨⟨.terminal t, none⟩, by rw [hpattern]; exact List.mem_cons_self, rfl⟩

namespace Parse

open Engine

variable {grammar : Grammar} {rules : List Rule} {context : Context} {s : Text}

/-- **No identifier in a parsed tree is a keyword**, if no rule has an identifier for an element. -/
theorem ne_text_of_within (hrules : Admissible rules) (hconfigure : ∀ rule ∈ rules, rule.configure = none)
    (hatoms : ∀ rule ∈ rules, ∀ element ∈ rule.pattern, element.kind ≠ .terminal .identifier)
    (hbuild : Grammar.build rules = .ok grammar) {start : Nat} {r : Match Node}
    (h : plain grammar context start s = .ok (some r)) {name : Text} {schema : Value}
    (hwithin : (Node.identifier name schema).Within r.value) (k : Keyword) : name ≠ k.text := by
  obtain ⟨t, s', rest, hmatch, hdecided⟩ := leaf_decided hrules hconfigure hbuild h rfl hwithin
  obtain ⟨rfl, hs, hrest⟩ := Terminal.eq_identifier_of_match? hmatch
  rcases hdecided with ⟨before, hfront, hnone⟩ | ⟨rule, hrule, hkeeps⟩
  · exact Scan.ne_text_of_keyword_none hs hrest (keyword_none_of_atoms hfront hnone) k
  · obtain ⟨element, helement, hkind⟩ := hkeeps.exists_element
    exact absurd hkind (hatoms rule hrule element helement)

/-- **A word that the last level parses is whole.** -/
theorem begins_of_last (hbuild : Grammar.build rules = .ok grammar) {r : Match Node}
    (h : plain grammar context (grammar.length - 1) s = .ok (some r)) (hword : r.value.IsWord) :
    r.rest.begins CodePoint.continuesIdentifier = false := by
  obtain ⟨last, hlast, hlength, -⟩ := Grammar.exists_last hbuild
  have hlevel : grammar.length - 1 = last := by omega
  -- a parse with fuel tries the candidates of its level, which are the atoms
  change firstSome _ (candidates grammar (grammar.length - 1)) = _ at h
  rw [hlevel, candidates_last hlast hlength] at h
  rcases atoms_eq_some h with ⟨before, t, -, -, hmatch⟩ | ⟨t, rest, inner, -, -, -, rfl⟩
  · exact Terminal.begins_of_isWord hmatch hword
  · exact hword.elim

/-! ## Whole parses -/

/-- **Keywords are never variables, and names are never cut.** If no rule has an identifier for an element, then
no identifier in the tree of a parse has the name of a keyword, and where the last level alone gives a word, the
word does not go on in the text that is left. -/
theorem words_whole_and_free (hrules : Admissible rules) (hconfigure : ∀ rule ∈ rules, rule.configure = none)
    (hatoms : ∀ rule ∈ rules, ∀ element ∈ rule.pattern, element.kind ≠ .terminal .identifier)
    (hbuild : Grammar.build rules = .ok grammar) (context : Context) (s : Text) :
    (∀ r, grammar.parse context s = .ok (some r) →
      ∀ name schema, (Node.identifier name schema).Within r.value → ∀ k : Keyword, name ≠ k.text) ∧
    ∀ r progress, levels grammar context (grammar.length - 1) s = .ok (some r, progress) →
      r.value.IsWord → r.rest.begins CodePoint.continuesIdentifier = false := by
  constructor
  · intro r hparse name schema hwithin
    rw [parse_eq_plain] at hparse
    exact ne_text_of_within hrules hconfigure hatoms hbuild hparse hwithin
  · intro r progress hlevels hword
    exact begins_of_last hbuild (plain_of_levels hlevels) hword

/-- A condition whose name begins with a keyword. -/
theorem words_whole_and_free_condition :
    ∃ (r first : Match Node) (progress : Progress),
      standardGrammar.parse [(txt "truest", txt "boolean")] (txt "truest ? null : x") = .ok (some r) ∧
      (∀ name schema, (Node.identifier name schema).Within r.value → ∀ k : Keyword, name ≠ k.text) ∧
      levels standardGrammar [(txt "truest", txt "boolean")] (standardGrammar.length - 1)
        (txt "truest ? null : x") = .ok (some first, progress) ∧
      first.value.IsWord ∧ first.rest.begins CodePoint.continuesIdentifier = false := by
  have hatoms : ∀ rule ∈ standardRules, ∀ element ∈ rule.pattern, element.kind ≠ .terminal .identifier := by
    decide
  obtain ⟨hfree, hwhole⟩ := words_whole_and_free admissible_standardRules
    (fun _ => configure_of_mem_standardRules) hatoms build_standardRules [(txt "truest", txt "boolean")]
    (txt "truest ? null : x")
  have hparse : plain standardGrammar [(txt "truest", txt "boolean")] 0 (txt "truest ? null : x") = .ok (some
      ⟨.composite (txt "ternary") (.str (txt "null"))
        [(txt "condition", .node (.identifier (txt "truest") (.str (txt "boolean")))),
          (txt "then", .node (.literal (txt "null") .null (.str (txt "null")))),
          (txt "otherwise", .node (.identifier (txt "x") (.str (txt "unknown"))))], []⟩) := by rfl
  rw [← parse_eq_plain] at hparse
  have hfirst : plain standardGrammar [(txt "truest", txt "boolean")] (standardGrammar.length - 1)
      (txt "truest ? null : x") =
      .ok (some ⟨.identifier (txt "truest") (.str (txt "boolean")), txt " ? null : x"⟩) := by rfl
  obtain ⟨progress, hlevels⟩ := levels_of_plain hfirst
  exact ⟨_, _, progress, hparse, hfree _ hparse, hlevels, trivial, hwhole _ progress hlevels trivial⟩

end Parse

end Mixfix
