import Mixfix.Outcome
import Mixfix.Proofs.Parse.Interruption

/-!
# What a parse with diagnostics comes to

A parse with diagnostics gives up blank text before it parses anything. Nothing is lost by that where no rule has
an empty constant, since every match reads something then that is not blank (`Parse.plain_of_isBlank`). Any
other text has the result of the silent parse, or a diagnostic where that matches nothing. There is one
lemma for each way that a parse with diagnostics takes, and `parseOutcome_agrees` collects them.

A rule of an empty constant matches blank text, and there the two parses differ (`parseOutcome_disagrees_of_empty`).
-/

set_option autoImplicit false

namespace Mixfix

/-- **No consuming grammar matches blank text**, whatever blanks its constants and quotation marks have in them. -/
theorem Parse.plain_of_isBlank {grammar : Grammar} (hgrammar : grammar.Consuming) (context : Context)
    (start : Nat) {s : Text} (h : s.isBlank = true) : plain grammar context start s = .ok none := by
  obtain ⟨found, hfound⟩ := exists_found hgrammar context start (Text.readable_of_isBlank h)
  cases found with
  | none => exact hfound
  | some r =>
    have hadvances : s.Advances r.rest := plain_leaves hgrammar hfound r rfl
    rw [hadvances.not_isBlank] at h
    cases h

namespace Grammar

variable {grammar : Grammar} {context : Context} {settings : Settings} {s : Text}

theorem parseOutcome_of_isBlank (h : s.isBlank = true) :
    grammar.parseOutcome context settings s = .ok ⟨s, .error (.emptyInput s settings)⟩ := by
  simp only [parseOutcome, h, if_true]
  rfl

theorem parseOutcome_of_match (hblank : s.isBlank = false) {r : Match Node}
    (h : grammar.parse context s = .ok (some r)) :
    grammar.parseOutcome context settings s = .ok ⟨s, .ok r⟩ := by
  simp only [parseOutcome, hblank, h, ok_bind]
  rfl

/-- Where nothing matches, a second parse tells how far the terminals came. It is not broken off, since the
first was not. -/
theorem parseOutcome_of_none (hblank : s.isBlank = false)
    (h : grammar.parse context s = .ok none) :
    ∃ progress, Parse.levels grammar context 0 s = .ok (none, progress) ∧
      grammar.parseOutcome context settings s =
        .ok ⟨s, .error (.noMatch s (failureOffset s progress.furthest) settings)⟩ := by
  rw [Parse.parse_eq_plain] at h
  obtain ⟨progress, hlevels⟩ := Parse.levels_of_plain h
  refine ⟨progress, hlevels, ?_⟩
  simp only [parseOutcome, hblank, Parse.parse_eq_plain, h, hlevels, ok_bind]
  rfl

/-- **The two parses agree**, for rules without an empty constant. Of a text without long runs of digits, the
parse with diagnostics gives the match that the silent parse finds. Where that finds none there is a diagnostic,
of empty input for blank text and of no match for any other. -/
theorem parseOutcome_agrees {rules : List Rule} (hrules : Admissible rules)
    (hsolid : ∀ rule ∈ rules, rule.Solid) (hs : s.ShortRuns) (context : Context) (settings : Settings) :
    ∃ grammar found outcome, build rules = .ok grammar ∧ grammar.parse context s = .ok found ∧
      grammar.parseOutcome context settings s = .ok outcome ∧ outcome.input = s ∧
      (s.isBlank = true → found = none) ∧
      match found with
      | some r => outcome.result = .ok r
      | none => ∃ diagnostic, outcome.result = .error diagnostic ∧
          diagnostic.kind = if s.isBlank then .emptyInput else .noMatch := by
  obtain ⟨grammar, hbuild⟩ := exists_build hrules
  have hgrammar := hrules.grammar_consuming hsolid hbuild
  have hparse : grammar.parse context s = Parse.plain grammar context 0 s := Parse.parse_eq_plain s
  cases hblank : s.isBlank with
  | true =>
    rw [Parse.plain_of_isBlank hgrammar context 0 hblank] at hparse
    exact ⟨grammar, none, _, hbuild, hparse, parseOutcome_of_isBlank hblank, rfl, fun _ => rfl, _, rfl, rfl⟩
  | false =>
    obtain ⟨found, hfound⟩ := Parse.exists_found hgrammar context 0 hs.readable
    rw [hfound] at hparse
    cases found with
    | some r =>
      exact ⟨grammar, some r, _, hbuild, hparse, parseOutcome_of_match hblank hparse, rfl, nofun, rfl⟩
    | none =>
      obtain ⟨progress, -, houtcome⟩ := parseOutcome_of_none hblank hparse
      exact ⟨grammar, none, _, hbuild, hparse, houtcome, rfl, nofun, _, rfl, rfl⟩

/-- An open parenthesis and half of a sum, of which nothing matches. -/
theorem parseOutcome_agrees_parenthesis :
    Admissible arithmeticRules ∧ (∀ rule ∈ arithmeticRules, rule.Solid) ∧ Text.ShortRuns (txt "(1 +") ∧
      arithmeticGrammar.parse [] (txt "(1 +") = .ok none ∧
      ∃ outcome diagnostic,
        arithmeticGrammar.parseOutcome [] .standard (txt "(1 +") = .ok outcome ∧
        outcome.result = .error diagnostic ∧ diagnostic.kind = .noMatch := by
  have hruns : Text.ShortRuns (txt "(1 +") := Text.shortRuns_of_length_le (by decide)
  have hnone : (arithmeticGrammar.parse [] (txt "(1 +")).toOption.join.isNone = true := by
    rw [Parse.parse_eq_plain]
    decide +kernel
  obtain ⟨grammar, found, outcome, hbuild, hparse, houtcome, -, -, hresult⟩ :=
    parseOutcome_agrees admissible_arithmeticRules solid_of_mem_arithmeticRules hruns [] .standard
  rw [build_arithmeticRules] at hbuild
  cases hbuild
  rw [hparse] at hnone
  cases found with
  | some r => cases hnone
  | none =>
    obtain ⟨diagnostic, hdiagnostic, hkind⟩ := hresult
    have hblank : Text.isBlank (txt "(1 +") = false := by decide
    rw [hblank] at hkind
    exact ⟨admissible_arithmeticRules, solid_of_mem_arithmeticRules, hruns, hparse, outcome, diagnostic,
      houtcome, hdiagnostic, hkind⟩

/-- A rule of an empty constant, which a definition takes as it is given. -/
def emptyConstantRule : Rule where
  name := txt "nothing"
  pattern := [⟨.terminal (.const []), none⟩]
  precedence := 1
  resultType := .fixed unknownSchema
  configure := none
  eval := none

theorem admissible_emptyConstantRule : Admissible [emptyConstantRule] where
  defined := List.forall_mem_singleton.mpr (Rule.isDefined_of_draft rfl)
  distinct := List.nodup_singleton _
  grounded := List.forall_mem_singleton.mpr rfl

theorem build_emptyConstantRule :
    Grammar.build [emptyConstantRule] = .ok [⟨some 1, [emptyConstantRule]⟩, atomLevel] := rfl

/-- The rule matches the empty text, in front of any atom. -/
theorem parse_emptyConstantRule :
    Grammar.parse [⟨some 1, [emptyConstantRule]⟩, atomLevel] [] [] =
      .ok (some ⟨Terminal.constNode [], []⟩) := by
  rw [Parse.parse_eq_plain]
  rfl

/-- An empty constant matches the empty text, which the parse with diagnostics gives up. -/
theorem parseOutcome_disagrees_of_empty :
    Admissible [emptyConstantRule] ∧ (∀ rule ∈ [emptyConstantRule], rule.configure = none) ∧
      Text.ShortRuns [] ∧
      ∃ grammar r diagnostic, Grammar.build [emptyConstantRule] = .ok grammar ∧
        grammar.parse [] [] = .ok (some r) ∧
        grammar.parseOutcome [] .standard [] = .ok ⟨[], .error diagnostic⟩ :=
  ⟨admissible_emptyConstantRule, List.forall_mem_singleton.mpr rfl, Text.shortRuns_of_length_le (Nat.zero_le _),
    _, _, _, build_emptyConstantRule, parse_emptyConstantRule, parseOutcome_of_isBlank rfl⟩

end Grammar

end Mixfix
