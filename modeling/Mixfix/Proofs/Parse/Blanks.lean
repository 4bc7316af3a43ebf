import Mixfix.Proofs.Parse.Memory

/-!
# Blanks

What a parse does with blanks. Every match reads more than blanks: `matches_advance` says it of all runs of the
engine, of single rules and of terminals, and it is what positions and remembered results rest on.

Blanks before a text change nothing. Every scanner skips them, so a terminal looks at a text only behind its
leading blanks (`Terminal.match?_eq_of_trimStart`). Before a rule has read something, it looks at the text through
its first element, which is a terminal or an operand of a later level, so the induction is on the levels that are
left (`plain_eq_of_trimStart`). This holds of constants and quotation marks that begin with a blank as well: they
are never read.
-/

set_option autoImplicit false

namespace Mixfix

/-- A terminal makes the same of texts that differ in their leading blanks. -/
theorem Terminal.match?_eq_of_trimStart {s t : Text} (h : s.trimStart = t.trimStart) (context : Context)
    (terminal : Terminal) : terminal.match? context s = terminal.match? context t := by
  cases terminal with
  | number => simp only [match?, Scan.number, h]
  | string marks => simp only [match?, Scan.string, h]
  | identifier => simp only [match?, Scan.identifier, h]
  | const value => simp only [match?, Scan.const, h]
  | null | boolean | undefined => simp only [match?, Scan.keyword, Scan.afterWord?, h]

namespace Parse

open Engine

variable {grammar : Grammar} {context : Context}

/-! ## Matches advance -/

/-- A rule that matches as a rule of any level reads more than blanks. -/
theorem rule_leaves (hgrammar : grammar.Consuming) {r : Rule} (hrule : r.Consuming) {level : Nat} {s : Text}
    {found : Found} {progress : Progress} (h : rule grammar context level r s = .ok (found, progress)) :
    Leaves s found := by
  have hattempt : attemptRule grammar context level r s = .ok found := by
    rw [← rule_map_fst, h]
    rfl
  rintro result rfl
  obtain ⟨matched, hmatched, rfl⟩ := matchRule_eq_some.mp hattempt
  exact (matchElements_leaves (plain_leaves hgrammar) hrule.solid hmatched).2 hrule.pattern_ne_nil

/-- **Every match makes progress**: it leaves an end of the text, and more than blanks stand before that. This
holds of parses from any level, with or without progress, of any rule as a rule of any level, and of every
checked terminal. -/
theorem matches_advance {rules : List Rule} (hrules : Admissible rules)
    (hbuilt : ∀ rule ∈ rules, rule.Built) (hbuild : Grammar.build rules = .ok grammar) (context : Context)
    (start : Nat) (s : Text) :
    (∀ result progress, levels grammar context start s = .ok (some result, progress) →
      s.Advances result.rest) ∧
    (∀ result, untracked grammar context start s = .ok (some result) → s.Advances result.rest) ∧
    (∀ r ∈ rules ++ atomRules, ∀ result progress,
      rule grammar context start r s = .ok (some result, progress) → s.Advances result.rest) ∧
    ∀ element : Element, Element.define element.kind element.binding = .ok element →
      ∀ result, element.kind.matchTerminal? context s = .ok (some result) → s.Advances result.rest := by
  have hsolid : ∀ rule ∈ rules, rule.Solid := fun rule hrule => (hbuilt rule hrule).solid
  have hgrammar := hrules.grammar_consuming hsolid hbuild
  refine ⟨fun result progress h => ?_, fun result h => ?_, fun r hr result progress h => ?_,
    fun element helement result h => ?_⟩
  · exact plain_leaves hgrammar (plain_of_levels h) result rfl
  · rw [untracked_eq_plain] at h
    exact plain_leaves hgrammar h result rfl
  · have hconsuming : r.Consuming := by
      rcases List.mem_append.mp hr with hmem | hmem
      · exact hrules.consuming (hsolid r hmem) hmem
      · exact consuming_of_mem_atomRules hmem
    exact rule_leaves hgrammar hconsuming h result rfl
  · have hsolid := Element.kind_ne_of_define helement
    cases hkind : element.kind with
    | terminal t =>
      rw [hkind] at h hsolid
      exact Terminal.match?_advances (fun ht => hsolid (congrArg _ ht)) h
    | subexpression role constraint =>
      rw [hkind] at h
      cases h

/-- A number after a blank, whose point is swallowed. -/
theorem matches_advance_pointed :
    Admissible arithmeticRules ∧ (∀ rule ∈ arithmeticRules, rule.Built) ∧
      Grammar.build arithmeticRules = .ok arithmeticGrammar ∧
      ∃ result progress, levels arithmeticGrammar [] 0 (txt " 5. )") = .ok (some result, progress) ∧
        result.rest = txt " )" ∧ Text.Advances (txt " 5. )") result.rest := by
  have hplain : plain arithmeticGrammar [] 0 (txt " 5. )") =
      .ok (some ⟨.literal (txt "5") (.int 5) (.str (txt "number")), txt " )"⟩) := by rfl
  obtain ⟨progress, hlevels⟩ := levels_of_plain hplain
  have h := matches_advance admissible_arithmeticRules built_of_mem_arithmeticRules build_arithmeticRules [] 0
    (txt " 5. )")
  exact ⟨admissible_arithmeticRules, built_of_mem_arithmeticRules, build_arithmeticRules, _, progress, hlevels, rfl,
    h.1 _ _ hlevels⟩

/-! ## Blanks before a text -/

/-- A rule makes the same of two texts if its first element does. -/
theorem matchRule_eq_of_first {parse : Nat → Text → Except Interruption Found} {index : Nat} {r : Rule}
    {s t : Text} {first : Element} {pattern : List Element} (hpattern : r.pattern = first :: pattern)
    (h : matchElement plainHooks parse context index first.kind s =
      matchElement plainHooks parse context index first.kind t) :
    matchRule plainHooks parse context index r s = matchRule plainHooks parse context index r t := by
  simp only [matchRule, hpattern, matchElements, h]

/-- **Texts that differ in their leading blanks** are parsed alike from every level. -/
theorem plain_eq_of_trimStart (hgrammar : grammar.Consuming) {s t : Text} (h : s.trimStart = t.trimStart)
    (start : Nat) : plain grammar context start s = plain grammar context start t := by
  induction hleft : grammar.length - start using Nat.strongRecOn generalizing start with
  | ind left ih =>
    subst hleft
    rw [plain_eq, plain_eq]
    refine firstSome_congr fun candidate hmem => ?_
    obtain ⟨index, r⟩ := candidate
    obtain ⟨hstart, level, hlevel, hrule⟩ := mem_candidates.mp hmem
    have hindex : index < grammar.length := (List.getElem?_eq_some_iff.mp hlevel).1
    have hconsuming := hgrammar level (List.mem_of_getElem? hlevel) r hrule
    obtain ⟨first, pattern, hpattern⟩ := List.exists_cons_of_ne_nil hconsuming.pattern_ne_nil
    refine matchRule_eq_of_first hpattern ?_
    cases hkind : first.kind with
    | terminal terminal =>
      simp only [matchElement]
      rw [Terminal.match?_eq_of_trimStart h]
    | subexpression role constraint =>
      -- an operand that comes first is parsed from a later level
      have hhead : r.pattern.head?.map Element.kind = some (.subexpression role constraint) := by
        rw [hpattern, List.head?_cons, Option.map_some, hkind]
      have hrole : role = .lhs := Rule.role_of_head hconsuming.grounded hhead
      have hlater := ih (grammar.length - (index + 1)) (by omega) (index + 1) rfl
      simp only [matchElement, hrole, Role.start, hlater]

/-- **Leading blanks never matter.** A parse from any level, with or without progress, gives the same node and
leaves the same text when blanks are put before its text, or it matches neither. -/
theorem levels_after_blanks {rules : List Rule} (hrules : Admissible rules)
    (hbuilt : ∀ rule ∈ rules, rule.Built) (hbuild : Grammar.build rules = .ok grammar) (context : Context)
    (start : Nat) {blanks : Text} (hblanks : blanks.isBlank = true) (s : Text) :
    (levels grammar context start (blanks ++ s)).map Prod.fst = (levels grammar context start s).map Prod.fst ∧
      untracked grammar context start (blanks ++ s) = untracked grammar context start s := by
  have hgrammar := hrules.grammar_consuming (fun rule hrule => (hbuilt rule hrule).solid) hbuild
  have hsame : plain grammar context start (blanks ++ s) = plain grammar context start s :=
    plain_eq_of_trimStart hgrammar (Text.trimStart_append_of_blank hblanks s) start
  rw [levels_map_fst, levels_map_fst, untracked_eq_plain, untracked_eq_plain]
  exact ⟨hsame, hsame⟩

/-- A line break, a tab and a space that does not break, before half of a conditional. -/
theorem levels_after_blanks_condition :
    let blanks : Text := [CodePoint.ofNat 0x0A, CodePoint.ofNat 0x09, CodePoint.ofNat 0xA0]
    let found : Found := some ⟨.literal (txt "true") (.bool true) (.str (txt "boolean")), txt " ? x"⟩
    Admissible standardRules ∧ (∀ rule ∈ standardRules, rule.Built) ∧
      Grammar.build standardRules = .ok standardGrammar ∧ blanks.isBlank = true ∧
      (levels standardGrammar [] 0 (blanks ++ txt "true ? x")).map Prod.fst = .ok found ∧
      untracked standardGrammar [] 0 (blanks ++ txt "true ? x") = .ok found := by
  intro blanks found
  have hblanks : blanks.isBlank = true := by decide
  have hplain : plain standardGrammar [] 0 (txt "true ? x") = .ok found := by rfl
  obtain ⟨hlevels, huntracked⟩ :=
    levels_after_blanks admissible_standardRules built_of_mem_standardRules build_standardRules [] 0 hblanks
      (txt "true ? x")
  rw [levels_map_fst 0 (txt "true ? x"), hplain] at hlevels
  rw [untracked_eq_plain 0 (txt "true ? x"), hplain] at huntracked
  exact ⟨admissible_standardRules, built_of_mem_standardRules, build_standardRules, hblanks, hlevels, huntracked⟩

end Parse

end Mixfix
