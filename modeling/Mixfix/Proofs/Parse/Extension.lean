import Mixfix.Proofs.Grammar.Extension
import Mixfix.Proofs.Parse.Interruption

/-!
# Conservative extensions

A rule that reads a constant which does not stand in a text matches nothing in that text. What it reads
before the constant is given up again, so a grammar with this rule parses the text as the grammar without it
does. The level of a rule can have another index in the larger grammar, and its subexpressions are then
parsed from levels of other indices; but `Grammar.Extends` holds of the levels from there on, and this is
what the parses are compared by (`plain_eq_of_extends`). `parse_extended` says it of rule lists.

What is read before the constant is given up only if that comes to an end. After an empty constant a rule can come
back to itself forever, and then the larger grammar parses no text at all (`not_extended_of_empty`).
-/

set_option autoImplicit false

namespace Mixfix

namespace Parse

open Engine

variable {grammar extended : Grammar} {context : Context}

/-! ## Rules without a match -/

/-- A constant that elements read stands in the text. -/
theorem const_infix_of_matchElements {index : Nat} {pattern : List Element} {element : Element}
    (hmem : element ∈ pattern) {value : Text} (hkind : element.kind = .terminal (.const value)) {s : Text}
    {matched : Match (List Node)}
    (h : matchElements plainHooks (plain grammar context) context index pattern s = .ok (some matched)) :
    value <:+: s := by
  induction pattern generalizing s matched with
  | nil => exact absurd hmem List.not_mem_nil
  | cons first pattern ih =>
    obtain ⟨found, others, hfound, hothers, rfl⟩ := matchElements_cons.mp h
    rcases List.mem_cons.mp hmem with rfl | hmem
    · rw [hkind] at hfound
      obtain ⟨rest, hs, -⟩ := matchElement_const_eq_some.mp hfound
      exact (hs ▸ List.prefix_append value rest).isInfix.trans (List.dropWhile_suffix _).isInfix
    · exact (ih hmem hothers).trans (matchElement_stays hfound).isInfix

/-- **A rule with a constant that does not stand in the text** matches nothing there, and it breaks no parse
of a readable text off. -/
theorem attemptRule_none (hgrammar : grammar.Consuming) (index : Nat) {rule : Rule} {element : Element}
    (hmem : element ∈ rule.pattern) {value : Text} (hkind : element.kind = .terminal (.const value)) {s : Text}
    (hvalue : ¬ value <:+: s) (hs : s.Readable) : attemptRule grammar context index rule s = .ok none := by
  obtain ⟨found, hfound⟩ := exists_attempt hgrammar context index rule hs
  cases found with
  | none => exact hfound
  | some r =>
    obtain ⟨matched, hmatched, -⟩ := matchRule_eq_some.mp hfound
    exact absurd (const_infix_of_matchElements hmem hkind hmatched) hvalue

/-! ## Shifted levels -/

/-- Elements are matched alike at the levels of two grammars, if the subexpression that comes first is parsed
alike, and those further on. -/
theorem matchElements_eq_of_shifted (hgrammar : grammar.Consuming) {pattern : List Element}
    (hsolid : ∀ element ∈ pattern, element.kind ≠ .terminal (.const [])) {i j : Nat} {s : Text}
    (hfirst : ∀ role constraint, pattern.head?.map Element.kind = some (.subexpression role constraint) →
      plain grammar context (role.start i) s = plain extended context (role.start j) s)
    (hparse : ∀ (role : Role) (t : Text), s.Advances t →
      plain grammar context (role.start i) t = plain extended context (role.start j) t) :
    matchElements plainHooks (plain grammar context) context i pattern s =
      matchElements plainHooks (plain extended context) context j pattern s := by
  induction pattern generalizing s with
  | nil => rfl
  | cons element pattern ih =>
    obtain ⟨helement, hpattern⟩ := List.forall_mem_cons.mp hsolid
    have hmatch : matchElement plainHooks (plain grammar context) context i element.kind s =
        matchElement plainHooks (plain extended context) context j element.kind s := by
      cases hkind : element.kind with
      | terminal t => rfl
      | subexpression role constraint =>
        simp only [matchElement]
        rw [hfirst role constraint (by rw [List.head?_cons, Option.map_some, hkind])]
    simp only [matchElements, ← hmatch]
    cases hfound : matchElement plainHooks (plain grammar context) context i element.kind s with
    | error e => simp only [error_bind]
    | ok found =>
      cases found with
      | none => simp only [ok_bind]
      | some first =>
        have hadvances : s.Advances first.rest :=
          matchElement_leaves (plain_leaves hgrammar) helement hfound first rfl
        have hrest := ih hpattern (fun role _ _ => hparse role first.rest hadvances)
          fun role u hu => hparse role u (hu.of_suffix hadvances.suffix)
        simp only [ok_bind, hrest]

/-- A rule is matched alike at the levels of two grammars, if its subexpressions are parsed alike. -/
theorem attemptRule_eq_of_shifted (hgrammar : grammar.Consuming) {rule : Rule} (hrule : rule.Consuming)
    {i j : Nat} {s : Text}
    (hlater : plain grammar context (i + 1) s = plain extended context (j + 1) s)
    (hparse : ∀ (role : Role) (t : Text), s.Advances t →
      plain grammar context (role.start i) t = plain extended context (role.start j) t) :
    attemptRule grammar context i rule s = attemptRule extended context j rule s := by
  have hfirst : ∀ role constraint,
      rule.pattern.head?.map Element.kind = some (.subexpression role constraint) →
      plain grammar context (role.start i) s = plain extended context (role.start j) s := by
    intro role constraint hhead
    rw [Rule.role_of_head hrule.grounded hhead]
    exact hlater
  simp only [attemptRule, matchRule, matchElements_eq_of_shifted hgrammar hrule.solid hfirst hparse]

/-- The first of the levels from a level on, and the levels after it. -/
theorem of_drop_eq_cons {start : Nat} {level : Level} {levels : Grammar}
    (h : grammar.drop start = level :: levels) :
    grammar[start]? = some level ∧ grammar.drop (start + 1) = levels := by
  constructor
  · rw [← List.head?_drop, h]
    rfl
  · rw [← List.tail_drop, h]
    rfl

/-- Nothing is parsed from beyond the last level. -/
theorem plain_of_drop_eq_nil {start : Nat} (h : grammar.drop start = [])
    (s : Text) : plain grammar context start s = .ok none := by
  rw [plain_eq, candidates, h]
  rfl

/-- Levels of two grammars, of which one has a rule that does not match beside the rules of the other, give
the same if what follows them does. -/
theorem plain_eq_of_wider (hgrammar : grammar.Consuming) {i j : Nat}
    {level wider : Level} {rule : Rule} {s : Text} (hlevel : grammar[i]? = some level)
    (hwider : extended[j]? = some wider)
    (hrules : ∀ f : Rule → Except Interruption Found, f rule = .ok none →
      firstSome f wider.rules = firstSome f level.rules)
    (hnone : attemptRule extended context j rule s = .ok none)
    (hlater : plain grammar context (i + 1) s = plain extended context (j + 1) s)
    (hparse : ∀ (role : Role) (t : Text), s.Advances t →
      plain grammar context (role.start i) t = plain extended context (role.start j) t) :
    plain grammar context i s = plain extended context j s := by
  have hfirst : firstSome (fun rule => attemptRule grammar context i rule s) level.rules =
      firstSome (fun rule => attemptRule extended context j rule s) wider.rules := by
    rw [hrules _ hnone]
    refine firstSome_congr fun other hother => ?_
    exact attemptRule_eq_of_shifted hgrammar (hgrammar level (List.mem_of_getElem? hlevel) other hother)
      hlater hparse
  rw [plain_eq_level hlevel, plain_eq_level hwider, hfirst, hlater]

/-- **A rule without a match makes no difference.** Two parses of an end of the text, from levels after
which one grammar is the other with the rule put in, give the same. The induction is on the height of the
parse in the larger grammar, which a level of the rule alone makes lower too. -/
theorem plain_eq_of_extends (hgrammar : grammar.Consuming) {rule : Rule}
    (hextends : Grammar.Extends rule grammar extended) {s : Text}
    (hnone : ∀ index t, t <:+ s → attemptRule extended context index rule t = .ok none) {i j : Nat}
    {t : Text} (ht : t <:+ s) (h : Grammar.Extends rule (grammar.drop i) (extended.drop j)) :
    plain grammar context i t = plain extended context j t := by
  induction hheight : height extended j t using Nat.strong_induction_on generalizing i j t with
  | h n ih =>
    subst hheight
    have hlower : ∀ {i' : Nat} {wider : Level}, extended[j]? = some wider →
        Grammar.Extends rule (grammar.drop i') (extended.drop (j + 1)) →
        plain grammar context i' t = plain extended context (j + 1) t := by
      intro i' wider hwider hlater
      have hj : j < extended.length := (List.getElem?_eq_some_iff.mp hwider).1
      exact ih _ (height_lt_of_later t (Nat.le_refl j) hj) ht hlater rfl
    -- a rule of levels `i` and `j` parses its subexpressions from levels that go on alike as well
    have hparse : Grammar.Extends rule (grammar.drop (i + 1)) (extended.drop (j + 1)) →
        ∀ (role : Role) (u : Text), t.Advances u →
          plain grammar context (role.start i) u = plain extended context (role.start j) u := by
      intro hlater role u hu
      refine ih _ (height_lt_of_shorter hu.length_lt) (hu.suffix.trans ht) ?_ rfl
      cases role with
      | lhs => exact hlater
      | rhs => exact h
      | expr => exact hextends
    generalize hlevels : grammar.drop i = levels at h
    generalize hmore : extended.drop j = more at h
    cases h with
    | nil => rw [plain_of_drop_eq_nil hlevels, plain_of_drop_eq_nil hmore]
    | own hrules h =>
      -- only the index in the larger grammar moves on
      obtain ⟨hwider, rfl⟩ := of_drop_eq_cons hmore
      have hskip : plain extended context j t = plain extended context (j + 1) t := by
        refine plain_eq_next hwider ?_
        rw [hrules]
        exact List.forall_mem_singleton.mpr (hnone j t ht)
      rw [hskip]
      exact hlower hwider (hlevels ▸ h)
    | among hrules hmorerules h =>
      obtain ⟨hlevel, rfl⟩ := of_drop_eq_cons hlevels
      obtain ⟨hwider, rfl⟩ := of_drop_eq_cons hmore
      refine plain_eq_of_wider hgrammar hlevel hwider (fun f hf => ?_) (hnone j t ht)
        (hlower hwider h) (hparse h)
      rw [hrules, hmorerules]
      exact firstSome_insert_of_none hf
    | later level h =>
      obtain ⟨hlevel, rfl⟩ := of_drop_eq_cons hlevels
      obtain ⟨hwider, rfl⟩ := of_drop_eq_cons hmore
      exact plain_eq_of_wider hgrammar hlevel hwider (fun f _ => rfl) (hnone j t ht)
        (hlower hwider h) (hparse h)

/-- **Extensions are conservative**, for rules without an empty constant. A rule that has a constant in its
pattern which does not stand in the text, of any precedence and anywhere among the other rules, leaves the
parse of that text as it is, where there is a match and where there is none. -/
theorem parse_extended {before after : List Rule} {rule : Rule}
    (hrules : Admissible (before ++ rule :: after)) (hsolid : ∀ r ∈ before ++ rule :: after, r.Solid)
    {element : Element} (helement : element ∈ rule.pattern) {value : Text}
    (hkind : element.kind = .terminal (.const value)) {s : Text} (hvalue : ¬ value <:+: s) (hs : s.ShortRuns)
    (context : Context) :
    ∃ grammar extended found, Grammar.build (before ++ after) = .ok grammar ∧
      Grammar.build (before ++ rule :: after) = .ok extended ∧
      grammar.parse context s = .ok found ∧ extended.parse context s = .ok found := by
  have hothers : Admissible (before ++ after) := hrules.remove
  obtain ⟨grammar, hbuild⟩ := Grammar.exists_build hothers
  obtain ⟨extended, hbuild'⟩ := Grammar.exists_build hrules
  have hsublist : (before ++ after).Sublist (before ++ rule :: after) :=
    (List.sublist_cons_self rule after).append_left before
  have hgrammar := hothers.grammar_consuming (fun r hr => hsolid r (hsublist.subset hr)) hbuild
  have hextended := hrules.grammar_consuming hsolid hbuild'
  have hextends := Grammar.build_extends hbuild hbuild'
  have hnone : ∀ index t, t <:+ s → attemptRule extended context index rule t = .ok none := by
    intro index t ht
    refine attemptRule_none hextended index helement hkind (fun h => ?_) (hs.of_suffix ht).readable
    exact hvalue (h.trans ht.isInfix)
  obtain ⟨found, hfound⟩ := exists_found hgrammar context 0 hs.readable
  have hsame : plain grammar context 0 s = plain extended context 0 s :=
    plain_eq_of_extends hgrammar hextends hnone List.suffix_rfl hextends
  refine ⟨grammar, extended, found, hbuild, hbuild', ?_, ?_⟩
  · rw [parse_eq_plain, hfound]
  · rw [parse_eq_plain, ← hsame, hfound]

/-- Conditionals are the first level of the small expression language. In a text without a question mark they
make no difference, although their condition matches. -/
theorem parse_extended_conditional :
    Admissible (conditionalRule :: (standardOperators.map Infix.rule ++ [negationRule])) ∧
      (∀ rule ∈ standardRules, rule.Solid) ∧ ¬ txt "?" <:+: txt "1 + 2 < x" ∧ Text.ShortRuns (txt "1 + 2 < x") ∧
      ∃ grammar found, Grammar.build (standardOperators.map Infix.rule ++ [negationRule]) = .ok grammar ∧
        grammar.parse [] (txt "1 + 2 < x") = .ok found ∧
        standardGrammar.parse [] (txt "1 + 2 < x") = .ok found := by
  have hlist : [] ++ conditionalRule :: (standardOperators.map Infix.rule ++ [negationRule]) =
      standardRules := by
    rw [standardRules, List.nil_append, List.cons_append]
  have hrules : Admissible ([] ++ conditionalRule :: (standardOperators.map Infix.rule ++ [negationRule])) := by
    rw [hlist]
    exact admissible_standardRules
  have helement : ⟨.terminal (.const (txt "?")), none⟩ ∈ conditionalRule.pattern :=
    List.mem_cons_of_mem _ List.mem_cons_self
  have hvalue : ¬ txt "?" <:+: txt "1 + 2 < x" := fun h =>
    absurd (h.subset List.mem_cons_self) (by decide)
  have hruns : Text.ShortRuns (txt "1 + 2 < x") := Text.shortRuns_of_length_le (by decide)
  obtain ⟨grammar, extended, found, hbuild, hextended, hparse, hsame⟩ :=
    parse_extended hrules (hlist ▸ solid_of_mem_standardRules) helement rfl hvalue hruns []
  rw [hlist, build_standardRules] at hextended
  cases hextended
  exact ⟨hrules, solid_of_mem_standardRules, hvalue, hruns, grammar, found, hbuild, hparse, hsame⟩

/-- A rule that comes back to its own level after an empty constant. -/
def echoRule : Rule where
  name := txt "echo"
  pattern := [⟨.terminal (.const []), none⟩, ⟨.subexpression .rhs none, none⟩,
    ⟨.terminal (.const (txt "@")), none⟩]
  precedence := 1
  resultType := .fixed unknownSchema
  configure := none
  eval := none

theorem admissible_echoRule : Admissible [echoRule] where
  defined := List.forall_mem_singleton.mpr (Rule.isDefined_of_draft rfl)
  distinct := List.nodup_singleton _
  grounded := List.forall_mem_singleton.mpr rfl

/-- The atoms parse a number. With a rule that has an empty constant the same parse is endless, although no
mark of this rule stands in the text. -/
theorem not_extended_of_empty :
    Admissible ([] ++ echoRule :: []) ∧ (∀ rule ∈ [echoRule], rule.configure = none) ∧
      ⟨.terminal (.const (txt "@")), none⟩ ∈ echoRule.pattern ∧ ¬ txt "@" <:+: txt "1" ∧
      Text.ShortRuns (txt "1") ∧
      ∃ grammar extended r, Grammar.build [] = .ok grammar ∧ Grammar.build [echoRule] = .ok extended ∧
        grammar.parse [] (txt "1") = .ok (some r) ∧
        extended.parse [] (txt "1") = .error .endlessRecursion := by
  have hbuild : Grammar.build [] = .ok [atomLevel] := rfl
  have hextended : Grammar.build [echoRule] = .ok [⟨some 1, [echoRule]⟩, atomLevel] := rfl
  have hparse : Grammar.parse [atomLevel] [] (txt "1") =
      .ok (some ⟨.literal (txt "1") (.int 1) (.str (txt "number")), []⟩) := by
    rw [parse_eq_plain]
    rfl
  have hendless : Grammar.parse [⟨some 1, [echoRule]⟩, atomLevel] [] (txt "1") =
      .error .endlessRecursion := by
    rw [parse_eq_plain]
    rfl
  have hmark : ¬ txt "@" <:+: txt "1" := fun h => absurd (h.subset List.mem_cons_self) (by decide)
  exact ⟨admissible_echoRule, List.forall_mem_singleton.mpr rfl,
    List.mem_cons_of_mem _ (List.mem_cons_of_mem _ List.mem_cons_self), hmark,
    Text.shortRuns_of_length_le (by decide), _, _, _, hbuild, hextended, hparse, hendless⟩

end Parse

end Mixfix
