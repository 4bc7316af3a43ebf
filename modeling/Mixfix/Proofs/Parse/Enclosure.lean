import Mixfix.Proofs.Parse.Closing
import Mixfix.Proofs.Parse.Infix
import Mixfix.Proofs.Tree.Parsed

/-!
# Parentheses around a text

A text that is parsed to its end is parsed to the same node in parentheses (`plain_enclosed`). What is parsed to its
end is closed, so the parse inside of the parentheses stops before the one that closes (`plain_closing`). On the
outside, the parentheses are parsed at the last level, and the levels before it pass them over: each of their rules
has a mark of its own (`Rule.Marked`), and no mark stands before the parentheses or behind them.

`parse_enclosed` says this of arithmetic and of the small expression language, with what the parentheses come to.
-/

set_option autoImplicit false

namespace Mixfix

/-- A rule of an operator, whose mark comes first or behind its first operand. Its terminals read no
parentheses. -/
structure Rule.Marked (rule : Rule) : Prop where
  plain : ∀ element ∈ rule.pattern, element.kind.isPlain = true
  mark : ∃ before mark binding after, rule.pattern = before ++ ⟨.terminal (.const mark), binding⟩ :: after ∧
    mark ≠ [] ∧ (before = [] ∨ ∃ constraint name, before = [⟨.subexpression .lhs constraint, name⟩])

/-- The rules of operators have marks of their own, where their marks are neither empty nor parentheses. -/
theorem Infix.marked_rule {op : Infix}
    (h : txt op.mark ≠ [] ∧ (txt op.mark).all CodePoint.isPlain = true) : op.rule.Marked where
  plain := by
    simp only [Infix.rule, List.forall_mem_cons]
    exact ⟨rfl, h.2, rfl, List.forall_mem_nil _⟩
  mark := ⟨[_], txt op.mark, none, [_], rfl, h.1, .inr ⟨_, _, rfl⟩⟩

theorem marked_of_mem_arithmeticRules {rule : Rule} (h : rule ∈ arithmeticRules) : rule.Marked := by
  obtain ⟨op, hop, rfl⟩ := List.mem_map.mp h
  have hmarks : ∀ op ∈ sums 1 ++ products 2,
      txt op.mark ≠ [] ∧ (txt op.mark).all CodePoint.isPlain = true := by decide
  exact Infix.marked_rule (hmarks op hop)

theorem marked_of_mem_standardRules {rule : Rule} (h : rule ∈ standardRules) : rule.Marked := by
  rcases mem_standardRules.mp h with rfl | ⟨op, hop, rfl⟩ | rfl
  · exact ⟨by decide, [_], txt "?", none, _, rfl, by decide, .inr ⟨_, _, rfl⟩⟩
  · have hmarks : ∀ op ∈ standardOperators,
        txt op.mark ≠ [] ∧ (txt op.mark).all CodePoint.isPlain = true := by decide
    exact Infix.marked_rule (hmarks op hop)
  · exact ⟨by decide, [], txt "!", none, _, rfl, by decide, .inl rfl⟩

namespace Parse

open Engine Text

variable {grammar : Grammar} {context : Context} {s t : Text}

/-! ## Around the parentheses -/

/-- A rule with a mark does not match parentheses behind which nothing stands. -/
theorem attemptRule_parentheses_none {index : Nat} {rule : Rule} (hrule : rule.Marked)
    (hs : s.trimStart = txt "(" ++ t) {node : Node}
    (hoperand : plain grammar context (index + 1) s = .ok (some ⟨node, []⟩)) :
    attemptRule grammar context index rule s = .ok none := by
  obtain ⟨before, mark, binding, after, hpattern, hne, hbefore⟩ := hrule.mark
  obtain ⟨c, mark, rfl⟩ := List.exists_cons_of_ne_nil hne
  refine matchRule_none ?_
  rw [hpattern]
  rcases hbefore with rfl | ⟨constraint, name, rfl⟩
  · refine matchElements_cons_none (matchElement_const_none (Scan.const_eq_none.mpr fun rest hrest => ?_))
    have hopening : txt "(" ++ t = c :: mark ++ rest := hs ▸ hrest
    have hplain : (c :: mark).all CodePoint.isPlain = true :=
      hrule.plain ⟨.terminal (.const (c :: mark)), binding⟩ (hpattern ▸ List.mem_cons_self)
    rw [List.all_cons, Bool.and_eq_true] at hplain
    obtain ⟨rfl, -⟩ := List.cons.inj hopening
    exact absurd hplain.1 (by decide)
  · cases hmeets : meets constraint node with
    | false => exact matchElements_cons_none (matchElement_subexpression_none hoperand hmeets)
    | true =>
      have hend : Scan.const (c :: mark) [] = none := Scan.const_eq_none.mpr fun rest hrest => by cases hrest
      exact matchElements_cons_rest_none (matchElement_subexpression.mpr ⟨hoperand, hmeets⟩)
        (matchElements_cons_none (matchElement_const_none hend))

/-- Parentheses behind which nothing stands are passed on by the levels of operators before the last one. -/
theorem plain_of_last {last : Nat}
    (hlevels : ∀ index < last, ∃ level, grammar[index]? = some level ∧ ∀ rule ∈ level.rules, rule.Marked)
    (hs : s.trimStart = txt "(" ++ t) {node : Node}
    (hlast : plain grammar context last s = .ok (some ⟨node, []⟩)) {start : Nat} (hstart : start ≤ last) :
    plain grammar context start s = .ok (some ⟨node, []⟩) := by
  induction hstart using Nat.decreasingInduction with
  | self => exact hlast
  | of_succ index hindex ih =>
    obtain ⟨level, hlevel, hmarked⟩ := hlevels index hindex
    rw [plain_eq_next hlevel fun rule hrule => attemptRule_parentheses_none (hmarked rule hrule) hs ih]
    exact ih

/-- **Parentheses around a text that is parsed to its end** are parsed from every level, for rules that have marks
of their own: to the node of the parentheses, with nothing left. -/
theorem plain_enclosed {rules : List Rule} (hgrammar : grammar.Consuming) (hmarked : ∀ rule ∈ rules, rule.Marked)
    (hbuild : Grammar.build rules = .ok grammar) {r : Match Node}
    (hparse : plain grammar context 0 s = .ok (some r)) (hrest : r.rest.isBlank = true) {start : Nat}
    (hstart : start < grammar.length) :
    plain grammar context start (txt "(" ++ s ++ txt ")") = .ok (some ⟨parenthesesNode r.value, []⟩) := by
  have hpaired : grammar.Paired := Grammar.paired_of_build hbuild fun rule hrule => .inr (hmarked rule hrule).plain
  have hclosed : s.Closed := .blank (plain_balanced hpaired hparse) hrest
  -- inside, the parse goes on to the parenthesis that closes
  have hinside : plain grammar context 0 (s ++ txt ")") = .ok (some (r.append (txt ")"))) := by
    rw [plain_closing hgrammar hpaired hclosed 0, hparse]
    rfl
  have hclosing : (r.append (txt ")")).rest.trimStart = txt ")" ++ [] := trimStart_append_of_blank hrest (txt ")")
  have hopening : (txt "(" ++ s ++ txt ")").trimStart = txt "(" ++ (s ++ txt ")") := rfl
  -- outside, the levels before the last pass the parentheses on
  obtain ⟨last, hatoms, hlength, hlevels⟩ := Grammar.exists_last hbuild
  have hlast := plain_parentheses hatoms hopening hinside hclosing
  refine plain_of_last (fun index hindex => ?_) hopening hlast (by omega)
  obtain ⟨level, hlevel, hmem⟩ := hlevels index hindex
  exact ⟨level, hlevel, fun rule hrule => hmarked rule (hmem rule hrule)⟩

/-! ## The ready-made rules -/

/-- **To put a text in parentheses is transparent.** In arithmetic and in the small expression language, if a text is
parsed and only blanks are left, then the text in parentheses is parsed to its end. The node holds that of the text
and nothing else, has its schema unless that is empty, and comes to the same for all data, whatever checks them. -/
theorem parse_enclosed [Checker] {rules : List Rule} (hrules : rules = arithmeticRules ∨ rules = standardRules)
    (hbuild : Grammar.build rules = .ok grammar) {node : Node} {rest : Text}
    (hparse : grammar.parse context s = .ok (some ⟨node, rest⟩)) (hrest : rest.isBlank = true) :
    ∃ schema : Text, node.schema = .str schema ∧
      let enclosed : Node := .composite (txt "parentheses")
        (.str (if schema = [] then unknownSchema else schema)) [(txt "inner", .node node)]
      grammar.parse context (txt "(" ++ s ++ txt ")") = .ok (some ⟨enclosed, []⟩) ∧
        ∀ data : Fields, evaluate rules data (.node enclosed) = evaluate rules data (.node node) := by
  have hadmissible : Admissible rules := by
    rcases hrules with rfl | rfl
    · exact admissible_arithmeticRules
    · exact admissible_standardRules
  have hsolid : ∀ rule ∈ rules, rule.Solid := by
    rcases hrules with rfl | rfl
    · exact solid_of_mem_arithmeticRules
    · exact solid_of_mem_standardRules
  have hmarked : ∀ rule ∈ rules, rule.Marked := by
    rcases hrules with rfl | rfl
    · exact fun _ => marked_of_mem_arithmeticRules
    · exact fun _ => marked_of_mem_standardRules
  have hconfigure : ∀ rule ∈ rules, rule.configure = none := by
    rcases hrules with rfl | rfl
    · exact fun _ => configure_of_mem_arithmeticRules
    · exact fun _ => configure_of_mem_standardRules
  have hfree : ∀ rule ∈ rules, ∀ name ∈ rule.bindingNames, Tree.isReserved name = false := by
    rcases hrules with rfl | rfl
    all_goals decide
  obtain ⟨schema, hschema⟩ := (parsed hadmissible hconfigure hfree hbuild hparse).exists_schema
  have hgrammar := hadmissible.grammar_consuming hsolid hbuild
  obtain ⟨last, -, hlength, -⟩ := Grammar.exists_last hbuild
  refine ⟨schema, hschema, ?_, fun data => rfl⟩
  rw [parse_eq_plain] at hparse ⊢
  rw [plain_enclosed hgrammar hmarked hbuild hparse hrest (by omega), parenthesesNode, hschema]
  cases schema with
  | nil => rfl
  | cons c schema => rfl

/-- A difference whose last point is swallowed, and a blank. -/
theorem parse_enclosed_difference :
    Grammar.build arithmeticRules = .ok arithmeticGrammar ∧
      ∃ node, arithmeticGrammar.parse [] (txt "2 - 1. ") = .ok (some ⟨node, txt " "⟩) ∧
        Text.isBlank (txt " ") = true ∧
        arithmeticGrammar.parse [] (txt "(2 - 1. )") =
          .ok (some ⟨.composite (txt "parentheses") (.str (txt "number")) [(txt "inner", .node node)], []⟩) := by
  have hparse : plain arithmeticGrammar [] 0 (txt "2 - 1. ") = .ok (some
      ⟨.composite (txt "sub") (.str (txt "number"))
        [(txt "left", .node (.literal (txt "2") (.int 2) (.str (txt "number")))),
          (txt "right", .node (.literal (txt "1") (.int 1) (.str (txt "number"))))], txt " "⟩) := by rfl
  rw [← parse_eq_plain] at hparse
  have hblank : Text.isBlank (txt " ") = true := by decide
  obtain ⟨schema, hschema, henclosed, -⟩ := parse_enclosed (.inl rfl) build_arithmeticRules hparse hblank
  cases hschema
  exact ⟨build_arithmeticRules, _, hparse, hblank, henclosed⟩

end Parse

end Mixfix
