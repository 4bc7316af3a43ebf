import Mixfix.Grammar.Builtin
import Mixfix.Proofs.Grammar

/-!
# The ready-made rules are admissible

The rules of arithmetic and those of the small expression language are defined rules of distinct names
that begin with operands of tighter levels. `arithmeticGrammar` and `standardGrammar` are the grammars that
are built of them.
-/

set_option autoImplicit false

namespace Mixfix

/-- The elements of an operator's rule are checked ones, unless its mark is empty. -/
theorem Infix.rule_built {op : Infix}
    (hmark : Element.define (.terminal (.const (txt op.mark))) none =
      .ok ⟨.terminal (.const (txt op.mark)), none⟩) : op.rule.Built := by
  simp only [Rule.Built, Infix.rule, List.forall_mem_cons]
  exact ⟨rfl, hmark, rfl, List.forall_mem_nil _⟩

/-! ## Arithmetic -/

/-- The rules of arithmetic are admissible. -/
theorem admissible_arithmeticRules : Admissible arithmeticRules where
  defined := by
    intro rule h
    simp only [arithmeticRules, sums, products, List.cons_append, List.nil_append, List.map_cons,
      List.map_nil, List.mem_cons, List.not_mem_nil, or_false] at h
    rcases h with rfl | rfl | rfl | rfl | rfl
    all_goals exact Rule.isDefined_of_draft rfl
  distinct := by decide
  grounded := by
    intro rule h
    obtain ⟨op, -, rfl⟩ := List.mem_map.mp h
    rfl

/-- Their elements are checked ones. -/
theorem built_of_mem_arithmeticRules : ∀ rule ∈ arithmeticRules, rule.Built := by
  simp only [arithmeticRules, sums, products, List.cons_append, List.nil_append, List.map_cons,
    List.map_nil, List.forall_mem_cons]
  exact ⟨Infix.rule_built rfl, Infix.rule_built rfl, Infix.rule_built rfl, Infix.rule_built rfl,
    Infix.rule_built rfl, List.forall_mem_nil _⟩

theorem solid_of_mem_arithmeticRules (rule : Rule) (h : rule ∈ arithmeticRules) : rule.Solid :=
  (built_of_mem_arithmeticRules rule h).solid

/-- The rules of arithmetic have no configuration. -/
theorem configure_of_mem_arithmeticRules {rule : Rule} (h : rule ∈ arithmeticRules) :
    rule.configure = none := by
  obtain ⟨op, -, rfl⟩ := List.mem_map.mp h
  rfl

/-- The grammar of arithmetic: sums, then products, then atoms. -/
def arithmeticGrammar : Grammar :=
  [⟨some 1, (sums 1).map Infix.rule⟩, ⟨some 2, (products 2).map Infix.rule⟩, atomLevel]

theorem build_arithmeticRules : Grammar.build arithmeticRules = .ok arithmeticGrammar := rfl

/-! ## The small expression language -/

/-- A rule of the small expression language is that of a conditional, of an operator or of a negation. -/
theorem mem_standardRules {rule : Rule} : rule ∈ standardRules ↔
    rule = conditionalRule ∨ (∃ op ∈ standardOperators, op.rule = rule) ∨ rule = negationRule := by
  rw [standardRules, List.mem_append, List.mem_cons, List.mem_singleton, List.mem_map, or_assoc]

theorem Infix.rule_mem_standardRules (op : Infix) (h : op ∈ standardOperators) : op.rule ∈ standardRules :=
  mem_standardRules.mpr (.inr (.inl ⟨op, h, rfl⟩))

/-- The rules of the small expression language are admissible. -/
theorem admissible_standardRules : Admissible standardRules where
  defined := by
    intro rule h
    rcases mem_standardRules.mp h with rfl | ⟨op, hop, rfl⟩ | rfl
    · exact Rule.isDefined_of_draft rfl
    · simp only [standardOperators, sums, products, List.cons_append, List.nil_append, List.mem_cons,
        List.not_mem_nil, or_false] at hop
      rcases hop with rfl | rfl | rfl | rfl | rfl | rfl | rfl | rfl | rfl | rfl | rfl | rfl | rfl | rfl
      all_goals exact Rule.isDefined_of_draft rfl
    · exact Rule.isDefined_of_draft rfl
  distinct := by decide
  grounded := by
    intro rule h
    rcases mem_standardRules.mp h with rfl | ⟨op, -, rfl⟩ | rfl
    all_goals rfl

/-- Their elements are checked ones. -/
theorem built_of_mem_standardRules : ∀ rule ∈ standardRules, rule.Built := by
  intro rule h
  rcases mem_standardRules.mp h with rfl | ⟨op, hop, rfl⟩ | rfl
  · simp only [Rule.Built, conditionalRule, List.forall_mem_cons]
    exact ⟨rfl, rfl, rfl, rfl, rfl, List.forall_mem_nil _⟩
  · simp only [standardOperators, sums, products, List.cons_append, List.nil_append, List.mem_cons,
      List.not_mem_nil, or_false] at hop
    rcases hop with rfl | rfl | rfl | rfl | rfl | rfl | rfl | rfl | rfl | rfl | rfl | rfl | rfl | rfl
    all_goals exact Infix.rule_built rfl
  · simp only [Rule.Built, negationRule, List.forall_mem_cons]
    exact ⟨rfl, rfl, List.forall_mem_nil _⟩

theorem solid_of_mem_standardRules (rule : Rule) (h : rule ∈ standardRules) : rule.Solid :=
  (built_of_mem_standardRules rule h).solid

theorem configure_of_mem_standardRules {rule : Rule} (h : rule ∈ standardRules) : rule.configure = none := by
  rcases mem_standardRules.mp h with rfl | ⟨op, -, rfl⟩ | rfl
  · rfl
  · rfl
  · rfl

/-- The level of an operator in the small expression language is its precedence. -/
def Infix.level (op : Infix) : Nat :=
  op.precedence.toNat

/-- The operators of a level of the small expression language. -/
def operatorsAt (level : Nat) : List Infix :=
  standardOperators.filter fun op => op.precedence == level

/-- The grammar of the small expression language: the conditional, five levels of operators, the negation
and the atoms. -/
def standardGrammar : Grammar :=
  [⟨some 0, [conditionalRule]⟩, ⟨some 1, (operatorsAt 1).map Infix.rule⟩,
    ⟨some 2, (operatorsAt 2).map Infix.rule⟩, ⟨some 3, (operatorsAt 3).map Infix.rule⟩,
    ⟨some 4, (operatorsAt 4).map Infix.rule⟩, ⟨some 5, (operatorsAt 5).map Infix.rule⟩,
    ⟨some 6, [negationRule]⟩, atomLevel]

theorem build_standardRules : Grammar.build standardRules = .ok standardGrammar := rfl

end Mixfix
