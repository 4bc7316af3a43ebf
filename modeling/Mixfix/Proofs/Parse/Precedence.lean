import Mixfix.Proofs.Parse.Atoms
import Mixfix.Proofs.Parse.Memory
import Mixfix.Proofs.Rule.Assembly

/-!
# Parsed trees respect precedence

Every composite of a parsed tree is made by one rule, and its operands bind as that rule asks
(`Grammar.Composes`): the left operand of an operator is tighter than the operator, its right operand is
not looser, and operands have the schemas they are required to have. Levels stand for precedences
(`Grammar.Places.precedence_lt`).

The rules here have no configuration. A configuration may put any value into a field, so nothing could
be said of such nodes. `Node.Within` reaches all composites of a tree then, since every field is a node.
-/

set_option autoImplicit false

namespace Mixfix

/-! ## Trees -/

/-- A node that is no composite. -/
def Node.isLeaf : Node → Bool
  | .composite .. => false
  | _ => true

/-- A node of a tree: the tree itself or a node of one of its fields. -/
inductive Node.Within : Node → Node → Prop
  | root (node : Node) : Within node node
  | field {node child : Node} {rule name : Text} {schema : Value} {fields : Fields} :
      (name, .node child) ∈ fields → Within node child → Within node (.composite rule schema fields)

/-- A leaf is all of itself. -/
theorem Node.Within.eq_of_isLeaf {node root : Node} (h : node.Within root) (hleaf : root.isLeaf = true) :
    node = root := by
  cases h with
  | root => rfl
  | field => cases hleaf

/-- What is in a node of a tree is in the tree. -/
theorem Node.Within.trans {inner node root : Node} (h : inner.Within node) (hnode : node.Within root) :
    inner.Within root := by
  induction hnode with
  | root => exact h
  | field hmem _ ih => exact .field hmem ih

namespace Grammar

/-- A node that binds at least as tight as the rules of a level: a leaf, a node in parentheses or a node
of a rule of this level or of a later one. -/
inductive BindsFrom (grammar : Grammar) (start : Nat) : Node → Prop
  | leaf {node : Node} : node.isLeaf = true → BindsFrom grammar start node
  | parentheses (schema : Value) (fields : Fields) :
      BindsFrom grammar start (.composite parenthesesRule.name schema fields)
  | rule {index : Nat} {rule : Rule} (schema : Value) (fields : Fields) :
      grammar.Places index rule → start ≤ index →
      BindsFrom grammar start (.composite rule.name schema fields)

/-- A node that binds tight enough for a level does so for the earlier ones. -/
theorem BindsFrom.mono {grammar : Grammar} {start start' : Nat} {node : Node}
    (h : grammar.BindsFrom start node) (hle : start' ≤ start) : grammar.BindsFrom start' node := by
  cases h with
  | leaf hleaf => exact .leaf hleaf
  | parentheses schema fields => exact .parentheses schema fields
  | rule schema fields hplace hstart => exact .rule schema fields hplace (Nat.le_trans hle hstart)

/-- The schema and the fields of a composite as a rule of a level makes them. -/
structure Composes (grammar : Grammar) (index : Nat) (rule : Rule) (schema : Value) (fields : Fields) :
    Prop where
  names : fields.names = rule.bindingNames
  nodes : ∀ entry ∈ fields, ∃ child, entry.2 = .node child
  schema : rule.resultType.Prescribes fields schema
  /-- A bound terminal is a leaf. -/
  terminal : ∀ t name, ⟨.terminal t, some name⟩ ∈ rule.pattern →
    ∃ child, (name, .node child) ∈ fields ∧ child.isLeaf = true
  /-- A bound subexpression has the schema that is required and binds as its role says. -/
  subexpression : ∀ role constraint name, ⟨.subexpression role constraint, some name⟩ ∈ rule.pattern →
    ∃ child, (name, .node child) ∈ fields ∧
      (∀ required, constraint = some required → child.schema = .str required) ∧
      (role = .lhs → grammar.BindsFrom (index + 1) child) ∧
      (role = .rhs → grammar.BindsFrom index child)

/-- A composite of a name is made by the rule of parentheses, or by the only rule of that name. -/
def Explains (grammar : Grammar) (rules : List Rule) (name : Text) (schema : Value) (fields : Fields) :
    Prop :=
  (name = parenthesesRule.name ∧ ∃ index, grammar.Composes index parenthesesRule schema fields) ∨
    ∃ rule ∈ rules, rule.name = name ∧ (∀ other ∈ rules, other.name = name → other = rule) ∧
      ∃ index, grammar.Places index rule ∧ grammar.Composes index rule schema fields

/-- A tree that binds tight enough for a level, all of whose composites are explained. -/
structure Proper (grammar : Grammar) (rules : List Rule) (start : Nat) (node : Node) : Prop where
  binds : grammar.BindsFrom start node
  explained : ∀ name schema fields, Node.Within (.composite name schema fields) node →
    grammar.Explains rules name schema fields

section

variable {grammar : Grammar} {rules : List Rule}

theorem Proper.mono {start start' : Nat} {node : Node} (h : grammar.Proper rules start node)
    (hle : start' ≤ start) : grammar.Proper rules start' node :=
  ⟨h.binds.mono hle, h.explained⟩

/-- Leaves are proper trees at every level. -/
theorem Proper.of_isLeaf {start : Nat} {node : Node} (h : node.isLeaf = true) :
    grammar.Proper rules start node := by
  refine ⟨.leaf h, fun name schema fields hwithin => ?_⟩
  rw [← hwithin.eq_of_isLeaf h] at h
  cases h

/-- What an element of a rule of a level is matched to: a leaf for a terminal, a tree that is proper at
the level of its role for a subexpression. -/
inductive Fits (grammar : Grammar) (rules : List Rule) (index : Nat) : ElementKind → Node → Prop
  | terminal (t : Terminal) {node : Node} : node.isLeaf = true → Fits grammar rules index (.terminal t) node
  | subexpression {role : Role} {constraint : Option Text} {node : Node} :
      grammar.Proper rules (role.start index) node → meets constraint node = true →
      Fits grammar rules index (.subexpression role constraint) node

/-- Whatever an element is matched to is a proper tree. -/
theorem Fits.proper {index : Nat} {kind : ElementKind} {node : Node}
    (h : grammar.Fits rules index kind node) : grammar.Proper rules 0 node := by
  cases h with
  | terminal t hleaf => exact .of_isLeaf hleaf
  | subexpression hproper _ => exact hproper.mono (Nat.zero_le _)

/-- An item that is matched to an element fits it. -/
theorem fits_of_mem_zip {index : Nat} {pattern : List Element} {matched : List Node}
    (h : List.Forall₂ (fun element node => grammar.Fits rules index element.kind node) pattern matched)
    {element : Element} {node : Node} (hmem : (element, node) ∈ pattern.zip matched) :
    grammar.Fits rules index element.kind node :=
  List.forall₂_iff_zip.mp h |>.2 hmem

/-- Every element has a match that fits it. -/
theorem exists_fits {index : Nat} {pattern : List Element} {matched : List Node}
    (h : List.Forall₂ (fun element node => grammar.Fits rules index element.kind node) pattern matched)
    {element : Element} (hmem : element ∈ pattern) :
    ∃ node, (element, node) ∈ pattern.zip matched ∧ grammar.Fits rules index element.kind node := by
  have hzip : element ∈ (pattern.zip matched).map Prod.fst := by
    rw [List.map_fst_zip (Nat.le_of_eq h.length_eq)]
    exact hmem
  obtain ⟨⟨_, node⟩, hpair, rfl⟩ := List.mem_map.mp hzip
  exact ⟨node, hpair, fits_of_mem_zip h hpair⟩

/-- Matches that fit the elements of a rule make up a composite of that rule. -/
theorem composes_of_fits {index : Nat} {rule : Rule} {matched : List Node}
    (hnodup : rule.bindingNames.Nodup)
    (h : List.Forall₂ (fun element node => grammar.Fits rules index element.kind node) rule.pattern
      matched) :
    grammar.Composes index rule (rule.resultSchema (rule.fields matched)) (rule.fields matched) where
  names := Rule.names_fields h.length_eq
  nodes _ hentry := Rule.exists_node_of_mem_fields hentry
  schema := rule.prescribes_resultSchema (Rule.names_fields h.length_eq ▸ hnodup)
    fun _ => Rule.exists_node_of_mem_fields
  terminal t name hmem := by
    obtain ⟨node, hzip, hfits⟩ := exists_fits h hmem
    refine ⟨node, Rule.mem_fields.mpr ⟨_, node, rfl, hzip⟩, ?_⟩
    cases hfits with
    | terminal _ hleaf => exact hleaf
  subexpression role constraint name hmem := by
    obtain ⟨node, hzip, hfits⟩ := exists_fits h hmem
    refine ⟨node, Rule.mem_fields.mpr ⟨_, node, rfl, hzip⟩, ?_⟩
    cases hfits with
    | subexpression hproper hmeets =>
      refine ⟨Parse.meets_eq_true_iff.mp hmeets, fun hrole => ?_, fun hrole => ?_⟩
      · exact (hrole ▸ hproper).binds
      · exact (hrole ▸ hproper).binds

/-- A composite of matches that fit is proper once it is explained itself. -/
theorem Proper.composite {start index : Nat} {rule : Rule} {matched : List Node} {schema : Value}
    (h : List.Forall₂ (fun element node => grammar.Fits rules index element.kind node) rule.pattern
      matched)
    (hbinds : grammar.BindsFrom start (.composite rule.name schema (rule.fields matched)))
    (hexplains : grammar.Explains rules rule.name schema (rule.fields matched)) :
    grammar.Proper rules start (.composite rule.name schema (rule.fields matched)) := by
  refine ⟨hbinds, fun name schema' fields hwithin => ?_⟩
  cases hwithin with
  | root => exact hexplains
  | field hfield hwithin =>
    obtain ⟨kind, node, hnode, hzip⟩ := Rule.mem_fields.mp hfield
    cases hnode
    exact (fits_of_mem_zip h hzip).proper.explained name schema' fields hwithin

end

end Grammar

/-! ## Matches -/

theorem Terminal.isLeaf_of_match? {t : Terminal} {context : Context} {s : Text} {r : Match Node}
    (h : t.match? context s = .ok (some r)) : r.value.isLeaf = true := by
  cases matches_of_match? h with
  | number | string | keyword | identifier | const => rfl

namespace Parse

open Engine

variable {grammar : Grammar} {rules : List Rule} {context : Context}
  {parse : Nat → Text → Except Interruption Found}

/-- Elements in a row are matched to nodes that fit them. -/
theorem forall₂_fits_of_matchElements {index : Nat}
    (hparse : ∀ start s r, parse start s = .ok (some r) → grammar.Proper rules start r.value)
    {pattern : List Element} {s : Text} {matched : Match (List Node)}
    (h : matchElements plainHooks parse context index pattern s = .ok (some matched)) :
    List.Forall₂ (fun element node => grammar.Fits rules index element.kind node) pattern
      matched.value := by
  refine forall₂_of_matchElements (fun kind s r hmatch => ?_) h
  cases kind with
  | terminal t => exact .terminal t (Terminal.isLeaf_of_match? (matchElement_terminal.mp hmatch))
  | subexpression role constraint =>
    obtain ⟨hfound, hmeets⟩ := matchElement_subexpression.mp hmatch
    exact .subexpression (hparse _ _ _ hfound) hmeets

/-- The match of an only element that is not bound is a leaf or comes from the next level. -/
theorem proper_assemble_lone {start index : Nat} {rule : Rule} {matched : List Node} {kind : ElementKind}
    (hgrounded : rule.isGrounded = true) (hstart : start ≤ index) (hpattern : rule.pattern = [⟨kind, none⟩])
    (h : List.Forall₂ (fun element node => grammar.Fits rules index element.kind node) rule.pattern
      matched) :
    grammar.Proper rules start (rule.assemble matched context) := by
  rw [hpattern] at h
  obtain ⟨node, -, hfits, ⟨⟩, rfl⟩ := List.forall₂_cons_left_iff.mp h
  rw [Rule.assemble_lone hpattern]
  cases hfits with
  | terminal t hleaf => exact .of_isLeaf hleaf
  | @subexpression role constraint _ hproper _ =>
    have hrole : role = .lhs := Rule.role_of_head hgrounded (by rw [hpattern]; rfl)
    rw [hrole] at hproper
    exact hproper.mono (Nat.le_succ_of_le hstart)

/-- A rule of the list makes a proper tree of what fits its elements. -/
theorem proper_assemble {start index : Nat} {rule : Rule} {matched : List Node} (hrules : Admissible rules)
    (hconfigure : ∀ rule ∈ rules, rule.configure = none) (hrule : rule ∈ rules)
    (hplace : grammar.Places index rule) (hstart : start ≤ index)
    (h : List.Forall₂ (fun element node => grammar.Fits rules index element.kind node) rule.pattern
      matched) :
    grammar.Proper rules start (rule.assemble matched context) := by
  by_cases hpattern : ∃ kind, rule.pattern = [⟨kind, none⟩]
  · obtain ⟨kind, hpattern⟩ := hpattern
    exact proper_assemble_lone (hrules.grounded rule hrule) hstart hpattern h
  · have hnodup := (hrules.defined rule hrule).checked.nodup_bindings
    have hcomposes := Grammar.composes_of_fits hnodup h
    rw [Rule.assemble_composite context hnodup (hconfigure rule hrule) h.length_eq
      (not_exists.mp hpattern)]
    refine .composite h (.rule _ _ hplace hstart) (.inr ⟨rule, hrule, rfl, ?_, index, hplace, hcomposes⟩)
    exact fun other hother hname => List.inj_on_of_nodup_map hrules.distinct hother hrule hname

/-- A rule of the atoms makes a proper tree of what fits its elements. -/
theorem proper_assemble_atom {start index : Nat} {rule : Rule} {matched : List Node}
    (hrule : rule ∈ atomRules) (hstart : start ≤ index)
    (h : List.Forall₂ (fun element node => grammar.Fits rules index element.kind node) rule.pattern
      matched) :
    grammar.Proper rules start (rule.assemble matched context) := by
  rcases atom_cases hrule with ⟨t, hpattern⟩ | rfl
  · exact proper_assemble_lone (consuming_of_mem_atomRules hrule).grounded hstart hpattern h
  · have hnodup : parenthesesRule.bindingNames.Nodup := by decide
    rw [Rule.assemble_composite context hnodup rfl h.length_eq fun kind => by simp [parenthesesRule]]
    exact .composite h (.parentheses _ _) (.inl ⟨rfl, index, Grammar.composes_of_fits hnodup h⟩)

/-- The plain parse gives proper trees. -/
theorem plain_proper (hrules : Admissible rules) (hconfigure : ∀ rule ∈ rules, rule.configure = none)
    (hbuild : Grammar.build rules = .ok grammar) {start : Nat} {s : Text} {r : Match Node}
    (h : plain grammar context start s = .ok (some r)) : grammar.Proper rules start r.value := by
  refine plain_induction (P := fun start _ r => grammar.Proper rules start r.value)
    (fun parse hparse start s r hfirst => ?_) h
  obtain ⟨index, level, rule, hstart, hlevel, hrule', hmatch⟩ := exists_rule_of_firstSome hfirst
  obtain ⟨matched, hmatched, rfl⟩ := matchRule_eq_some.mp hmatch
  have hfits := forall₂_fits_of_matchElements hparse hmatched
  rcases Grammar.places_or_atom hbuild hlevel hrule' with ⟨hplace, hrule'⟩ | hrule'
  · exact proper_assemble hrules hconfigure hrule' hplace hstart hfits
  · exact proper_assemble_atom hrule' hstart hfits

/-- **Parsed trees respect precedence, sides and required schemas.** The tree of a parse from a level
binds at least as tight as this level, and each composite in it is one of parentheses or has the name of
exactly one rule, which explains its fields and its schema. -/
theorem levels_respects_rules (hrules : Admissible rules)
    (hconfigure : ∀ rule ∈ rules, rule.configure = none) (hbuild : Grammar.build rules = .ok grammar)
    {start : Nat} {s rest : Text} {node : Node} {progress : Progress}
    (h : levels grammar context start s = .ok (some ⟨node, rest⟩, progress)) :
    grammar.BindsFrom start node ∧
      ∀ name schema fields, Node.Within (.composite name schema fields) node →
        grammar.Explains rules name schema fields := by
  have hplain := plain_of_levels h
  have hproper := plain_proper hrules hconfigure hbuild hplain
  exact ⟨hproper.binds, hproper.explained⟩

/-- The tree of a difference whose right operand is a product. -/
theorem levels_respects_rules_difference :
    ∃ node progress,
      levels arithmeticGrammar [] 0 (txt "1 - 2 * 3") = .ok (some ⟨node, []⟩, progress) ∧
      arithmeticGrammar.BindsFrom 0 node ∧
      ∀ name schema fields, Node.Within (.composite name schema fields) node →
        arithmeticGrammar.Explains arithmeticRules name schema fields := by
  have hcomplete : (plain arithmeticGrammar [] 0 (txt "1 - 2 * 3")).toOption.join.any
      (fun r => r.rest.isEmpty) = true := by decide +kernel
  obtain ⟨⟨node, rest⟩, hfound, hrest⟩ := (Option.any_eq_true _ _).mp hcomplete
  obtain rfl := List.isEmpty_iff.mp hrest
  have hplain : plain arithmeticGrammar [] 0 (txt "1 - 2 * 3") = .ok (some ⟨node, []⟩) := by
    cases hrun : plain arithmeticGrammar [] 0 (txt "1 - 2 * 3") with
    | error e =>
      rw [hrun] at hfound
      cases hfound
    | ok found =>
      rw [hrun] at hfound
      exact congrArg Except.ok (Option.some.inj (Option.join_eq_some_iff.mp hfound))
  obtain ⟨progress, hlevels⟩ := levels_of_plain hplain
  have hnone : ∀ rule ∈ arithmeticRules, rule.configure = none := by
    intro rule hrule
    obtain ⟨op, -, rfl⟩ := List.mem_map.mp hrule
    rfl
  exact ⟨node, progress, hlevels,
    levels_respects_rules admissible_arithmeticRules hnone build_arithmeticRules hlevels⟩

end Parse

end Mixfix
