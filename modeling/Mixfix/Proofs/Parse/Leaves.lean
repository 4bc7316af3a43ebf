import Mixfix.Proofs.Parse.Infix
import Mixfix.Proofs.Parse.Precedence

/-!
# The leaves of parsed trees

A leaf of a parsed tree is what some terminal matched (`Parse.leaf_matched`): one of the atoms, or one that a
rule keeps. A rule keeps the matches of its bound elements, and the match of an element that is all of its
pattern. The other terminals of a rule are read and dropped. The atoms are tried in order, so where one of them
matched, those before it refused (`Parse.leaf_decided`).

`Node.nodes` lists the nodes of a tree, so what holds of all of them can be evaluated.
-/

set_option autoImplicit false

namespace Mixfix

/-! ## Nodes of a tree -/

mutual
/-- The nodes of a value: those of the tree that it is, if it is one. -/
def Value.nodes : Value → List Node
  | .node n => n.nodes
  | _ => []

/-- The nodes of a tree, each before those of its fields. -/
def Node.nodes : Node → List Node
  | .composite rule schema fields => .composite rule schema fields :: fieldNodes fields
  | leaf => [leaf]

/-- The nodes of the fields of a node. -/
def fieldNodes : List (Text × Value) → List Node
  | [] => []
  | (_, v) :: rest => v.nodes ++ fieldNodes rest
end

theorem nodes_subset_fieldNodes {fields : Fields} {name : Text} {child : Node}
    (h : (name, .node child) ∈ fields) : child.nodes ⊆ fieldNodes fields := by
  induction fields with
  | nil => cases h
  | cons field fields ih =>
    obtain ⟨key, v⟩ := field
    rcases List.mem_cons.mp h with heq | h
    · cases heq
      exact List.subset_append_left child.nodes _
    · exact fun node hnode => List.mem_append_right _ (ih h hnode)

/-- The nodes that are in a tree are listed. -/
theorem Node.Within.mem_nodes {node root : Node} (h : node.Within root) : node ∈ root.nodes := by
  induction h with
  | root => cases node <;> exact List.mem_cons_self
  | field hmem _ ih => exact List.mem_cons_of_mem _ (nodes_subset_fieldNodes hmem ih)

/-- A node that is no identifier, or one of a name that is admitted. -/
def Node.admits (p : Text → Bool) : Node → Bool
  | .identifier name _ => p name
  | _ => true

/-- The identifiers in a tree have admitted names, if the tree only has nodes that are admitted. -/
theorem Node.Within.admitted {p : Text → Bool} {name : Text} {schema : Value} {root : Node}
    (h : Node.Within (.identifier name schema) root) (hall : root.nodes.all (Node.admits p) = true) :
    p name = true :=
  List.all_eq_true.mp hall _ h.mem_nodes

/-! ## Kept terminals -/

/-- A terminal whose match stays in the tree: it is bound, or it is all of the pattern. -/
def Rule.Keeps (rule : Rule) (t : Terminal) : Prop :=
  (∃ name, ⟨.terminal t, some name⟩ ∈ rule.pattern) ∨ rule.pattern = [⟨.terminal t, none⟩]

/-- Nothing is kept of a pattern of several elements whose terminals are not bound. -/
theorem Rule.not_keeps {rule : Rule} (hlength : rule.pattern.length ≠ 1)
    (hunbound : ∀ element ∈ rule.pattern, ∀ t, element.kind = .terminal t → element.binding = none)
    (t : Terminal) : ¬ rule.Keeps t := by
  rintro (⟨name, hmem⟩ | hpattern)
  · cases hunbound _ hmem t rfl
  · rw [hpattern] at hlength
    exact hlength rfl

/-- The rule of an operator keeps no terminal. -/
theorem Infix.not_keeps_rule (op : Infix) (t : Terminal) : ¬ op.rule.Keeps t := by
  have hlength : op.rule.pattern.length = 3 := rfl
  refine Rule.not_keeps (by omega) ?_ t
  exact List.forall_mem_cons.mpr ⟨nofun, List.forall_mem_cons.mpr ⟨fun _ _ => rfl,
    List.forall_mem_singleton.mpr nofun⟩⟩

/-- Whatever is in the node that a rule makes, apart from this node, is in the match of an element that is
bound or all of the pattern. -/
theorem Rule.within_assemble {rule : Rule} {context : Context} (hnodup : rule.bindingNames.Nodup)
    (hconfigure : rule.configure = none) {matched : List Node} (hlength : rule.pattern.length = matched.length)
    {leaf : Node} (hleaf : leaf.isLeaf = true) (h : leaf.Within (rule.assemble matched context)) :
    ∃ element node, (element, node) ∈ rule.pattern.zip matched ∧ leaf.Within node ∧
      ∀ t, element.kind = .terminal t → rule.Keeps t := by
  -- An element that is all of the pattern has its match passed on, and no node is made.
  by_cases hpattern : ∃ kind, rule.pattern = [⟨kind, none⟩]
  · obtain ⟨kind, hpattern⟩ := hpattern
    rw [hpattern] at hlength
    obtain ⟨node, rfl⟩ := List.length_eq_one_iff.mp hlength.symm
    rw [Rule.assemble_lone hpattern] at h
    refine ⟨⟨kind, none⟩, node, by rw [hpattern]; exact List.mem_cons_self, h, fun t hkind => .inr ?_⟩
    rw [hpattern, ← hkind]
  · rw [Rule.assemble_composite context hnodup hconfigure hlength (not_exists.mp hpattern)] at h
    cases h with
    | root => cases hleaf
    | field hmem hwithin =>
      obtain ⟨kind, node, hnode, hzip⟩ := Rule.mem_fields.mp hmem
      rw [Value.node.inj hnode] at hwithin
      have hbound := (List.of_mem_zip hzip).1
      refine ⟨_, node, hzip, hwithin, fun t hkind => .inl ?_⟩
      obtain rfl : kind = .terminal t := hkind
      exact ⟨_, hbound⟩

namespace Parse

open Engine

variable {grammar : Grammar} {rules : List Rule} {context : Context}

/-- A leaf in parentheses is in what they enclose. -/
theorem within_of_within_parentheses {leaf inner : Node} (hleaf : leaf.isLeaf = true)
    (h : leaf.Within (parenthesesNode inner)) : leaf.Within inner := by
  cases h with
  | root => cases hleaf
  | field hmem hwithin =>
    cases List.mem_singleton.mp hmem
    exact hwithin

/-- **What decides on a leaf** of a parsed tree: a terminal that a rule keeps, or one of the atoms where those before
it refuse. -/
theorem leaf_decided (hrules : Admissible rules) (hconfigure : ∀ rule ∈ rules, rule.configure = none)
    (hbuild : Grammar.build rules = .ok grammar) {start : Nat} {s : Text} {r : Match Node}
    (h : plain grammar context start s = .ok (some r)) {leaf : Node} (hleaf : leaf.isLeaf = true)
    (hwithin : leaf.Within r.value) :
    ∃ t s rest, t.match? context s = .ok (some ⟨leaf, rest⟩) ∧
      ((∃ before, before ++ [t] <+: atomTerminals ∧ ∀ t ∈ before, t.match? context s = .ok none) ∨
        ∃ rule ∈ rules, rule.Keeps t) := by
  refine plain_induction (P := fun _ _ r => leaf.Within r.value → _)
    (fun parse hparse start s r hfirst hwithin => ?_) h hwithin
  rcases candidates_of_build hbuild start with hnone | ⟨last, front, hfront, hcandidates⟩
  · rw [hnone] at hfirst
    cases hfirst
  rw [hcandidates] at hfirst
  rcases firstSome_append_eq_some hfirst with hfirst | ⟨-, hfirst⟩
  · obtain ⟨⟨index, rule⟩, hmem, hmatch⟩ := exists_of_firstSome hfirst
    have hrule : rule ∈ rules := hfront (index, rule) hmem
    obtain ⟨matched, hmatched, rfl⟩ := matchRule_eq_some.mp hmatch
    -- A match that has the leaf in it is the leaf itself, or was parsed before.
    have hall := forall₂_of_matchElements (P := fun kind node => leaf.Within node →
        (∃ t s rest, kind = .terminal t ∧ t.match? context s = .ok (some ⟨leaf, rest⟩)) ∨ _)
      (fun kind s r hmatch hwithin => by
        cases kind with
        | terminal t =>
          have hterminal := matchElement_terminal.mp hmatch
          obtain rfl := hwithin.eq_of_isLeaf (Terminal.isLeaf_of_match? hterminal)
          exact .inl ⟨t, s, r.rest, rfl, hterminal⟩
        | subexpression role constraint =>
          exact .inr (hparse _ _ _ (matchElement_subexpression.mp hmatch).1 hwithin)) hmatched
    obtain ⟨element, node, hzip, hwithin, hkept⟩ := Rule.within_assemble
      (hrules.defined rule hrule).checked.nodup_bindings (hconfigure rule hrule) hall.length_eq hleaf hwithin
    rcases (List.forall₂_iff_zip.mp hall).2 hzip hwithin with ⟨t, s, rest, hkind, hterminal⟩ | hbefore
    · exact ⟨t, s, rest, hterminal, .inr ⟨rule, hrule, hkept t hkind⟩⟩
    · exact hbefore
  · rcases atoms_eq_some hfirst with ⟨before, t, hfront, hnone, hmatch⟩ | ⟨t, rest, inner, -, hinner, -, rfl⟩
    · obtain rfl := hwithin.eq_of_isLeaf (Terminal.isLeaf_of_match? hmatch)
      exact ⟨t, s, r.rest, hmatch, .inl ⟨before, hfront, hnone⟩⟩
    · exact hparse _ _ _ hinner (within_of_within_parentheses hleaf hwithin)

/-- **The leaves of a parsed tree** are matches of the terminals of the atoms, and of those that rules
keep. -/
theorem leaf_matched (hrules : Admissible rules) (hconfigure : ∀ rule ∈ rules, rule.configure = none)
    (hbuild : Grammar.build rules = .ok grammar) {start : Nat} {s : Text} {r : Match Node}
    (h : plain grammar context start s = .ok (some r)) {leaf : Node} (hleaf : leaf.isLeaf = true)
    (hwithin : leaf.Within r.value) :
    ∃ t s rest, t.match? context s = .ok (some ⟨leaf, rest⟩) ∧
      (t ∈ atomTerminals ∨ ∃ rule ∈ rules, rule.Keeps t) := by
  obtain ⟨t, s, rest, hmatch, hdecided⟩ := leaf_decided hrules hconfigure hbuild h hleaf hwithin
  refine ⟨t, s, rest, hmatch, hdecided.imp_left ?_⟩
  rintro ⟨before, hfront, -⟩
  exact hfront.subset (List.mem_append_right before List.mem_cons_self)

end Parse

end Mixfix
