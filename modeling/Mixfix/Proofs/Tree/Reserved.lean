import Mixfix.Proofs.Eval
import Mixfix.Proofs.Parse.Precedence
import Mixfix.Proofs.Tree.Document

/-!
# Names that plain data keeps for itself

A node as a map has its kind and its schema under keys of their own, so a field cannot have the name of either.
A rule can bind an element to such a name, and its nodes are parsed, but they have no form as plain data.

A tree has a form as plain data exactly if no node of it has a field of such a name (`Tree.exists_document_iff`), and
the error names such a field and the kind of its node (`Tree.collides_of_error`). In a parsed tree these are a binding
and the rule it stands in (`Parse.documented_iff_unreserved`).
-/

set_option autoImplicit false

namespace Mixfix

open Mixfix.Tree (isReserved DocumentError)

/-! ## Trees of nodes -/

/-- A field of a node of a tree has a name that is taken. -/
def Node.Collides (tree : Node) (field kind : Text) : Prop :=
  isReserved field = true ∧
    ∃ schema fields, Node.Within (.composite kind schema fields) tree ∧ field ∈ Entries.names fields

/-- What collides in a node of a tree collides in the tree. -/
theorem Node.Collides.mono {node tree : Node} {field kind : Text} (h : node.Collides field kind)
    (hwithin : node.Within tree) : tree.Collides field kind := by
  obtain ⟨hreserved, schema, fields, hcomposite, hmem⟩ := h
  exact ⟨hreserved, schema, fields, hcomposite.trans hwithin, hmem⟩

/-- All fields of the nodes of a tree are nodes. -/
def Node.IsPure (tree : Node) : Prop :=
  ∀ kind schema fields, Node.Within (.composite kind schema fields) tree →
    ∀ field ∈ fields, ∃ child, field.2 = .node child

theorem Node.IsPure.mono {node tree : Node} (h : tree.IsPure) (hwithin : node.Within tree) : node.IsPure :=
  fun kind schema fields hcomposite => h kind schema fields (hcomposite.trans hwithin)

namespace Tree

variable {fields : List (Text × Value)} {kind : Text} {tree : Node}

/-- Where the fields of a node have no form as plain data, one has a name that is taken or has none itself. -/
theorem fieldDocuments_eq_error {error : DocumentError} (h : fieldDocuments kind fields = .error error) :
    (∃ field ∈ fields, isReserved field.1 = true ∧ error = .reservedField field.1 kind) ∨
      ∃ field ∈ fields, valueDocument field.2 = .error error := by
  induction fields with
  | nil => cases h
  | cons field fields ih =>
    obtain ⟨key, value⟩ := field
    rw [fieldDocuments] at h
    split at h
    · rename_i hreserved
      cases h
      exact .inl ⟨(key, value), List.mem_cons_self, hreserved, rfl⟩
    · rcases bind_eq_error.mp h with hvalue | ⟨first, -, h⟩
      · exact .inr ⟨(key, value), List.mem_cons_self, hvalue⟩
      · have hrest : fieldDocuments kind fields = .error error := by
          rcases bind_eq_error.mp h with hrest | ⟨rest, -, hnone⟩
          · exact hrest
          · cases hnone
        rcases ih hrest with ⟨other, hother, hreserved⟩ | ⟨other, hother, hvalue⟩
        · exact .inl ⟨other, List.mem_cons_of_mem _ hother, hreserved⟩
        · exact .inr ⟨other, List.mem_cons_of_mem _ hother, hvalue⟩

/-- Where they have one, no name is taken and each of them has one. -/
theorem free_of_fieldDocuments {documents : Fields} (h : fieldDocuments kind fields = .ok documents) :
    ∀ field ∈ fields, isReserved field.1 = false ∧ ∃ d, valueDocument field.2 = .ok d := by
  induction fields generalizing documents with
  | nil => exact List.forall_mem_nil _
  | cons field fields ih =>
    obtain ⟨key, value⟩ := field
    rw [fieldDocuments] at h
    split at h
    · cases h
    · rename_i hfree
      obtain ⟨first, hvalue, h⟩ := bind_eq_ok.mp h
      obtain ⟨rest, hrest, -⟩ := bind_eq_ok.mp h
      exact List.forall_mem_cons.mpr ⟨⟨Bool.eq_false_iff.mpr hfree, first, hvalue⟩, ih hrest⟩

/-- **The error names a field that collides** and the kind of its node. -/
theorem collides_of_error {error : DocumentError} (hpure : tree.IsPure) (h : nodeDocument tree = .error error) :
    ∃ field kind, tree.Collides field kind ∧ error = .reservedField field kind := by
  induction tree using Node.field_induction with
  | literal raw value schema => cases value <;> cases h
  | identifier name schema => cases h
  | const schema => cases h
  | composite kind schema fields ih =>
    have hfields : fieldDocuments kind fields = .error error := by
      rw [nodeDocument] at h
      rcases bind_eq_error.mp h with hfields | ⟨documents, -, hnone⟩
      · exact hfields
      · cases hnone
    rcases fieldDocuments_eq_error hfields with ⟨field, hfield, hreserved, herror⟩ | ⟨⟨name, value⟩, hfield, hvalue⟩
    · exact ⟨field.1, kind, ⟨hreserved, schema, fields, .root _, List.mem_map_of_mem hfield⟩, herror⟩
    · obtain ⟨child, rfl⟩ : ∃ child, value = .node child := hpure kind schema fields (.root _) _ hfield
      rw [valueDocument] at hvalue
      have hwithin : child.Within (.composite kind schema fields) := .field hfield (.root child)
      obtain ⟨other, otherKind, hcollides, herror⟩ := ih name child hfield (hpure.mono hwithin) hvalue
      exact ⟨other, otherKind, hcollides.mono hwithin, herror⟩

/-- Nothing collides in a tree that has a form as plain data. -/
theorem not_collides_of_document {d : Value} (h : nodeDocument tree = .ok d) (field kind : Text) :
    ¬ tree.Collides field kind := by
  rintro ⟨hreserved, schema, fields, hwithin, hmem⟩
  induction tree using Node.field_induction generalizing d with
  | literal | identifier | const => cases hwithin
  | composite rootKind rootSchema rootFields ih =>
    rw [nodeDocument] at h
    obtain ⟨documents, hdocuments, -⟩ := bind_eq_ok.mp h
    have hfree := free_of_fieldDocuments hdocuments
    cases hwithin with
    | root =>
      obtain ⟨entry, hentry, rfl⟩ := List.mem_map.mp hmem
      rw [(hfree entry hentry).1] at hreserved
      cases hreserved
    | field hchild hwithin =>
      obtain ⟨-, d, hd⟩ := hfree _ hchild
      rw [valueDocument] at hd
      exact ih _ _ hchild hd hwithin

/-- **A tree of nodes has a form as plain data exactly if nothing in it collides.** -/
theorem exists_document_iff (hpure : tree.IsPure) :
    (∃ d, nodeDocument tree = .ok d) ↔ ∀ field kind, ¬ tree.Collides field kind := by
  constructor
  · rintro ⟨d, h⟩
    exact not_collides_of_document h
  · intro hnone
    cases h : nodeDocument tree with
    | ok d => exact ⟨d, rfl⟩
    | error error =>
      obtain ⟨field, kind, hcollides, -⟩ := collides_of_error hpure h
      exact absurd hcollides (hnone field kind)

end Tree

/-! ## Parsed trees -/

namespace Parse

variable {grammar : Grammar} {rules : List Rule} {context : Context} {s rest : Text} {tree : Node} {start : Nat}

theorem isPure_of_proper (h : grammar.Proper rules start tree) : tree.IsPure := by
  intro kind schema fields hwithin
  rcases h.explained kind schema fields hwithin with ⟨-, index, hcomposes⟩ | ⟨rule, -, -, -, index, -, hcomposes⟩
  · exact hcomposes.nodes
  · exact hcomposes.nodes

/-- What collides in a parsed tree is a binding of the rule that made the node. -/
theorem collides_iff (hrules : Admissible rules) (h : grammar.Proper rules start tree) {field kind : Text} :
    tree.Collides field kind ↔ isReserved field = true ∧ ∃ rule ∈ rules, rule.name = kind ∧
      field ∈ rule.bindingNames ∧ ∃ schema fields, Node.Within (.composite rule.name schema fields) tree := by
  refine and_congr_right fun hreserved => ?_
  constructor
  · rintro ⟨schema, fields, hwithin, hmem⟩
    rcases h.explained kind schema fields hwithin with
      ⟨-, index, hcomposes⟩ | ⟨rule, hrule, rfl, -, index, -, hcomposes⟩
    · -- The only binding of parentheses is free.
      rw [hcomposes.names] at hmem
      obtain rfl : field = txt "inner" := List.mem_singleton.mp hmem
      exact absurd hreserved (by decide)
    · rw [hcomposes.names] at hmem
      exact ⟨rule, hrule, rfl, hmem, schema, fields, hwithin⟩
  · rintro ⟨rule, hrule, rfl, hmem, schema, fields, hwithin⟩
    refine ⟨schema, fields, hwithin, ?_⟩
    rcases h.explained rule.name schema fields hwithin with
      ⟨hname, index, hcomposes⟩ | ⟨other, -, -, honly, index, -, hcomposes⟩
    · -- No rule has the name of parentheses.
      exact absurd (hname ▸ by decide) (hrules.defined rule hrule).checked.name_free
    · obtain rfl : rule = other := honly rule hrule rfl
      rwa [hcomposes.names]

/-- **Which parsed trees have a form as plain data**: those in which no node is made by a rule that binds a name that
is taken. The error of any other names such a binding and its rule. -/
theorem documented_iff_unreserved (hrules : Admissible rules) (hconfigure : ∀ rule ∈ rules, rule.configure = none)
    (hbuild : Grammar.build rules = .ok grammar)
    (hparse : grammar.parse context s = .ok (some ⟨tree, rest⟩)) :
    ((∃ d, Tree.toDocument (.node tree) = .ok d) ↔
      ∀ rule ∈ rules, ∀ schema fields, Node.Within (.composite rule.name schema fields) tree →
        ∀ name ∈ rule.bindingNames, isReserved name = false) ∧
    ∀ error, Tree.toDocument (.node tree) = .error error →
      ∃ rule ∈ rules, ∃ name ∈ rule.bindingNames, isReserved name = true ∧
        (∃ schema fields, Node.Within (.composite rule.name schema fields) tree) ∧
        error = .reservedField name rule.name := by
  rw [parse_eq_plain] at hparse
  have hproper := plain_proper hrules hconfigure hbuild hparse
  have hpure := isPure_of_proper hproper
  constructor
  · rw [Tree.toDocument, Tree.exists_document_iff hpure]
    constructor
    · intro hnone rule hrule schema fields hwithin name hname
      by_contra hreserved
      apply hnone name rule.name
      rw [collides_iff hrules hproper]
      exact ⟨(Bool.not_eq_false _).mp hreserved, rule, hrule, rfl, hname, schema, fields, hwithin⟩
    · intro hfree field kind hcollides
      obtain ⟨hreserved, rule, hrule, -, hname, schema, fields, hwithin⟩ := (collides_iff hrules hproper).mp hcollides
      rw [hfree rule hrule schema fields hwithin field hname] at hreserved
      cases hreserved
  · intro error herror
    obtain ⟨field, kind, hcollides, rfl⟩ := Tree.collides_of_error hpure herror
    obtain ⟨hreserved, rule, hrule, rfl, hname, hwithin⟩ := (collides_iff hrules hproper).mp hcollides
    exact ⟨rule, hrule, field, hname, hreserved, hwithin, rfl⟩

/-- A difference of a product, none of whose rules binds such a name. -/
theorem documented_iff_unreserved_difference :
    ∃ kind schema fields rest,
      arithmeticGrammar.parse [(txt "x", txt "number")] (txt "1 - 2 * x") =
        .ok (some ⟨.composite kind schema fields, rest⟩) ∧
      ∃ d, Tree.toDocument (.node (.composite kind schema fields)) = .ok d := by
  have hparse : plain arithmeticGrammar [(txt "x", txt "number")] 0 (txt "1 - 2 * x") = .ok (some
      ⟨.composite (txt "sub") (.str (txt "number"))
        [(txt "left", .node (.literal (txt "1") (.int 1) (.str (txt "number")))),
          (txt "right", .node (.composite (txt "mul") (.str (txt "number"))
            [(txt "left", .node (.literal (txt "2") (.int 2) (.str (txt "number")))),
              (txt "right", .node (.identifier (txt "x") (.str (txt "number"))))]))], []⟩) := by rfl
  rw [← parse_eq_plain] at hparse
  refine ⟨_, _, _, _, hparse, ?_⟩
  apply (documented_iff_unreserved admissible_arithmeticRules (fun _ => configure_of_mem_arithmeticRules)
    build_arithmeticRules hparse).1.mpr
  intro rule hrule _ _ _
  have hfree : ∀ rule ∈ arithmeticRules, ∀ name ∈ rule.bindingNames, isReserved name = false := by decide
  exact hfree rule hrule

/-- A rule that binds a name to the key of the kind. -/
def taggedRule : Rule where
  name := txt "tagged"
  pattern := [⟨.terminal .identifier, some Tree.kindKey⟩]
  precedence := 1
  resultType := .fixed unknownSchema
  configure := none
  eval := none

theorem admissible_taggedRule : Admissible [taggedRule] where
  defined := List.forall_mem_singleton.mpr (Rule.isDefined_of_draft rfl)
  distinct := List.nodup_singleton _
  grounded := List.forall_mem_singleton.mpr rfl

theorem build_taggedRule : Grammar.build [taggedRule] = .ok [⟨some 1, [taggedRule]⟩, atomLevel] := rfl

/-- The node of a name is parsed, and it has no form as plain data. -/
theorem undocumented_tagged :
    Admissible [taggedRule] ∧ (∀ rule ∈ [taggedRule], rule.configure = none) ∧
      ∃ grammar tree, Grammar.build [taggedRule] = .ok grammar ∧
        grammar.parse [] (txt "a") = .ok (some ⟨tree, []⟩) ∧
        Tree.toDocument (.node tree) = .error (.reservedField (txt "node") (txt "tagged")) := by
  let tagged : Node := .composite (txt "tagged") (.str unknownSchema)
    [(txt "node", .node (.identifier (txt "a") (.str unknownSchema)))]
  have hparse : Grammar.parse [⟨some 1, [taggedRule]⟩, atomLevel] [] (txt "a") = .ok (some ⟨tagged, []⟩) := by
    rw [parse_eq_plain]
    rfl
  exact ⟨admissible_taggedRule, List.forall_mem_singleton.mpr rfl, _, tagged, build_taggedRule, hparse, rfl⟩

end Parse

end Mixfix
