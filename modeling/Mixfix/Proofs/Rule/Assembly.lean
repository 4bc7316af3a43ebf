import Mixfix.Proofs.Entries
import Mixfix.Proofs.Rule
import Mixfix.Proofs.Text.Sorted
import Mixfix.Rule.Assembly

/-!
# What rules make of their matches

The bindings of a checked rule differ, so the matches of its bound elements are its fields one by one
(`boundMatches_eq`). A rule without configuration makes a composite of them, unless its only element is
unbound and the match passes through (`Rule.assemble_composite`, `Rule.assemble_lone`).

`ResultType.Prescribes` says which schema a composite of nodes has, apart from how it is computed.
-/

set_option autoImplicit false

namespace Mixfix

/-- The matches of bound elements with the names of their bindings. -/
def namedMatches {α : Type} (pattern : List Element) (matched : List α) : List (Text × α) :=
  (pattern.zip matched).filterMap fun (element, item) => element.binding.map fun name => (name, item)

section

variable {α : Type} {pattern : List Element} {matched : List α}

/-- The bound elements give their names, if every element has a match. -/
theorem names_namedMatches (h : pattern.length = matched.length) :
    Entries.names (namedMatches pattern matched) = pattern.filterMap Element.binding := by
  induction pattern generalizing matched with
  | nil => rfl
  | cons element pattern ih =>
    cases matched with
    | nil => cases h
    | cons item matched =>
      have htail := ih (Nat.succ.inj h)
      obtain ⟨kind, binding⟩ := element
      cases binding with
      | none => exact htail
      | some name => exact congrArg (name :: ·) htail

/-- Distinct bindings give the entries themselves. -/
theorem boundMatches_eq (h : pattern.length = matched.length)
    (hnodup : (pattern.filterMap Element.binding).Nodup) :
    boundMatches pattern matched = namedMatches pattern matched :=
  Entries.ofList_of_nodup (names_namedMatches h ▸ hnodup)

/-- The match of a bound element stands under its name. -/
theorem mem_namedMatches {name : Text} {item : α} :
    (name, item) ∈ namedMatches pattern matched ↔
      ∃ kind, (⟨kind, some name⟩, item) ∈ pattern.zip matched := by
  simp only [namedMatches, List.mem_filterMap, Option.map_eq_some_iff, Prod.mk.injEq, Prod.exists]
  constructor
  · rintro ⟨⟨kind, binding⟩, other, hmem, bound, hbinding, rfl, rfl⟩
    dsimp only at hbinding
    exact ⟨kind, hbinding ▸ hmem⟩
  · rintro ⟨kind, hmem⟩
    exact ⟨⟨kind, some name⟩, item, hmem, name, rfl, rfl, rfl⟩

end

/-- The fields of the node that a rule makes. -/
def Rule.fields (rule : Rule) (matched : List Node) : Fields :=
  (namedMatches rule.pattern matched).map fun (name, node) => (name, .node node)

/-- The fields of a node are named as the rule binds them. -/
theorem Rule.names_fields {rule : Rule} {matched : List Node}
    (h : rule.pattern.length = matched.length) : (rule.fields matched).names = rule.bindingNames := by
  have hnames : (rule.fields matched).names = (namedMatches rule.pattern matched).map Prod.fst :=
    List.map_map
  rw [hnames]
  exact names_namedMatches h

/-- A field of a node is the match of an element that is bound to its name. -/
theorem Rule.mem_fields {rule : Rule} {matched : List Node} {name : Text} {value : Value} :
    (name, value) ∈ rule.fields matched ↔
      ∃ kind node, value = .node node ∧ (⟨kind, some name⟩, node) ∈ rule.pattern.zip matched := by
  simp only [Rule.fields, List.mem_map, Prod.mk.injEq, Prod.exists]
  constructor
  · rintro ⟨key, node, hmem, rfl, rfl⟩
    obtain ⟨kind, hkind⟩ := mem_namedMatches.mp hmem
    exact ⟨kind, node, rfl, hkind⟩
  · rintro ⟨kind, node, rfl, hmem⟩
    exact ⟨name, node, mem_namedMatches.mpr ⟨kind, hmem⟩, rfl, rfl⟩

/-- Every field of a node is a node. -/
theorem Rule.exists_node_of_mem_fields {rule : Rule} {matched : List Node} {entry : Text × Value}
    (h : entry ∈ rule.fields matched) : ∃ child, entry.2 = .node child := by
  obtain ⟨_, node, hnode, _⟩ := Rule.mem_fields.mp h
  exact ⟨node, hnode⟩

/-- The match of an only element that is not bound passes through. -/
theorem Rule.assemble_lone {rule : Rule} {kind : ElementKind} (h : rule.pattern = [⟨kind, none⟩])
    (node : Node) (context : Context) : rule.assemble [node] context = node := by
  unfold Rule.assemble
  rw [h]
  rfl

/-- Of any other elements a rule makes a node of its own. -/
theorem Rule.assemble_eq_compositeNode {rule : Rule} {matched : List Node} (context : Context)
    (hnodup : rule.bindingNames.Nodup) (hlength : rule.pattern.length = matched.length)
    (hpattern : ∀ kind, rule.pattern ≠ [⟨kind, none⟩]) :
    rule.assemble matched context = rule.compositeNode (rule.fields matched) context := by
  have hlone : lone? (namedMatches rule.pattern matched) matched = none := by
    unfold lone?
    split
    · rename_i node hnone
      obtain ⟨⟨kind, binding⟩, heq⟩ := List.length_eq_one_iff.mp hlength
      have hnames := names_namedMatches hlength
      rw [hnone, heq] at hnames
      cases binding with
      | none => exact absurd heq (hpattern kind)
      | some name => cases hnames
    · rfl
  unfold Rule.assemble
  dsimp only
  rw [boundMatches_eq hlength hnodup, hlone]
  rfl

/-- Without configuration this is the composite of the fields. -/
theorem Rule.assemble_composite {rule : Rule} {matched : List Node} (context : Context)
    (hnodup : rule.bindingNames.Nodup) (hconfigure : rule.configure = none)
    (hlength : rule.pattern.length = matched.length)
    (hpattern : ∀ kind, rule.pattern ≠ [⟨kind, none⟩]) :
    rule.assemble matched context =
      .composite rule.name (rule.resultSchema (rule.fields matched)) (rule.fields matched) := by
  rw [Rule.assemble_eq_compositeNode context hnodup hlength hpattern, Rule.compositeNode, hconfigure]

/-! ## Schemas -/

/-- The schema of a composite as a result type prescribes it from the fields. A schema that says something
is stated as it is, and one that says nothing is inherited from an only field. A union lists the schemas
of the named fields that say something, in ascending order and each once. -/
inductive ResultType.Prescribes (fields : Fields) : ResultType → Value → Prop
  | stated {schema : Text} : schema ≠ unknownSchema → Prescribes fields (.fixed schema) (.str schema)
  | inherited {name : Text} {child : Node} : fields = [(name, .node child)] →
      child.schema.truthy = true → Prescribes fields (.fixed unknownSchema) child.schema
  | unknown : (∀ name child, fields = [(name, .node child)] → child.schema.truthy = false) →
      Prescribes fields (.fixed unknownSchema) (.str unknownSchema)
  | unknownUnion {names : List Text} :
      (∀ name ∈ names, ∀ child, (name, .node child) ∈ fields →
        ∀ s, child.schema = .str s → s = [] ∨ s = unknownSchema) →
      Prescribes fields (.union names) (.str unknownSchema)
  | union {names schemas : List Text} : schemas ≠ [] → schemas.Pairwise (· < ·) →
      (∀ s, s ∈ schemas ↔ s ≠ [] ∧ s ≠ unknownSchema ∧
        ∃ name ∈ names, ∃ child, (name, .node child) ∈ fields ∧ child.schema = .str s) →
      Prescribes fields (.union names) (.str (Text.join (txt " | ") schemas))

/-- A schema that says something is the one that is prescribed. -/
theorem ResultType.Prescribes.eq_of_fixed {fields : Fields} {stated : Text} {schema : Value}
    (h : (ResultType.fixed stated).Prescribes fields schema) (hne : stated ≠ unknownSchema) :
    schema = .str stated := by
  generalize htype : ResultType.fixed stated = type at h
  cases h with
  | stated => rw [ResultType.fixed.inj htype]
  | inherited | unknown => exact absurd (ResultType.fixed.inj htype) hne
  | unknownUnion | union => cases htype

/-- A schema that says nothing is inherited from an only child, unless that one is empty. -/
theorem ResultType.Prescribes.eq_of_unknown {name : Text} {child : Node} {schema : Value}
    (h : (ResultType.fixed unknownSchema).Prescribes [(name, .node child)] schema) :
    schema = if child.schema.truthy then child.schema else .str unknownSchema := by
  generalize htype : ResultType.fixed unknownSchema = type at h
  generalize hfields : [(name, Value.node child)] = fields at h
  cases h with
  | stated hne => exact absurd (ResultType.fixed.inj htype).symm hne
  | inherited hchild htruthy =>
    rw [← hfields] at hchild
    cases hchild
    rw [if_pos htruthy]
  | unknown hfalsy =>
    rw [if_neg (Bool.eq_false_iff.mp (hfalsy name child hfields.symm))]
  | unknownUnion | union => cases htype

/-- A node has a known schema if this is a text that says something. -/
theorem knownSchema?_eq_some {node : Node} {s : Text} :
    knownSchema? (.node node) = some s ↔ node.schema = .str s ∧ s ≠ [] ∧ s ≠ unknownSchema := by
  unfold knownSchema? Value.schema?
  constructor
  · intro h
    split at h
    · rename_i schema hschema
      split at h
      · cases h
      · rename_i hknown
        cases h
        rw [Bool.or_eq_true, not_or, List.isEmpty_iff, beq_iff_eq] at hknown
        exact ⟨Option.some.inj hschema, hknown⟩
    · cases h
  · rintro ⟨hschema, hne, hknown⟩
    simp [hschema, hne, hknown]

variable {fields : Fields}

/-- The schemas of a union are the known schemas of the named fields. -/
theorem mem_knownSchemas (hnodup : fields.names.Nodup)
    (hnodes : ∀ entry ∈ fields, ∃ child, entry.2 = .node child) {names : List Text} {s : Text} :
    s ∈ names.filterMap (fun name => (fields.find? name).bind knownSchema?) ↔
      s ≠ [] ∧ s ≠ unknownSchema ∧
        ∃ name ∈ names, ∃ child, (name, .node child) ∈ fields ∧ child.schema = .str s := by
  simp only [List.mem_filterMap, Option.bind_eq_some_iff]
  constructor
  · rintro ⟨name, hname, value, hvalue, hknown⟩
    have hmem := (Entries.find?_eq_some hnodup).mp hvalue
    obtain ⟨child, rfl⟩ := hnodes _ hmem
    obtain ⟨hschema, hne, hunknown⟩ := knownSchema?_eq_some.mp hknown
    exact ⟨hne, hunknown, name, hname, child, hmem, hschema⟩
  · rintro ⟨hne, hunknown, name, hname, child, hmem, hschema⟩
    exact ⟨name, hname, .node child, (Entries.find?_eq_some hnodup).mpr hmem,
      knownSchema?_eq_some.mpr ⟨hschema, hne, hunknown⟩⟩

/-- The union schema of nodes is the one that is prescribed. -/
theorem prescribes_unionSchema (hnodup : fields.names.Nodup)
    (hnodes : ∀ entry ∈ fields, ∃ child, entry.2 = .node child) (names : List Text) :
    (ResultType.union names).Prescribes fields (.str (unionSchema fields names)) := by
  have hmem : ∀ s, s ∈ names.filterMap (fun name => (fields.find? name).bind knownSchema?) ↔ _ :=
    fun s => mem_knownSchemas hnodup hnodes
  unfold unionSchema joinSchemas
  generalize names.filterMap (fun name => (fields.find? name).bind knownSchema?) = schemas at hmem
  split
  · rename_i hempty
    rw [List.isEmpty_iff.mp hempty] at hmem
    refine .unknownUnion fun name hname child hchild s hschema => ?_
    by_contra hstated
    rw [not_or] at hstated
    exact List.not_mem_nil ((hmem s).mpr ⟨hstated.1, hstated.2, name, hname, child, hchild, hschema⟩)
  · rename_i hne
    refine .union (fun hnil => ?_) (Text.pairwise_sortedSet schemas) fun s => ?_
    · obtain ⟨s, hs⟩ := List.exists_mem_of_ne_nil schemas fun h => hne (List.isEmpty_iff.mpr h)
      exact List.not_mem_nil (hnil ▸ Text.mem_sortedSet.mpr hs)
    · rw [Text.mem_sortedSet, hmem]

/-- A lone field of a node gives its schema, unless that is empty. -/
theorem inheritedSchema?_eq_some {schema : Value}
    (hnodes : ∀ entry ∈ fields, ∃ child, entry.2 = .node child) :
    inheritedSchema? fields = some schema ↔
      ∃ name child, fields = [(name, .node child)] ∧ child.schema = schema ∧ schema.truthy = true := by
  unfold inheritedSchema?
  constructor
  · intro h
    split at h
    · rename_i name value
      obtain ⟨child, hchild⟩ := hnodes _ List.mem_cons_self
      dsimp only at hchild
      subst hchild
      obtain ⟨heq, htruthy⟩ := Option.filter_eq_some_iff.mp h
      exact ⟨name, child, rfl, Option.some.inj heq, htruthy⟩
    · cases h
  · rintro ⟨name, child, rfl, rfl, htruthy⟩
    exact Option.filter_eq_some_iff.mpr ⟨rfl, htruthy⟩

/-- The schema of a composite of nodes is the one that is prescribed. -/
theorem Rule.prescribes_resultSchema (rule : Rule) (hnodup : fields.names.Nodup)
    (hnodes : ∀ entry ∈ fields, ∃ child, entry.2 = .node child) :
    rule.resultType.Prescribes fields (rule.resultSchema fields) := by
  unfold Rule.resultSchema
  cases rule.resultType with
  | union names => exact prescribes_unionSchema hnodup hnodes names
  | fixed schema =>
    dsimp only
    by_cases hunknown : schema = unknownSchema
    · subst hunknown
      rw [if_pos (beq_self_eq_true _)]
      cases hinherited : inheritedSchema? fields with
      | some inherited =>
        obtain ⟨name, child, hfields, rfl, htruthy⟩ := (inheritedSchema?_eq_some hnodes).mp hinherited
        exact .inherited hfields htruthy
      | none =>
        refine .unknown fun name child hfields => ?_
        by_contra htruthy
        rw [Bool.not_eq_false] at htruthy
        rw [(inheritedSchema?_eq_some hnodes).mpr ⟨name, child, hfields, rfl, htruthy⟩] at hinherited
        cases hinherited
    · rw [if_neg (by simpa using hunknown)]
      exact .stated hunknown

/-! ## Atoms -/

/-- The rules of the atoms have one unbound terminal, but for the rule of parentheses. -/
theorem atom_cases {rule : Rule} (h : rule ∈ atomRules) :
    (∃ t, rule.pattern = [⟨.terminal t, none⟩]) ∨ rule = parenthesesRule := by
  simp only [atomRules, List.mem_cons, List.not_mem_nil, or_false] at h
  rcases h with rfl | rfl | rfl | rfl | rfl | rfl | rfl
  all_goals first
    | exact .inl ⟨_, rfl⟩
    | exact .inr rfl

end Mixfix
