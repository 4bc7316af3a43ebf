import Mixfix.Proofs.Descriptor.Join
import Mixfix.Proofs.Descriptor.Literal
import Mixfix.Proofs.Parse.Leaves

/-!
# Schemas of parsed nodes

A parse builds a node where a terminal matches, and where a rule makes one of nodes that were built before
(`Grammar.Builds`). The schema of each of them is a descriptor that is accepted, if those are that the rules
state and the context declares: a JSON string is one, and so is what is inherited or joined of schemas that are
(**`parse_accepted`**).

A configuration may put nodes of its own into the fields of a node (`Grammar.Configures`). All others that occur in
a parsed tree were built, wherever a configuration has moved them.
-/

set_option autoImplicit false

namespace Mixfix

open Descriptor (Accepted)

/-- A node whose schema is a descriptor that is accepted. -/
def Node.Describable (node : Node) : Prop :=
  ∃ schema, node.schema = .str schema ∧ Accepted schema

/-- A node occurs in a value: it is the value, or it occurs in an item of a list, an entry of a map or a field of a
node. -/
inductive Node.Occurs (node : Node) : Value → Prop
  | self : Occurs node (.node node)
  | item {v : Value} {items : List Value} : v ∈ items → Occurs node v → Occurs node (.list items)
  | entry {name : Text} {v : Value} {entries : List (Text × Value)} : (name, v) ∈ entries → Occurs node v →
      Occurs node (.map entries)
  | field {rule name : Text} {schema v : Value} {fields : List (Text × Value)} : (name, v) ∈ fields →
      Occurs node v → Occurs node (.node (.composite rule schema fields))

/-- Only a leaf itself occurs in it. -/
theorem Node.Occurs.eq_of_isLeaf {node leaf : Node} (h : node.Occurs (.node leaf)) (hleaf : leaf.isLeaf = true) :
    node = leaf := by
  cases h with
  | self => rfl
  | field _ _ => cases hleaf

/-- A rule whose schema, where it states one, is a descriptor that is accepted. -/
def Rule.StatesAccepted (rule : Rule) : Prop :=
  ∀ schema, rule.resultType = .fixed schema → Accepted schema

/-- All schemas that a context declares are accepted. -/
def Context.DeclaresAccepted (context : Context) : Prop :=
  ∀ name schema, context.find? name = some schema → Accepted schema

namespace Grammar

/-- A rule is at some level of a grammar. -/
def HasRule (grammar : Grammar) (rule : Rule) : Prop :=
  ∃ (index : Nat) (level : Level), grammar[index]? = some level ∧ rule ∈ level.rules

/-- What a parse builds: the matches of the terminals of its rules, and what its rules make of nodes that were
built. -/
inductive Builds (grammar : Grammar) (context : Context) : Node → Prop
  | terminal {rule : Rule} {t : Terminal} {binding : Option Text} {s : Text} {r : Match Node} :
      grammar.HasRule rule → ⟨.terminal t, binding⟩ ∈ rule.pattern → t.match? context s = .ok (some r) →
      Builds grammar context r.value
  | rule {rule : Rule} {matched : List Node} : grammar.HasRule rule → rule.pattern.length = matched.length →
      (∀ node ∈ matched, Builds grammar context node) → Builds grammar context (rule.assemble matched context)

/-- A node that the configuration of a rule makes: it occurs in the fields that are made of the matches of the rule,
but in none of the matches. -/
def Configures (grammar : Grammar) (context : Context) (node : Node) : Prop :=
  ∃ rule configure matched name v, grammar.HasRule rule ∧ rule.configure = some configure ∧
    (∀ m ∈ matched, grammar.Builds context m) ∧ (name, v) ∈ configure (rule.fields matched) context ∧
    node.Occurs v ∧ ∀ m ∈ matched, ¬ node.Occurs (.node m)

end Grammar

/-! ## Schemas of nodes that are built -/

theorem accepted_unknown : Accepted unknownSchema := ⟨_, rfl⟩

/-- The match of a terminal has a schema that is accepted. -/
theorem Terminal.describable_of_match? {t : Terminal} {context : Context} {s : Text} {r : Match Node}
    (hcontext : Context.DeclaresAccepted context) (h : t.match? context s = .ok (some r)) : r.value.Describable := by
  cases matches_of_match? h with
  | number | string => exact ⟨_, rfl, _, rfl⟩
  | keyword k _ _ => cases k <;> exact ⟨_, rfl, _, rfl⟩
  | const value _ => exact ⟨_, rfl, _, Descriptor.read_quote value⟩
  | @identifier name =>
    refine ⟨declaredSchema context name, rfl, ?_⟩
    unfold declaredSchema
    cases hfind : context.find? name with
    | none => exact accepted_unknown
    | some schema => exact hcontext _ _ hfind

/-- A schema that is prescribed is accepted, if the one that is stated is and those of the fields are. -/
theorem ResultType.Prescribes.accepted {fields : Fields} {type : ResultType} {schema : Value}
    (h : type.Prescribes fields schema) (hstated : ∀ s, type = .fixed s → Accepted s)
    (hfields : ∀ name child, (name, .node child) ∈ fields → child.Describable) :
    ∃ s, schema = .str s ∧ Accepted s := by
  cases h with
  | stated => exact ⟨_, rfl, hstated _ rfl⟩
  | inherited heq =>
    rw [heq] at hfields
    exact hfields _ _ List.mem_cons_self
  | unknown | unknownUnion => exact ⟨_, rfl, accepted_unknown⟩
  | union hne _ hschemas =>
    refine ⟨_, rfl, Descriptor.Accepted.join hne fun s hs => ?_⟩
    obtain ⟨-, -, name, -, child, hchild, hschema⟩ := (hschemas s).mp hs
    obtain ⟨s', hs', haccepted⟩ := hfields name child hchild
    rw [hschema] at hs'
    exact Value.str.inj hs' ▸ haccepted

/-- What a rule makes of nodes with schemas that are accepted has one, too. -/
theorem Rule.describable_assemble {rule : Rule} {matched : List Node} (context : Context)
    (hnodup : rule.bindingNames.Nodup) (hstates : rule.StatesAccepted)
    (hlength : rule.pattern.length = matched.length) (hmatched : ∀ node ∈ matched, node.Describable) :
    (rule.assemble matched context).Describable := by
  by_cases hpattern : ∃ kind, rule.pattern = [⟨kind, none⟩]
  · obtain ⟨kind, hpattern⟩ := hpattern
    rw [hpattern] at hlength
    obtain ⟨node, rfl⟩ := List.length_eq_one_iff.mp hlength.symm
    rw [Rule.assemble_lone hpattern]
    exact hmatched node List.mem_cons_self
  · rw [Rule.assemble_eq_compositeNode context hnodup hlength (not_exists.mp hpattern)]
    have hprescribes := rule.prescribes_resultSchema (Rule.names_fields hlength ▸ hnodup)
      fun _ hentry => Rule.exists_node_of_mem_fields hentry
    refine hprescribes.accepted hstates fun name child hchild => ?_
    obtain ⟨kind, node, hnode, hzip⟩ := Rule.mem_fields.mp hchild
    rw [Value.node.inj hnode]
    exact hmatched node (List.of_mem_zip hzip).2

namespace Parse

open Engine

variable {grammar : Grammar} {rules : List Rule} {context : Context}

/-- A rule of the atoms states a schema that is accepted. -/
theorem statesAccepted_of_mem_atomRules {rule : Rule} (h : rule ∈ atomRules) : rule.StatesAccepted := by
  simp only [atomRules, List.mem_cons, List.not_mem_nil, or_false] at h
  rcases h with rfl | rfl | rfl | rfl | rfl | rfl | rfl
  all_goals
    intro schema hschema
    cases hschema
    exact ⟨_, rfl⟩

/-- A rule of a grammar binds distinct names and states a schema that is accepted. -/
theorem nodup_and_states (hrules : Admissible rules) (hbuild : Grammar.build rules = .ok grammar)
    (hstates : ∀ rule ∈ rules, rule.StatesAccepted) {rule : Rule} (hrule : grammar.HasRule rule) :
    rule.bindingNames.Nodup ∧ rule.StatesAccepted := by
  obtain ⟨index, level, hlevel, hmem⟩ := hrule
  rcases Grammar.places_or_atom hbuild hlevel hmem with ⟨-, hrule⟩ | hatom
  · exact ⟨(hrules.defined rule hrule).checked.nodup_bindings, hstates rule hrule⟩
  · exact ⟨nodup_of_mem_atomRules hatom, statesAccepted_of_mem_atomRules hatom⟩

/-- Every node that is built has a schema that is accepted. -/
theorem describable_of_builds (hrules : Admissible rules) (hbuild : Grammar.build rules = .ok grammar)
    (hstates : ∀ rule ∈ rules, rule.StatesAccepted) (hcontext : Context.DeclaresAccepted context) {node : Node}
    (h : grammar.Builds context node) : node.Describable := by
  induction h with
  | terminal _ _ hmatch => exact Terminal.describable_of_match? hcontext hmatch
  | rule hrule hlength _ ih =>
    obtain ⟨hnodup, hstates⟩ := nodup_and_states hrules hbuild hstates hrule
    exact Rule.describable_assemble context hnodup hstates hlength ih

/-- Whatever occurs in a node that is built was built itself, or a configuration has made it. -/
theorem builds_or_configures (hrules : Admissible rules) (hbuild : Grammar.build rules = .ok grammar)
    (hstates : ∀ rule ∈ rules, rule.StatesAccepted) {root node : Node} (h : grammar.Builds context root)
    (hoccurs : node.Occurs (.node root)) : grammar.Builds context node ∨ grammar.Configures context node := by
  induction h generalizing node with
  | terminal hrule hmem hmatch =>
    rw [hoccurs.eq_of_isLeaf (Terminal.isLeaf_of_match? hmatch)]
    exact .inl (.terminal hrule hmem hmatch)
  | @rule rule matched hrule hlength hmatched ih =>
    obtain ⟨hnodup, -⟩ := nodup_and_states hrules hbuild hstates hrule
    by_cases hpattern : ∃ kind, rule.pattern = [⟨kind, none⟩]
    · obtain ⟨kind, hpattern⟩ := hpattern
      rw [hpattern] at hlength
      obtain ⟨child, rfl⟩ := List.length_eq_one_iff.mp hlength.symm
      rw [Rule.assemble_lone hpattern] at hoccurs
      exact ih child List.mem_cons_self hoccurs
    · have hroot := Grammar.Builds.rule hrule hlength hmatched
      rw [Rule.assemble_eq_compositeNode context hnodup hlength (not_exists.mp hpattern)] at hoccurs hroot
      cases hoccurs with
      | self => exact .inl hroot
      | field hfield hoccurs =>
        by_cases hmatch : ∃ m ∈ matched, node.Occurs (.node m)
        · obtain ⟨m, hm, hoccurs⟩ := hmatch
          exact ih m hm hoccurs
        -- What occurs in no match is no field of the rule, so it has a configuration.
        · have hnot : ∀ m ∈ matched, ¬ node.Occurs (.node m) := fun m hm h => hmatch ⟨m, hm, h⟩
          cases hconfigure : rule.configure with
          | some configure =>
            rw [hconfigure] at hfield
            exact .inr ⟨rule, configure, matched, _, _, hrule, hconfigure, hmatched, hfield, hoccurs, hnot⟩
          | none =>
            rw [hconfigure] at hfield
            obtain ⟨kind, m, rfl, hzip⟩ := Rule.mem_fields.mp hfield
            exact absurd hoccurs (hnot m (List.of_mem_zip hzip).2)

/-- A rule whose configuration makes no nodes: what occurs in the fields that it gives occurs in those that it takes. -/
def MakesNoNodes (context : Context) (rule : Rule) : Prop :=
  ∀ configure, rule.configure = some configure → ∀ (bindings : Fields) (node : Node) (name : Text) (v : Value),
    (name, v) ∈ configure bindings context → node.Occurs v → ∃ field ∈ bindings, node.Occurs field.2

/-- Where no configuration makes nodes, all nodes are built. -/
theorem not_configures (hbuild : Grammar.build rules = .ok grammar)
    (hmakes : ∀ rule ∈ rules, MakesNoNodes context rule) (node : Node) : ¬ grammar.Configures context node := by
  rintro ⟨rule, configure, matched, name, v, ⟨index, level, hlevel, hmem⟩, hconfigure, -, hfield, hoccurs, hnot⟩
  rcases Grammar.places_or_atom hbuild hlevel hmem with ⟨-, hrule⟩ | hatom
  · obtain ⟨⟨key, taken⟩, htaken, hoccurs⟩ := hmakes rule hrule configure hconfigure _ node name v hfield hoccurs
    obtain ⟨kind, m, rfl, hzip⟩ := Rule.mem_fields.mp htaken
    exact hnot m (List.of_mem_zip hzip).2 hoccurs
  · rw [configure_of_mem_atomRules hatom] at hconfigure
    cases hconfigure

/-- What the plain parse gives was built. -/
theorem builds_of_plain {start : Nat} {s : Text} {r : Match Node}
    (h : plain grammar context start s = .ok (some r)) : grammar.Builds context r.value := by
  refine plain_induction (P := fun _ _ r => grammar.Builds context r.value)
    (fun parse hparse start s r hfirst => ?_) h
  obtain ⟨index, level, rule, -, hlevel, hrule', hmatch⟩ := exists_rule_of_firstSome hfirst
  have hrule : grammar.HasRule rule := ⟨index, level, hlevel, hrule'⟩
  obtain ⟨matched, hmatched, rfl⟩ := matchRule_eq_some.mp hmatch
  have hall := forall₂_of_matchElements (P := fun kind node =>
      (∃ t s r, kind = .terminal t ∧ t.match? context s = .ok (some r) ∧ r.value = node) ∨
        grammar.Builds context node)
    (fun kind s r hmatch => by
      cases kind with
      | terminal t => exact .inl ⟨t, s, r, rfl, matchElement_terminal.mp hmatch, rfl⟩
      | subexpression role constraint => exact .inr (hparse _ _ _ (matchElement_subexpression.mp hmatch).1))
    hmatched
  refine .rule hrule hall.length_eq fun node hnode => ?_
  have hzips : node ∈ (rule.pattern.zip matched.value).map Prod.snd := by
    rwa [List.map_snd_zip (Nat.le_of_eq hall.length_eq.symm)]
  obtain ⟨⟨⟨kind, binding⟩, _⟩, hzip, rfl⟩ := List.mem_map.mp hzips
  rcases (List.forall₂_iff_zip.mp hall).2 hzip with ⟨t, s, r, rfl, hmatch, rfl⟩ | hbuilt
  · exact .terminal hrule (List.of_mem_zip hzip).1 hmatch
  · exact hbuilt

/-- **Every schema that a parse computes is a descriptor that is accepted**, if those are that the rules state and
that the context declares. Every node that is built has such a schema, and what occurs in the parsed tree was built
unless a configuration has made it. -/
theorem parse_accepted (hrules : Admissible rules) (hbuild : Grammar.build rules = .ok grammar)
    (hstates : ∀ rule ∈ rules, rule.StatesAccepted) (hcontext : Context.DeclaresAccepted context) {s : Text}
    {r : Match Node} (h : grammar.parse context s = .ok (some r)) :
    (∀ node, grammar.Builds context node → node.Describable) ∧
      grammar.Builds context r.value ∧
      ∀ node : Node, node.Occurs (.node r.value) →
        grammar.Builds context node ∨ grammar.Configures context node := by
  rw [parse_eq_plain] at h
  have hbuilt := builds_of_plain h
  exact ⟨fun node => describable_of_builds hrules hbuild hstates hcontext, hbuilt,
    fun node => builds_or_configures hrules hbuild hstates hbuilt⟩

/-- A rule that joins the schemas of a sign and an item, and puts both into a list. -/
def signedRule : Rule where
  name := txt "signed"
  pattern := [⟨.terminal (.const (txt "@")), some (txt "sign")⟩, ⟨.subexpression .lhs none, some (txt "item")⟩]
  precedence := 1
  resultType := .union [txt "sign", txt "item"]
  configure := some fun fields _ => [(txt "parts", .list (fields.map Prod.snd))]
  eval := none

/-- The node of a sign before a variable in parentheses. -/
def signedItem : Node :=
  .composite (txt "signed") (.str (txt "\"@\" | number[]")) [
    (txt "parts", .list [
      .node (.const (.str (txt "\"@\""))),
      .node (.composite (txt "parentheses") (.str (txt "number[]")) [
        (txt "inner", .node (.identifier (txt "x") (.str (txt "number[]"))))])])]

/-- A union of a sign and of what a variable in parentheses is declared as, both of which are moved into a list. -/
theorem parse_accepted_signed :
    ∃ grammar, Grammar.build [signedRule] = .ok grammar ∧
      grammar.parse [(txt "x", txt "number[]")] (txt "@ (x)") = .ok (some ⟨signedItem, []⟩) ∧
      ∀ node : Node, node.Occurs (.node signedItem) → node.Describable := by
  have hrules : Admissible [signedRule] :=
    ⟨List.forall_mem_singleton.mpr (Rule.isDefined_of_draft rfl), List.nodup_singleton _,
      List.forall_mem_singleton.mpr rfl⟩
  have hbuild : Grammar.build [signedRule] = .ok [⟨some 1, [signedRule]⟩, atomLevel] := rfl
  have hstates : ∀ rule ∈ [signedRule], rule.StatesAccepted :=
    List.forall_mem_singleton.mpr nofun
  have hcontext : Context.DeclaresAccepted [(txt "x", txt "number[]")] := by
    intro name schema h
    have hmem := Entries.mem_of_find? h
    cases List.mem_singleton.mp hmem
    exact ⟨_, rfl⟩
  have hmakes : ∀ rule ∈ [signedRule], MakesNoNodes [(txt "x", txt "number[]")] rule := by
    refine List.forall_mem_singleton.mpr fun configure hconfigure bindings node name v hmem hoccurs => ?_
    cases hconfigure
    cases List.mem_singleton.mp hmem
    cases hoccurs with
    | item hitem hoccurs =>
      obtain ⟨field, hfield, rfl⟩ := List.mem_map.mp hitem
      exact ⟨field, hfield, hoccurs⟩
  have hparse : Grammar.parse [⟨some 1, [signedRule]⟩, atomLevel] [(txt "x", txt "number[]")] (txt "@ (x)") =
      .ok (some ⟨signedItem, []⟩) := by
    rw [parse_eq_plain]
    rfl
  obtain ⟨haccepted, -, hoccurring⟩ := parse_accepted hrules hbuild hstates hcontext hparse
  refine ⟨_, hbuild, hparse, fun node hoccurs => haccepted node ?_⟩
  exact (hoccurring node hoccurs).resolve_right (not_configures hbuild hmakes node)

end Parse

end Mixfix
