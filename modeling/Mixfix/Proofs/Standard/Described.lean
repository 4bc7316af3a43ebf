import Mixfix.Proofs.Standard.Parse
import Mixfix.Proofs.Standard.Typed

/-!
# Schemas of declared variables are sound

Where every variable is declared to be of a primitive type, the schema of a tree is a union of primitive types
and the value of the tree is of one of them (`value_belongs`). The induction carries both: that no schema says
nothing, and that every value belongs to its schema (`Described`). So a union of branches leaves none of them
out.

That there is a value is not said: a division by zero has none.
-/

set_option autoImplicit false

namespace Mixfix

namespace Standard

section

variable {context : Context} {data : Fields} {tree : Node} {v : Value}

/-! ## Typed trees -/

/-- All variables of a tree are declared. -/
def Declares (context : Context) (tree : Node) : Prop :=
  ∀ name schema, Node.Within (.identifier name schema) tree → context.has name = true

theorem Declares.mono (h : Declares context tree) {node : Node} (hwithin : node.Within tree) :
    Declares context node :=
  fun name schema hname => h name schema (hname.trans hwithin)

variable [Checker]

/-- A node whose schema is a union of primitive types that its values belong to. -/
def Described (data : Fields) (tree : Node) : Prop :=
  ∃ schema, tree.schema = .str schema ∧ Primitive.IsUnion schema ∧
    ∀ v, (Eval.node standardRules data tree).once = .ok v → v.BelongsTo schema

/-- A described node whose schema is a primitive type has values of this type. -/
theorem Described.holds (h : Described data tree) {type : Primitive}
    (hschema : tree.schema = .str type.text) (hv : (Eval.node standardRules data tree).once = .ok v) :
    type.holds v = true := by
  obtain ⟨schema, heq, -, hvalues⟩ := h
  rw [hschema] at heq
  cases heq
  exact Primitive.belongsTo_text.mp (hvalues v hv)

/-- A node of a primitive type is described by it. -/
theorem described_of_holds (type : Primitive) (hschema : tree.schema = .str type.text)
    (h : ∀ v, (Eval.node standardRules data tree).once = .ok v → type.holds v = true) :
    Described data tree :=
  ⟨type.text, hschema, type.isUnion_text, fun v hv => Primitive.belongsTo_text.mpr (h v hv)⟩

/-- The union of what describes the branches describes a conditional. -/
theorem described_conditional {condition consequent otherwise : Node} {schema : Value}
    (hconsequent : Described data consequent) (hotherwise : Described data otherwise)
    (hschema : (ResultType.union ["then", "otherwise"]).Prescribes
      (conditionalFields condition consequent otherwise) schema) :
    Described data
      (.composite (txt "ternary") schema (conditionalFields condition consequent otherwise)) := by
  obtain ⟨first, hfirst, hunion, hvalues⟩ := hconsequent
  obtain ⟨second, hsecond, hunion', hvalues'⟩ := hotherwise
  -- Both branches say something, so none is left out of the union.
  rcases Typed.schema_conditional hschema with ⟨-, hnone⟩ | ⟨schemas, hne, rfl, hmem⟩
  · rcases hnone _ first (.inl rfl) hfirst with hempty | hunknown
    · exact absurd hempty hunion.ne_nil
    · exact absurd hunknown hunion.ne_unknown
  · have hfirstMem : first ∈ schemas := (hmem first).mpr ⟨hunion.ne_nil, hunion.ne_unknown, .inl hfirst⟩
    have hsecondMem : second ∈ schemas :=
      (hmem second).mpr ⟨hunion'.ne_nil, hunion'.ne_unknown, .inr hsecond⟩
    have hall : ∀ schema ∈ schemas, Primitive.IsUnion schema := by
      intro schema hschema
      obtain ⟨-, -, hbranch | hbranch⟩ := (hmem schema).mp hschema
      · rw [hfirst] at hbranch
        cases hbranch
        exact hunion
      · rw [hsecond] at hbranch
        cases hbranch
        exact hunion'
    refine ⟨_, rfl, Primitive.isUnion_join hne hall, fun v hv => ?_⟩
    rw [once_conditional] at hv
    obtain ⟨c, -, hv⟩ := bind_eq_ok.mp hv
    obtain ⟨a, ha, hv⟩ := bind_eq_ok.mp hv
    obtain ⟨b, hb, hv⟩ := bind_eq_ok.mp hv
    cases hv
    split
    · exact Primitive.belongsTo_join hall hfirstMem (hvalues a ha)
    · exact Primitive.belongsTo_join hall hsecondMem (hvalues' b hb)

/-- **Where all variables are declared to be of primitive types, typed trees are described.** -/
theorem Typed.described (hsorts : Checker.Sorts) (h : Typed context tree)
    (hcontext : ∀ entry ∈ context, ∃ type : Primitive, entry.2 = type.text)
    (hdeclared : Declares context tree) : Described data tree := by
  induction h with
  | literal raw type htype =>
    refine described_of_holds type rfl fun v hv => ?_
    cases hv
    exact htype
  | identifier name =>
    obtain ⟨declared, hfind⟩ := Option.isSome_iff_exists.mp (hdeclared name _ (.root _))
    obtain ⟨type, htype⟩ := hcontext _ (Entries.mem_of_find? hfind)
    have hschema : Terminal.declaredSchema context name = type.text := by
      rw [Terminal.declaredSchema, hfind, Option.getD_some]
      exact htype
    rw [hschema]
    exact described_of_holds type rfl fun v hv => holds_of_identifier hsorts hv
  | @parentheses inner schema _ hschema ih =>
    obtain ⟨innerSchema, hinner, hunion, hvalues⟩ := ih (hdeclared.mono (Typed.inner_within inner _))
    have htruthy : inner.schema.truthy = true := by
      rw [hinner]
      simpa [Value.truthy] using hunion.ne_nil
    rw [hschema.eq_of_unknown, if_pos htruthy]
    exact ⟨innerSchema, hinner, hunion, hvalues⟩
  | @binary op left right hop _ _ hrequired ihl ihr =>
    have hleft := ihl (hdeclared.mono (Typed.left_within op left right))
    have hright := ihr (hdeclared.mono (Typed.right_within op left right))
    obtain ⟨type, hgives⟩ := Infix.exists_gives hop
    refine described_of_holds type (congrArg Value.str hgives.schema) fun v hv => ?_
    rw [once_binary hop] at hv
    obtain ⟨a, ha, hv⟩ := bind_eq_ok.mp hv
    obtain ⟨b, hb, hv⟩ := bind_eq_ok.mp hv
    refine hgives.holds a b v (fun hneeds => ?_) (mapError_eq_ok.mp hv)
    obtain ⟨hleftSchema, hrightSchema⟩ := hrequired _ hneeds
    exact ⟨hleft.holds hleftSchema ha, hright.holds hrightSchema hb⟩
  | negation _ _ _ =>
    refine described_of_holds .boolean rfl fun v hv => ?_
    rw [once_negation] at hv
    obtain ⟨a, -, hv⟩ := bind_eq_ok.mp hv
    cases hv
    rfl
  | conditional _ _ _ _ hschema _ ihconsequent ihotherwise =>
    have hconsequent := ihconsequent (hdeclared.mono (Typed.consequent_within _ _ _ _))
    have hotherwise := ihotherwise (hdeclared.mono (Typed.otherwise_within _ _ _ _))
    exact described_conditional hconsequent hotherwise hschema

/-! ## Parsed trees -/

variable {grammar : Grammar} {s rest : Text} {cache : ShapeCache}

/-- **Schemas are sound where every variable is declared.** -/
theorem value_belongs (hsorts : Checker.Sorts) (hbuild : Grammar.build standardRules = .ok grammar)
    (hcontext : ∀ entry ∈ context, ∃ type : Primitive, entry.2 = type.text)
    (hparse : grammar.parse context s = .ok (some ⟨tree, rest⟩))
    (hdeclared : ∀ name schema, Node.Within (.identifier name schema) tree → context.has name = true)
    (hcache : cache.Faithful) (hvalue : (evaluate standardRules data (.node tree) cache).1 = .ok v) :
    ∃ schema, tree.schema = .str schema ∧ v.BelongsTo schema := by
  obtain rfl : standardGrammar = grammar := Except.ok.inj (build_standardRules.symm.trans hbuild)
  rw [Parse.parse_eq_plain] at hparse
  rw [evaluate_fst hcache] at hvalue
  have htyped : Typed context tree := typed_of_plain hparse (.root tree)
  obtain ⟨schema, hschema, -, hvalues⟩ := htyped.described hsorts hcontext hdeclared
  exact ⟨schema, hschema, hvalues v hvalue⟩

end

/-- A conditional of two types, whose value is of one of them. -/
theorem value_belongs_conditional :
    let context : Context := [(txt "b", txt "boolean")]
    let data : Fields := [(txt "b", .bool false)]
    ∃ tree, standardGrammar.parse context (txt "b ? 1 : \"a\"") = .ok (some ⟨tree, []⟩) ∧
      evaluateOnce standardRules data (.node tree) = .ok (.str (txt "a")) ∧
      ∃ schema, tree.schema = .str schema ∧ Value.BelongsTo (.str (txt "a")) schema := by
  intro context data
  let b : Leaf := .identifier (txt "b") ⟨by decide, by decide⟩ fun k => by cases k <;> decide
  let one : Leaf := .number ⟨false, txt "1", [], by decide, by decide, rfl⟩ (by decide)
  let a : Leaf := .string '"' (txt "a") (by decide) (.plain (by decide) (by decide) .nil)
  let choice : Tree := .conditional (.leaf b) (.leaf one) (.leaf a)
  have hparse : standardGrammar.parse context (txt "b ? 1 : \"a\"") =
      .ok (some ⟨choice.node context, []⟩) := by
    have htext : txt "b ? 1 : \"a\"" = choice.text := by decide
    rw [htext, Parse.parse_eq_plain]
    exact Tree.plain_text ⟨rfl, trivial, rfl, trivial, trivial⟩
  have hvalue : evaluateOnce standardRules data (.node (choice.node context)) = .ok (.str (txt "a")) := by
    rfl
  have hcontext : ∀ entry ∈ context, ∃ type : Primitive, entry.2 = type.text :=
    List.forall_mem_singleton.mpr ⟨.boolean, rfl⟩
  have hdeclared : ∀ name schema, Node.Within (.identifier name schema) (choice.node context) →
      context.has name = true := by
    intro name schema hwithin
    have hall : (choice.node context).nodes.all (Node.admits context.has) = true := by rfl
    exact hwithin.admitted hall
  exact ⟨_, hparse, hvalue,
    value_belongs Shape.sorts build_standardRules hcontext hparse hdeclared ShapeCache.faithful_nil hvalue⟩

end Standard

end Mixfix
