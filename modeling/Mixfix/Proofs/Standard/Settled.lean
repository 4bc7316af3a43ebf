import Mixfix.Proofs.Standard.Parse
import Mixfix.Proofs.Standard.Typed

/-!
# Operands of the required types

A variable whose schema says nothing may have any value. An operator that requires a schema takes no such
variable for an operand, but it takes a conditional with one branch of that schema and such a variable for the
other branch, since a union leaves out what says nothing. So operands are of the types that are required
exactly as far as the data sees to it: `Settled` asks of the variables that an operand can take its value from
to be of the type that it has to be of. Then it has a value of this type if it has one, and no operation meets
operands that it does not take (`operands_supplied`).

The types are told one by one. Operands that have to be truth values may be anything, as no operator fails on
them.
-/

set_option autoImplicit false

namespace Mixfix

namespace Standard

section

variable {context : Context} {data : Fields} {tree : Node} {v : Value}

/-! ## Variables that say nothing -/

/-- A node that another one takes its value from: what is inside of parentheses, or a branch of a
conditional, as far as this goes on. -/
inductive Passes : Node → Node → Prop
  | self (node : Node) : Passes node node
  | inner {source inner : Node} {schema : Value} : Passes source inner →
      Passes source (.composite (txt "parentheses") schema [(txt "inner", .node inner)])
  | consequent {source condition consequent otherwise : Node} {schema : Value} :
      Passes source consequent →
      Passes source (.composite (txt "ternary") schema (conditionalFields condition consequent otherwise))
  | otherwise {source condition consequent otherwise : Node} {schema : Value} :
      Passes source otherwise →
      Passes source (.composite (txt "ternary") schema (conditionalFields condition consequent otherwise))

/-- Whether a schema of an identifier says nothing, so that its value is not checked and a union leaves it
out. -/
def SaysNothing (schema : Text) : Prop :=
  schema = [] ∨ schema = unknownSchema

/-- The variables that a node can take its value from, if their schemas say nothing, are of a type. -/
def Supplied (data : Fields) (type : Primitive) (node : Node) : Prop :=
  ∀ name schema, Passes (.identifier name (.str schema)) node → SaysNothing schema →
    ∀ value, data.find? name = some value → type.holds value = true

/-- All operands of a tree that have to be of a type are supplied with values of it. -/
def Settled (data : Fields) (type : Primitive) (tree : Node) : Prop :=
  ∀ operand, tree.Requires standardRules type.text operand → Supplied data type operand

theorem Passes.within {source node : Node} (h : Passes source node) : source.Within node := by
  induction h with
  | self => exact .root source
  | inner _ ih => exact ih.trans (Typed.inner_within _ _)
  | consequent _ ih => exact ih.trans (Typed.consequent_within _ _ _ _)
  | otherwise _ ih => exact ih.trans (Typed.otherwise_within _ _ _ _)

/-- A tree is settled if all its variables whose schemas say nothing are of the type. -/
theorem settled_of_variables {type : Primitive}
    (h : ∀ name schema, Node.Within (.identifier name (.str schema)) tree → SaysNothing schema →
      ∀ value, data.find? name = some value → type.holds value = true) : Settled data type tree :=
  fun _ hoperand name schema hpasses => h name schema (hpasses.within.trans hoperand.within)

theorem Settled.mono {type : Primitive} (h : Settled data type tree) {node : Node}
    (hwithin : node.Within tree) : Settled data type node :=
  fun operand hoperand => h operand (hoperand.mono hwithin)

section

variable {op : Infix} {type : Primitive} {left right : Node}

/-- The operands of an operator are required to be as it requires. -/
theorem requires_left (hop : op ∈ standardOperators) {required : Text} (h : op.required = some required) :
    (op.node left right).Requires standardRules required left :=
  ⟨op.rule, op.rule_mem_standardRules hop, .lhs, txt "left", _, _, op.left_mem_pattern h, .root _,
    List.mem_cons_self⟩

theorem requires_right (hop : op ∈ standardOperators) {required : Text} (h : op.required = some required) :
    (op.node left right).Requires standardRules required right :=
  ⟨op.rule, op.rule_mem_standardRules hop, .rhs, txt "right", _, _, op.right_mem_pattern h, .root _,
    List.mem_cons_of_mem _ List.mem_cons_self⟩

end

/-- The schema of a node is a type, or says nothing. -/
def Allows (type : Primitive) (node : Node) : Prop :=
  ∀ s, node.schema = .str s → s = type.text ∨ SaysNothing s

theorem Allows.eq {type other : Primitive} {node : Node} (h : Allows type node)
    (hschema : node.schema = .str other.text) : other = type := by
  rcases h _ hschema with heq | heq | heq
  · exact Primitive.text_injective heq
  · exact absurd heq other.text_ne_nil
  · exact absurd heq other.text_ne_unknown

theorem allows_of_schema {type : Primitive} {node : Node} (h : node.schema = .str type.text) :
    Allows type node := by
  intro s hs
  rw [h] at hs
  cases hs
  exact .inl rfl

/-- If a conditional allows a type, both branches do: what the union leaves out says nothing. -/
theorem allows_branch {type : Primitive} {condition consequent otherwise branch : Node} {schema : Value}
    (hschema : (ResultType.union ["then", "otherwise"]).Prescribes
      (conditionalFields condition consequent otherwise) schema)
    (h : Allows type
      (.composite (txt "ternary") schema (conditionalFields condition consequent otherwise)))
    (hbranch : branch = consequent ∨ branch = otherwise) : Allows type branch := by
  intro s hs
  rcases Typed.schema_conditional hschema with ⟨-, hnone⟩ | ⟨schemas, hne, rfl, hmem⟩
  · exact .inr (hnone branch s hbranch hs)
  · by_cases hnothing : SaysNothing s
    · exact .inr hnothing
    · obtain ⟨hnil, hunknown⟩ := not_or.mp hnothing
      have hs' : s ∈ schemas := by
        refine (hmem s).mpr ⟨hnil, hunknown, ?_⟩
        rcases hbranch with rfl | rfl
        · exact .inl hs
        · exact .inr hs
      have hsingle : ∀ t : Text, Text.join (txt " | ") schemas = t → CodePoint.ofChar '|' ∉ t → s = t := by
        intro t ht hbar
        rw [Text.eq_singleton_of_join hne ht hbar] at hs'
        exact List.mem_singleton.mp hs'
      rcases h _ rfl with heq | heq | heq
      · exact .inl (hsingle _ heq type.not_bar_mem_text)
      · exact absurd (hsingle _ heq (by decide)) hnil
      · exact absurd (hsingle _ heq (by decide)) hunknown

variable [Checker]

/-- **A typed node whose schema is a type has values of this type**, if it is supplied with such values and
all operands in it are. -/
theorem Typed.holds (hsorts : Checker.Sorts) (h : Typed context tree) {type : Primitive} (hallows : Allows type tree)
    (hsettled : Settled data type tree) (hsupplied : Supplied data type tree)
    (hv : (Eval.node standardRules data tree).once = .ok v) : type.holds v = true := by
  -- A branch of a conditional need not have the type for its schema, as the union may have left it out. So
  -- what goes down the tree is that the type is allowed.
  induction h generalizing v with
  | literal raw other hother =>
    cases hv
    rwa [← hallows.eq rfl]
  | identifier name =>
    rcases hallows _ rfl with heq | hnothing
    · rw [heq] at hv
      exact holds_of_identifier hsorts hv
    · obtain ⟨hfind, -⟩ := Eval.once_identifier_eq_ok.mp hv
      exact hsupplied name _ (.self _) hnothing v hfind
  | @parentheses inner schema _ hschema ih =>
    refine ih (fun s hs => ?_) (hsettled.mono (Typed.inner_within _ _))
      (fun name schema hpasses => hsupplied name schema (.inner hpasses)) hv
    by_cases hnil : s = []
    · exact .inr (.inl hnil)
    · have htruthy : inner.schema.truthy = true := by
        rw [hs]
        simpa [Value.truthy] using hnil
      refine hallows s ?_
      change schema = .str s
      rw [hschema.eq_of_unknown, if_pos htruthy, hs]
  | @binary op left right hop _ _ hrequired ihl ihr =>
    obtain ⟨other, hgives⟩ := Infix.exists_gives hop
    obtain rfl : other = type := hallows.eq (congrArg Value.str hgives.schema)
    rw [once_binary hop] at hv
    obtain ⟨a, ha, hv⟩ := bind_eq_ok.mp hv
    obtain ⟨b, hb, hv⟩ := bind_eq_ok.mp hv
    refine hgives.holds a b v (fun hneeds => ?_) (mapError_eq_ok.mp hv)
    obtain ⟨hleft, hright⟩ := hrequired _ hneeds
    constructor
    · exact ihl (allows_of_schema hleft) (hsettled.mono (Typed.left_within op left right))
        (hsettled left (requires_left hop hneeds)) ha
    · exact ihr (allows_of_schema hright) (hsettled.mono (Typed.right_within op left right))
        (hsettled right (requires_right hop hneeds)) hb
  | negation _ _ _ =>
    rw [once_negation] at hv
    obtain ⟨a, -, hv⟩ := bind_eq_ok.mp hv
    cases hv
    have htype : Primitive.boolean = type := hallows.eq rfl
    rw [← htype]
    rfl
  | @conditional condition consequent otherwise schema _ _ _ _ hschema _ ihconsequent ihotherwise =>
    rw [once_conditional] at hv
    obtain ⟨c, -, hv⟩ := bind_eq_ok.mp hv
    obtain ⟨a, ha, hv⟩ := bind_eq_ok.mp hv
    obtain ⟨b, hb, hv⟩ := bind_eq_ok.mp hv
    cases hv
    split
    · exact ihconsequent (allows_branch hschema hallows (.inl rfl))
        (hsettled.mono (Typed.consequent_within _ _ _ _))
        (fun name schema hpasses => hsupplied name schema (.consequent hpasses)) ha
    · exact ihotherwise (allows_branch hschema hallows (.inr rfl))
        (hsettled.mono (Typed.otherwise_within _ _ _ _))
        (fun name schema hpasses => hsupplied name schema (.otherwise hpasses)) hb

/-- An operand that has to be of a type has values of this type. -/
theorem Typed.holds_operand {operand : Node} (hsorts : Checker.Sorts) (h : Typed context operand) {type : Primitive}
    (hschema : operand.schema = .str type.text) (hsettled : Settled data type tree)
    (hoperand : tree.Requires standardRules type.text operand)
    (hv : (Eval.node standardRules data operand).once = .ok v) : type.holds v = true :=
  h.holds hsorts (allows_of_schema hschema) (hsettled.mono hoperand.within) (hsettled operand hoperand) hv

/-- **No operation meets operands that it does not take**, if those that have to be numbers or texts are
supplied with such values. -/
theorem Typed.ne_unsupported (hsorts : Checker.Sorts) (h : Typed context tree) (hnumber : Settled data .number tree)
    (hstring : Settled data .string tree) :
    (Eval.node standardRules data tree).once ≠ .error (.operation .unsupportedOperands) := by
  intro herror
  induction h with
  | literal => cases herror
  | identifier name =>
    rcases Eval.error_of_identifier herror with h | h | ⟨_, h⟩ | ⟨_, _, h⟩
    all_goals cases h
  | @parentheses inner schema _ _ ih =>
    have hwithin := Typed.inner_within inner schema
    exact ih (hnumber.mono hwithin) (hstring.mono hwithin) herror
  | @binary op left right hop hleft hright hrequired ihl ihr =>
    have hl := Typed.left_within op left right
    have hr := Typed.right_within op left right
    rw [once_binary hop] at herror
    rcases bind_eq_error.mp herror with herror | ⟨a, ha, herror⟩
    · exact ihl (hnumber.mono hl) (hstring.mono hl) herror
    · rcases bind_eq_error.mp herror with herror | ⟨b, hb, herror⟩
      · exact ihr (hnumber.mono hr) (hstring.mono hr) herror
      · -- Both operands have values, so the operation itself fails.
        obtain ⟨e, hresult, he⟩ := mapError_eq_error.mp herror
        cases he
        have hoperands : ∀ type, Settled data type (op.node left right) →
            op.required = some type.text → type.holds a = true ∧ type.holds b = true := by
          intro type hsettled hneeds
          obtain ⟨hleftSchema, hrightSchema⟩ := hrequired _ hneeds
          exact ⟨hleft.holds_operand hsorts hleftSchema hsettled (requires_left hop hneeds) ha,
            hright.holds_operand hsorts hrightSchema hsettled (requires_right hop hneeds) hb⟩
        exact Infix.operation_ne_unsupported hop (hoperands .number hnumber) (hoperands .string hstring)
          hresult
  | @negation operand _ _ ih =>
    have hwithin := Typed.operand_within operand
    rw [once_negation] at herror
    rcases bind_eq_error.mp herror with herror | ⟨a, -, herror⟩
    · exact ih (hnumber.mono hwithin) (hstring.mono hwithin) herror
    · cases herror
  | @conditional condition consequent otherwise schema _ _ _ _ _ ihcondition ihconsequent ihotherwise =>
    have hc := Typed.condition_within condition consequent otherwise schema
    have ht := Typed.consequent_within condition consequent otherwise schema
    have ho := Typed.otherwise_within condition consequent otherwise schema
    rw [once_conditional] at herror
    rcases bind_eq_error.mp herror with herror | ⟨c, -, herror⟩
    · exact ihcondition (hnumber.mono hc) (hstring.mono hc) herror
    · rcases bind_eq_error.mp herror with herror | ⟨a, -, herror⟩
      · exact ihconsequent (hnumber.mono ht) (hstring.mono ht) herror
      · rcases bind_eq_error.mp herror with herror | ⟨b, -, herror⟩
        · exact ihotherwise (hnumber.mono ho) (hstring.mono ho) herror
        · cases herror

/-! ## Parsed trees -/

variable {grammar : Grammar} {s rest : Text} {cache : ShapeCache}

/-- **Operands are of the types that are required.** -/
theorem operands_supplied (hsorts : Checker.Sorts) (hbuild : Grammar.build standardRules = .ok grammar)
    (hparse : grammar.parse context s = .ok (some ⟨tree, rest⟩)) (hcache : cache.Faithful) :
    (∀ type, Settled data type tree → ∀ operand, tree.Requires standardRules type.text operand →
      ∀ v, (evaluate standardRules data (.node operand) cache).1 = .ok v → type.holds v = true) ∧
    (Settled data .number tree → Settled data .string tree →
      (evaluate standardRules data (.node tree) cache).1 ≠ .error (.operation .unsupportedOperands)) := by
  obtain rfl : standardGrammar = grammar := Except.ok.inj (build_standardRules.symm.trans hbuild)
  rw [Parse.parse_eq_plain] at hparse
  constructor
  · intro type hsettled operand hoperand v hv
    rw [evaluate_fst hcache] at hv
    have htyped : Typed context operand := typed_of_plain hparse hoperand.within
    have hschema := hoperand.schema_eq admissible_standardRules (proper_of_plain hparse)
    exact htyped.holds_operand hsorts hschema hsettled hoperand hv
  · intro hnumber hstring
    rw [evaluate_fst hcache]
    have htyped : Typed context tree := typed_of_plain hparse (.root tree)
    exact htyped.ne_unsupported hsorts hnumber hstring

end

/-- The tree of `( true ? x : 1 ) + 1`. -/
def sumOfChoice : Tree :=
  let x : Leaf := .identifier (txt "x") ⟨by decide, by decide⟩ fun k => by cases k <;> decide
  let one : Leaf := .number ⟨false, txt "1", [], by decide, by decide, rfl⟩ (by decide)
  let add : Infix := ⟨"add", "+", 4, some (txt "number"), "number", Value.add⟩
  .binary add (.grouped (.conditional (.leaf (.keyword .true)) (.leaf x) (.leaf one))) (.leaf one)

/-- Where `x` is not declared, the conditional has the schema of its other branch, so the sum is well typed. -/
theorem wellTyped_sumOfChoice : sumOfChoice.WellTyped [] := by
  have hadd : (⟨"add", "+", 4, some (txt "number"), "number", Value.add⟩ : Infix) ∈ standardOperators := by
    simp [standardOperators, sums]
  refine ⟨hadd, rfl, rfl, ⟨rfl, trivial, rfl, trivial, trivial⟩, trivial, fun required hrequired => ?_⟩
  cases hrequired
  exact ⟨schema_parenthesesNode (by decide) rfl, rfl⟩

theorem parse_sumOfChoice :
    standardGrammar.parse [] (txt "( true ? x : 1 ) + 1") = .ok (some ⟨sumOfChoice.node [], []⟩) := by
  have htext : txt "( true ? x : 1 ) + 1" = sumOfChoice.text := by decide
  rw [htext, Parse.parse_eq_plain]
  exact Tree.plain_text wellTyped_sumOfChoice

/-- Without this, a sum meets the text that an undeclared variable stands for: the conditional has the schema
of its other branch. -/
theorem unsupported_of_undeclared :
    ∃ tree, standardGrammar.parse [] (txt "( true ? x : 1 ) + 1") = .ok (some ⟨tree, []⟩) ∧
      evaluateOnce standardRules [(txt "x", .str (txt "a"))] (.node tree) =
        .error (.operation .unsupportedOperands) :=
  ⟨_, parse_sumOfChoice, by rfl⟩

/-- Where the data has a number for the undeclared variable, the sum has a value. -/
theorem operands_supplied_sumOfChoice :
    let data : Fields := [(txt "x", .int 2)]
    let tree := sumOfChoice.node []
    Settled data .number tree ∧ Settled data .string tree ∧
      evaluateOnce standardRules data (.node tree) = .ok (.int 3) ∧
      evaluateOnce standardRules data (.node tree) ≠ .error (.operation .unsupportedOperands) := by
  intro data tree
  have hnumber : Settled data .number tree := by
    refine settled_of_variables fun name schema hwithin _ value hvalue => ?_
    have hall : tree.nodes.all (Node.admits (· == txt "x")) = true := by rfl
    have hname : (name == txt "x") = true := hwithin.admitted hall
    rw [beq_iff_eq.mp hname] at hvalue
    cases hvalue
    rfl
  have hstring : Settled data .string tree := by
    intro operand hoperand
    have hproper := proper_of_plain ((Parse.parse_eq_plain _).symm.trans parse_sumOfChoice)
    have hschema := hoperand.schema_eq admissible_standardRules hproper
    have hall : (tree.nodes.all fun node => !node.schema.isText (txt "string")) = true := by rfl
    have hother := List.all_eq_true.mp hall _ hoperand.within.mem_nodes
    rw [hschema] at hother
    cases hother
  have hvalue : evaluateOnce standardRules data (.node tree) = .ok (.int 3) := by rfl
  exact ⟨hnumber, hstring, hvalue,
    (operands_supplied Shape.sorts build_standardRules parse_sumOfChoice ShapeCache.faithful_nil).2 hnumber hstring⟩

end Standard

end Mixfix
