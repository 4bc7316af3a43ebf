import Mixfix.Host.Checker
import Mixfix.Proofs.Eval
import Mixfix.Proofs.Grammar.Builtin
import Mixfix.Proofs.Parse.Leaves

/-!
# Evaluation of parsed trees

A parsed tree is made by the rules that it was parsed with (`MadeBy`), so evaluation with these rules goes
through all of it: the fields of a composite are the elements that its rule binds, and each of them is
evaluated. Two things follow. A tree that has a value has no identifier that was not checked
(`identifiers_validated`). And no node stops the walk (`parsed_dispatched`), unless a rule keeps the match of
a constant (`Rule.Keeps`), which has no value.

The rules have no configuration. One that drops or replaces a field would hide it from the evaluation.
-/

set_option autoImplicit false

namespace Mixfix

variable {grammar : Grammar} {rules : List Rule} {context : Context} {data : Fields} {s rest : Text}
  {tree : Node}

/-! ## Trees that rules make -/

/-- A tree that rules make: a leaf, a tree in parentheses, or a composite that has a tree in a field for each
bound element of its rule. -/
inductive MadeBy (rules : List Rule) : Node → Prop
  | leaf {node : Node} : node.isLeaf = true → MadeBy rules node
  | parentheses {inner : Node} (schema : Value) : MadeBy rules inner →
      MadeBy rules (.composite (txt "parentheses") schema [(txt "inner", .node inner)])
  | rule {rule : Rule} {fields : Fields} (schema : Value) : rule ∈ rules →
      fields.names = rule.bindingNames → (∀ field ∈ fields, ∃ child, field.2 = .node child) →
      (∀ name child, (name, .node child) ∈ fields → MadeBy rules child) →
      MadeBy rules (.composite rule.name schema fields)

/-- Trees whose composites are explained by rules are made by them. -/
theorem madeBy_of_explained
    (h : ∀ name schema fields, Node.Within (.composite name schema fields) tree →
      grammar.Explains rules name schema fields) : MadeBy rules tree := by
  induction tree using Node.field_induction with
  | literal raw value schema => exact .leaf rfl
  | identifier name schema => exact .leaf rfl
  | const schema => exact .leaf rfl
  | composite kind schema fields ih =>
    have hfields : ∀ name child, (name, .node child) ∈ fields → MadeBy rules child := by
      intro name child hchild
      refine ih name child hchild fun name' schema' fields' hwithin => ?_
      exact h name' schema' fields' (.field hchild hwithin)
    rcases h kind schema fields (.root _) with
      ⟨rfl, index, hcomposes⟩ | ⟨rule, hrule, rfl, -, index, -, hcomposes⟩
    · have hnames : Entries.names fields = [txt "inner"] := hcomposes.names
      have hlength : fields.length = 1 := by simpa [Entries.names] using congrArg List.length hnames
      obtain ⟨⟨name, v⟩, rfl⟩ := List.length_eq_one_iff.mp hlength
      obtain rfl : name = txt "inner" := by simpa [Entries.names] using hnames
      obtain ⟨inner, hinner⟩ := hcomposes.nodes _ List.mem_cons_self
      cases hinner
      exact .parentheses schema (hfields _ inner List.mem_cons_self)
    · exact .rule schema hrule hcomposes.names hcomposes.nodes hfields

/-- A parsed tree is made by the rules of the grammar. -/
theorem Parse.madeBy (hrules : Admissible rules) (hconfigure : ∀ rule ∈ rules, rule.configure = none)
    (hbuild : Grammar.build rules = .ok grammar)
    (hparse : grammar.parse context s = .ok (some ⟨tree, rest⟩)) : MadeBy rules tree := by
  rw [parse_eq_plain] at hparse
  exact madeBy_of_explained (plain_proper hrules hconfigure hbuild hparse).explained

namespace Eval

variable [Checker]

/-- Parentheses come to what is inside of them. -/
theorem node_parentheses (schema : Value) (inner : Node) :
    Eval.node rules data (.composite (txt "parentheses") schema [(txt "inner", .node inner)]) =
      Eval.node rules data inner := rfl

/-- Fields have values only if each of them has one. -/
theorem once_of_fieldValues {fields values : Fields} (h : fieldValues rules data fields = .ok values)
    {name : Text} {v : Value} (hmem : (name, v) ∈ fields) : ∃ w, (value rules data v).once = .ok w := by
  obtain ⟨field, -, hfield⟩ := exists_ok_of_mapM h hmem
  obtain ⟨w, hw, -⟩ := bind_eq_ok.mp hfield
  exact ⟨w, hw⟩

/-- Fields fail where one of them does. -/
theorem error_of_fieldValues {fields : Fields} {e : EvalError}
    (h : fieldValues rules data fields = .error e) :
    ∃ field ∈ fields, (value rules data field.2).once = .error e := by
  obtain ⟨field, hmem, hfield⟩ := exists_error_of_mapM h
  rcases bind_eq_error.mp hfield with hvalue | ⟨w, -, hpure⟩
  · exact ⟨field, hmem, hvalue⟩
  · cases hpure

end Eval

/-! ## Identifiers -/

/-- The data has a value for an identifier, and the value passes the check against its schema. -/
def Accepted [Checker] (data : Fields) (name : Text) (schema : Value) : Prop :=
  ∃ value descriptor verdict, data.find? name = some value ∧
    Eval.descriptor? schema = .ok descriptor ∧ verdict? value descriptor = .ok verdict ∧ verdict.ok = true

section

variable [Checker]

/-- Every identifier of a tree that has a value is accepted. -/
theorem MadeBy.accepted (hrules : Admissible rules) (h : MadeBy rules tree) {value : Value}
    (hvalue : (Eval.node rules data tree).once = .ok value) {name : Text} {schema : Value}
    (hwithin : Node.Within (.identifier name schema) tree) : Accepted data name schema := by
  induction h generalizing value with
  | leaf hleaf =>
    rw [← hwithin.eq_of_isLeaf hleaf] at hvalue
    obtain ⟨hfind, descriptor, verdict, haccepted⟩ := Eval.once_identifier_eq_ok.mp hvalue
    exact ⟨value, descriptor, verdict, hfind, haccepted⟩
  | parentheses schema _ ih =>
    rw [Eval.node_parentheses] at hvalue
    cases hwithin with
    | field hmem hwithin =>
      cases List.mem_singleton.mp hmem
      exact ih hvalue hwithin
  | @rule rule fields schema hrule hnames _ _ ih =>
    rw [Eval.once_composite hrules hrule hnames] at hvalue
    cases heval : rule.eval with
    | none =>
      rw [heval] at hvalue
      cases hvalue
    | some run =>
      rw [heval] at hvalue
      obtain ⟨values, hvalues, -⟩ := bind_eq_ok.mp hvalue
      -- Every field is bound, so the one that has the identifier in it has a value.
      cases hwithin with
      | field hmem hwithin =>
        obtain ⟨w, hw⟩ := Eval.once_of_fieldValues hvalues hmem
        exact ih _ _ hmem hw hwithin

/-- **No value without validation**: if a parsed tree has a value, the data has a value for each identifier
anywhere in the tree, and this value passes the check against the schema of the identifier. -/
theorem identifiers_validated (hrules : Admissible rules)
    (hconfigure : ∀ rule ∈ rules, rule.configure = none) (hbuild : Grammar.build rules = .ok grammar)
    (hparse : grammar.parse context s = .ok (some ⟨tree, rest⟩)) {cache : ShapeCache}
    (hcache : cache.Faithful) {value : Value}
    (hvalue : (evaluate rules data (.node tree) cache).1 = .ok value) {name : Text} {schema : Value}
    (hwithin : Node.Within (.identifier name schema) tree) :
    ∃ found descriptor verdict after, data.find? name = some found ∧
      Eval.descriptor? schema = .ok descriptor ∧
      cache.validate found descriptor = .ok (verdict, after) ∧ verdict.ok = true := by
  rw [evaluate_fst hcache] at hvalue
  have hmade := Parse.madeBy hrules hconfigure hbuild hparse
  obtain ⟨found, descriptor, verdict, hfind, hdescriptor, hverdict, hok⟩ :=
    hmade.accepted hrules hvalue hwithin
  obtain ⟨after, hvalidate⟩ := hcache.exists_validate_eq_ok hverdict
  exact ⟨found, descriptor, verdict, after, hfind, hdescriptor, hvalidate, hok⟩

end

/-- A sum with a variable has a value where the variable is a number. -/
theorem identifiers_validated_sum :
    ∃ tree, Node.Within (.identifier (txt "x") (.str (txt "number"))) tree ∧
      evaluateOnce arithmeticRules [(txt "x", .int 5)] (.node tree) = .ok (.int 6) ∧
      ∃ found descriptor verdict after, Entries.find? (txt "x") [(txt "x", .int 5)] = some found ∧
        Eval.descriptor? (.str (txt "number")) = .ok descriptor ∧
        ShapeCache.validate [] found descriptor = .ok (verdict, after) ∧ verdict.ok = true := by
  let x : Node := .identifier (txt "x") (.str (txt "number"))
  let tree : Node := .composite (txt "add") (.str (txt "number"))
    [(txt "left", .node x), (txt "right", .node (.literal (txt "1") (.int 1) (.str (txt "number"))))]
  have hparse : arithmeticGrammar.parse [(txt "x", txt "number")] (txt "x + 1") =
      .ok (some ⟨tree, []⟩) := by
    rw [Parse.parse_eq_plain]
    rfl
  have hvalue : evaluateOnce arithmeticRules [(txt "x", .int 5)] (.node tree) = .ok (.int 6) := by rfl
  have hwithin : x.Within tree := .field List.mem_cons_self (.root x)
  exact ⟨tree, hwithin, hvalue, identifiers_validated admissible_arithmeticRules
    (fun _ => configure_of_mem_arithmeticRules) build_arithmeticRules hparse ShapeCache.faithful_nil hvalue
    hwithin⟩

/-! ## Constants -/

/-- A tree without constants. -/
def Node.IsConstFree (root : Node) : Prop :=
  ∀ schema, ¬ Node.Within (.const schema) root

/-- Only the terminal of a constant gives one. -/
theorem Terminal.eq_const_of_match? {t : Terminal} {schema : Value}
    (h : t.match? context s = .ok (some ⟨.const schema, rest⟩)) : ∃ value, t = .const value := by
  cases matches_of_match? h with
  | const value _ => exact ⟨value, rfl⟩

/-- Where no rule keeps a constant there is none in a parsed tree. -/
theorem Parse.isConstFree (hrules : Admissible rules) (hconfigure : ∀ rule ∈ rules, rule.configure = none)
    (hdrops : ∀ rule ∈ rules, ∀ value, ¬ rule.Keeps (.const value))
    (hbuild : Grammar.build rules = .ok grammar)
    (hparse : grammar.parse context s = .ok (some ⟨tree, rest⟩)) : tree.IsConstFree := by
  rw [parse_eq_plain] at hparse
  intro schema hwithin
  obtain ⟨t, s', rest', hmatch, hkept⟩ := leaf_matched hrules hconfigure hbuild hparse rfl hwithin
  obtain ⟨value, rfl⟩ := Terminal.eq_const_of_match? hmatch
  rcases hkept with hatom | ⟨rule, hrule, hkeeps⟩
  · simp [atomTerminals] at hatom
  · exact hdrops rule hrule value hkeeps

/-! ## Dispatch -/

/-- An error of the walk over a tree: a node that it cannot go through. -/
def EvalError.isDispatch : EvalError → Bool
  | .invalidNode _ | .unknownKind _ | .missingEvaluation _ | .constNode => true
  | _ => false

section

variable [Checker]

/-- A tree that rules make is gone through, if they have evaluations and there is no constant in it. -/
theorem MadeBy.dispatched (hrules : Admissible rules) (heval : ∀ rule ∈ rules, rule.eval.isSome = true)
    (h : MadeBy rules tree) (hfree : tree.IsConstFree) {e : EvalError}
    (herror : (Eval.node rules data tree).once = .error e) : e.isDispatch = false := by
  induction h with
  | @leaf node hleaf =>
    cases node with
    | literal raw value schema => cases herror
    | identifier name schema =>
      rcases Eval.error_of_identifier herror with rfl | rfl | ⟨error, rfl⟩ | ⟨declared, reason, rfl⟩
      all_goals rfl
    | const schema => exact absurd (.root _) (hfree schema)
    | composite => cases hleaf
  | parentheses schema _ ih =>
    rw [Eval.node_parentheses] at herror
    exact ih (fun schema hwithin => hfree schema (.field List.mem_cons_self hwithin)) herror
  | @rule rule fields schema hrule hnames hnodes _ ih =>
    rw [Eval.once_composite hrules hrule hnames] at herror
    obtain ⟨run, hrun⟩ := Option.isSome_iff_exists.mp (heval rule hrule)
    rw [hrun] at herror
    rcases bind_eq_error.mp herror with hfields | ⟨values, -, hresult⟩
    · obtain ⟨⟨name, v⟩, hmem, hvalue⟩ := Eval.error_of_fieldValues hfields
      obtain ⟨child, rfl⟩ := hnodes _ hmem
      exact ih name child hmem (fun schema hwithin => hfree schema (.field hmem hwithin)) hvalue
    · obtain ⟨error, -, rfl⟩ := mapError_eq_error.mp hresult
      rfl

/-- **Every parsed tree is gone through**: whatever error its evaluation ends with, it is none of a node that
is malformed, of an unknown kind, without an evaluation or a constant. -/
theorem parsed_dispatched (hrules : Admissible rules) (hconfigure : ∀ rule ∈ rules, rule.configure = none)
    (heval : ∀ rule ∈ rules, rule.eval.isSome = true)
    (hdrops : ∀ rule ∈ rules, ∀ value, ¬ rule.Keeps (.const value))
    (hbuild : Grammar.build rules = .ok grammar)
    (hparse : grammar.parse context s = .ok (some ⟨tree, rest⟩)) {cache : ShapeCache}
    (hcache : cache.Faithful) {e : EvalError}
    (herror : (evaluate rules data (.node tree) cache).1 = .error e) : e.isDispatch = false := by
  rw [evaluate_fst hcache] at herror
  have hfree := Parse.isConstFree hrules hconfigure hdrops hbuild hparse
  exact (Parse.madeBy hrules hconfigure hbuild hparse).dispatched hrules heval hfree herror

end

/-- A quotient by zero fails, but not on the way to it. -/
theorem parsed_dispatched_quotient :
    ∃ tree e, arithmeticGrammar.parse [] (txt "1 / 0") = .ok (some ⟨tree, []⟩) ∧
      evaluateOnce arithmeticRules [] (.node tree) = .error e ∧ e.isDispatch = false := by
  let tree : Node := .composite (txt "div") (.str (txt "number"))
    [(txt "left", .node (.literal (txt "1") (.int 1) (.str (txt "number")))),
      (txt "right", .node (.literal (txt "0") (.int 0) (.str (txt "number"))))]
  have hparse : arithmeticGrammar.parse [] (txt "1 / 0") = .ok (some ⟨tree, []⟩) := by
    rw [Parse.parse_eq_plain]
    rfl
  have herror : evaluateOnce arithmeticRules [] (.node tree) =
      .error (.operation (.zeroDivision .integerQuotient)) := by rfl
  have heval : ∀ rule ∈ arithmeticRules, rule.eval.isSome = true := by decide
  have hdrops : ∀ rule ∈ arithmeticRules, ∀ value, ¬ rule.Keeps (.const value) := by
    intro rule hrule value
    obtain ⟨op, -, rfl⟩ := List.mem_map.mp hrule
    exact op.not_keeps_rule _
  exact ⟨tree, _, hparse, herror, parsed_dispatched admissible_arithmeticRules
    (fun _ => configure_of_mem_arithmeticRules) heval hdrops build_arithmeticRules hparse
    ShapeCache.faithful_nil herror⟩

end Mixfix
