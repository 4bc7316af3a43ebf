import Mixfix.Proofs.Eval
import Mixfix.Proofs.Parse.Leaves
import Mixfix.Proofs.Standard
import Mixfix.Proofs.Standard.Operators

/-!
# Typed trees of the small expression language

`Standard.Typed` are the trees that the rules of the language make, with the schemas that these prescribe and
require: a literal has a value of its type, an identifier the schema that is declared for it, and an operand
the one that its operator requires. Every node of a parsed tree is typed (`Standard.typed_of_plain`). How
tight operands bind is left out.

There is an equation for what each composite comes to (`Standard.once_binary` and those after it).

`Node.Requires` tells the operands in a tree that have to have a schema, for any rules.
-/

set_option autoImplicit false

namespace Mixfix

/-! ## Operands -/

section

variable {required : Text}

theorem Infix.left_mem_pattern (op : Infix) (h : op.required = some required) :
    ⟨.subexpression .lhs (some required), some (txt "left")⟩ ∈ op.rule.pattern := by
  rw [← h]
  exact List.mem_cons_self

theorem Infix.right_mem_pattern (op : Infix) (h : op.required = some required) :
    ⟨.subexpression .rhs (some required), some (txt "right")⟩ ∈ op.rule.pattern := by
  rw [← h]
  exact List.mem_cons_of_mem _ (List.mem_cons_of_mem _ List.mem_cons_self)

end

/-- An operand that has to have a schema, somewhere in a tree: a rule requires it of a field of its nodes. -/
def Node.Requires (rules : List Rule) (required : Text) (tree operand : Node) : Prop :=
  ∃ rule ∈ rules, ∃ role name schema fields,
    ⟨.subexpression role (some required), some name⟩ ∈ rule.pattern ∧
    Node.Within (.composite rule.name schema fields) tree ∧ (name, .node operand) ∈ fields

namespace Node.Requires

variable {rules : List Rule} {required : Text} {tree operand : Node}

theorem within (h : tree.Requires rules required operand) : operand.Within tree := by
  obtain ⟨rule, -, role, name, schema, fields, -, hwithin, hmem⟩ := h
  exact Node.Within.trans (.field hmem (.root operand)) hwithin

theorem mono (h : tree.Requires rules required operand) {root : Node} (hwithin : tree.Within root) :
    root.Requires rules required operand := by
  obtain ⟨rule, hrule, role, name, schema, fields, hpattern, hcomposite, hmem⟩ := h
  exact ⟨rule, hrule, role, name, schema, fields, hpattern, hcomposite.trans hwithin, hmem⟩

/-- In a parsed tree operands have the schemas that they have to have. -/
theorem schema_eq {grammar : Grammar} {start : Nat} (hrules : Admissible rules)
    (hproper : grammar.Proper rules start tree) (h : tree.Requires rules required operand) :
    operand.schema = .str required := by
  obtain ⟨rule, hrule, role, name, schema, fields, hpattern, hwithin, hmem⟩ := h
  have hchecked := (hrules.defined rule hrule).checked
  rcases hproper.explained _ _ _ hwithin with ⟨hname, -⟩ | ⟨other, hother, hname, -, index, -, hcomposes⟩
  · exact absurd (hname ▸ by decide) hchecked.name_free
  · obtain rfl : other = rule := List.inj_on_of_nodup_map hrules.distinct hother hrule hname
    obtain ⟨child, hchild, hschema, -⟩ := hcomposes.subexpression role (some required) name hpattern
    have hnodup : (Entries.names fields).Nodup := hcomposes.names ▸ hchecked.nodup_bindings
    cases Entries.eq_of_mem hnodup hmem hchild
    exact hschema required rfl

end Node.Requires

namespace Standard

/-! ## Typed trees -/

/-- The fields of a conditional. -/
abbrev conditionalFields (condition consequent otherwise : Node) : Fields :=
  [(txt "condition", .node condition), (txt "then", .node consequent), (txt "otherwise", .node otherwise)]

/-- A tree as the rules of the small expression language make it, with the schemas that they prescribe and
require. -/
inductive Typed (context : Context) : Node → Prop
  | literal (raw : Text) {value : Value} (type : Primitive) : type.holds value = true →
      Typed context (.literal raw value (.str type.text))
  | identifier (name : Text) :
      Typed context (.identifier name (.str (Terminal.declaredSchema context name)))
  | parentheses {inner : Node} {schema : Value} : Typed context inner →
      (ResultType.fixed unknownSchema).Prescribes [(txt "inner", .node inner)] schema →
      Typed context (.composite (txt "parentheses") schema [(txt "inner", .node inner)])
  | binary {op : Infix} {left right : Node} : op ∈ standardOperators → Typed context left →
      Typed context right →
      (∀ required, op.required = some required →
        left.schema = .str required ∧ right.schema = .str required) →
      Typed context (op.node left right)
  | negation {operand : Node} : Typed context operand → operand.schema = .str (txt "boolean") →
      Typed context (Tree.negationNode operand)
  | conditional {condition consequent otherwise : Node} {schema : Value} : Typed context condition →
      Typed context consequent → Typed context otherwise → condition.schema = .str (txt "boolean") →
      (ResultType.union ["then", "otherwise"]).Prescribes
        (conditionalFields condition consequent otherwise) schema →
      Typed context (.composite (txt "ternary") schema (conditionalFields condition consequent otherwise))

namespace Typed

variable {context : Context} {tree : Node}

/-! ## Leaves -/

/-- A number is a literal of the type of numbers. -/
theorem of_numeral (n : Numeral) : Typed context (.literal n.text n.value (.str (txt "number"))) := by
  have htype : Primitive.number.holds n.value = true := by
    unfold Numeral.value
    split
    · rfl
    · rfl
  exact .literal n.text .number htype

/-- A keyword is a literal of its type. -/
theorem of_keyword (k : Keyword) : Typed context (.literal k.text k.value (.str k.schema)) := by
  cases k with
  | null => exact .literal _ .null rfl
  | true | false => exact .literal _ .boolean rfl
  | undefined => exact .literal _ .undefined rfl

/-- What an atom matches is typed. -/
theorem of_atom {t : Terminal} {s rest : Text} {leaf : Node} (ht : t ∈ Parse.atomTerminals)
    (h : t.match? context s = .ok (some ⟨leaf, rest⟩)) : Typed context leaf := by
  cases Terminal.matches_of_match? h with
  | number n _ _ _ => exact of_numeral n
  | string => exact .literal _ .string rfl
  | keyword k _ _ => exact of_keyword k
  | identifier => exact .identifier _
  | const => simp [Parse.atomTerminals] at ht

/-! ## Composites -/

section

variable {condition consequent otherwise : Node} {schema : Value}

/-- The branches are what the names of a conditional's union stand for. -/
theorem mem_conditionalFields {child : Node} :
    (∃ name ∈ [txt "then", txt "otherwise"],
      (name, .node child) ∈ conditionalFields condition consequent otherwise) ↔
      child = consequent ∨ child = otherwise := by
  constructor
  · rintro ⟨name, hname, hmem⟩
    simp only [List.mem_cons, Prod.mk.injEq, Value.node.injEq, List.not_mem_nil, or_false] at hname hmem
    rcases hmem with ⟨rfl, -⟩ | ⟨-, rfl⟩ | ⟨-, rfl⟩
    · exact absurd hname (by decide)
    · exact .inl rfl
    · exact .inr rfl
  · rintro (rfl | rfl)
    · exact ⟨_, List.mem_cons_self, List.mem_cons_of_mem _ List.mem_cons_self⟩
    · exact ⟨_, List.mem_cons_of_mem _ List.mem_cons_self,
        List.mem_cons_of_mem _ (List.mem_cons_of_mem _ List.mem_cons_self)⟩

/-- The schema of a conditional is the union of what its branches say, if they say anything. -/
theorem schema_conditional
    (h : (ResultType.union ["then", "otherwise"]).Prescribes
      (conditionalFields condition consequent otherwise) schema) :
    (schema = .str unknownSchema ∧ ∀ branch s, branch = consequent ∨ branch = otherwise →
      branch.schema = .str s → s = [] ∨ s = unknownSchema) ∨
    ∃ schemas, schemas ≠ [] ∧ schema = .str (Text.join (txt " | ") schemas) ∧
      ∀ s, s ∈ schemas ↔ s ≠ [] ∧ s ≠ unknownSchema ∧
        (consequent.schema = .str s ∨ otherwise.schema = .str s) := by
  cases h with
  | unknownUnion hnone =>
    left
    refine ⟨rfl, fun branch s hbranch hschema => ?_⟩
    obtain ⟨name, hname, hmem⟩ := mem_conditionalFields.mpr hbranch
    exact hnone name hname branch hmem s hschema
  | @union _ schemas hne _ hmem =>
    right
    refine ⟨schemas, hne, rfl, fun s => ?_⟩
    rw [hmem]
    refine and_congr_right fun _ => and_congr_right fun _ => ?_
    constructor
    · rintro ⟨name, hname, child, hchild, hschema⟩
      rcases mem_conditionalFields.mp ⟨name, hname, hchild⟩ with rfl | rfl
      · exact .inl hschema
      · exact .inr hschema
    · rintro (hschema | hschema)
      · obtain ⟨name, hname, hchild⟩ := mem_conditionalFields.mpr (.inl rfl)
        exact ⟨name, hname, _, hchild, hschema⟩
      · obtain ⟨name, hname, hchild⟩ := mem_conditionalFields.mpr (.inr rfl)
        exact ⟨name, hname, _, hchild, hschema⟩

end

theorem inner_within (inner : Node) (schema : Value) :
    inner.Within (.composite (txt "parentheses") schema [(txt "inner", .node inner)]) :=
  .field List.mem_cons_self (.root inner)

theorem left_within (op : Infix) (left right : Node) : left.Within (op.node left right) :=
  .field List.mem_cons_self (.root left)

theorem right_within (op : Infix) (left right : Node) : right.Within (op.node left right) :=
  .field (List.mem_cons_of_mem _ List.mem_cons_self) (.root right)

theorem operand_within (operand : Node) : operand.Within (Tree.negationNode operand) :=
  .field List.mem_cons_self (.root operand)

section

variable (condition consequent otherwise : Node) (schema : Value)

theorem condition_within : condition.Within
    (.composite (txt "ternary") schema (conditionalFields condition consequent otherwise)) :=
  .field List.mem_cons_self (.root condition)

theorem consequent_within : consequent.Within
    (.composite (txt "ternary") schema (conditionalFields condition consequent otherwise)) :=
  .field (List.mem_cons_of_mem _ List.mem_cons_self) (.root consequent)

theorem otherwise_within : otherwise.Within
    (.composite (txt "ternary") schema (conditionalFields condition consequent otherwise)) :=
  .field (List.mem_cons_of_mem _ (List.mem_cons_of_mem _ List.mem_cons_self)) (.root otherwise)

end

variable {grammar : Grammar} {index : Nat} {schema : Value} {fields : Fields}

/-- Fields that are nodes begin with one under their first name. -/
theorem eq_cons_of_names {name : Text} {names : List Text} (hnames : fields.names = name :: names)
    (hnodes : ∀ entry ∈ fields, ∃ child, entry.2 = .node child) :
    ∃ child rest, fields = (name, .node child) :: rest ∧ Entries.names rest = names ∧
      ∀ entry ∈ rest, ∃ child, entry.2 = .node child := by
  obtain ⟨⟨_, v⟩, rest, rfl, rfl, hrest⟩ := List.map_eq_cons_iff.mp hnames
  obtain ⟨⟨child, hchild⟩, htail⟩ := List.forall_mem_cons.mp hnodes
  cases hchild
  exact ⟨child, rest, rfl, hrest, htail⟩

/-- A field that a rule requires to have a schema has it. -/
theorem schema_of_composes {rule : Rule} (h : grammar.Composes index rule schema fields)
    (hnodup : rule.bindingNames.Nodup) {role : Role} {required name : Text} {child : Node}
    (hpattern : ⟨.subexpression role (some required), some name⟩ ∈ rule.pattern)
    (hchild : (name, .node child) ∈ fields) : child.schema = .str required := by
  obtain ⟨other, hother, hschema, -⟩ := h.subexpression role (some required) name hpattern
  have hnames : (Entries.names fields).Nodup := h.names ▸ hnodup
  cases Entries.eq_of_mem hnames hchild hother
  exact hschema required rfl

/-- Parentheses are typed if what is inside is. -/
theorem of_parentheses (h : grammar.Composes index parenthesesRule schema fields)
    (hfields : ∀ name child, (name, .node child) ∈ fields → Typed context child) :
    Typed context (.composite parenthesesRule.name schema fields) := by
  obtain ⟨inner, rest, rfl, hrest, -⟩ := eq_cons_of_names h.names h.nodes
  obtain rfl : rest = [] := List.map_eq_nil_iff.mp hrest
  exact .parentheses (hfields _ _ List.mem_cons_self) h.schema

/-- An operation is typed if its operands are. -/
theorem of_binary {op : Infix} (hop : op ∈ standardOperators)
    (h : grammar.Composes index op.rule schema fields)
    (hfields : ∀ name child, (name, .node child) ∈ fields → Typed context child) :
    Typed context (.composite op.rule.name schema fields) := by
  obtain ⟨left, rest, rfl, hrest, hnodes⟩ := eq_cons_of_names h.names h.nodes
  obtain ⟨right, rest, rfl, hnil, -⟩ := eq_cons_of_names hrest hnodes
  obtain rfl : rest = [] := List.map_eq_nil_iff.mp hnil
  obtain ⟨type, hgives⟩ := Infix.exists_gives hop
  have hleft := hfields _ left List.mem_cons_self
  have hright := hfields _ right (List.mem_cons_of_mem _ List.mem_cons_self)
  have hnodup : op.rule.bindingNames.Nodup := by
    show [txt "left", txt "right"].Nodup
    decide
  have hrequired : ∀ required, op.required = some required →
      left.schema = .str required ∧ right.schema = .str required := by
    intro required hrequired
    exact ⟨schema_of_composes h hnodup (op.left_mem_pattern hrequired) List.mem_cons_self,
      schema_of_composes h hnodup (op.right_mem_pattern hrequired)
        (List.mem_cons_of_mem _ List.mem_cons_self)⟩
  have hschema : schema = .str (txt op.schema) :=
    h.schema.eq_of_fixed (hgives.schema ▸ type.text_ne_unknown)
  rw [hschema]
  exact .binary hop hleft hright hrequired

/-- A negation is typed if its operand is. -/
theorem of_negation (h : grammar.Composes index negationRule schema fields)
    (hfields : ∀ name child, (name, .node child) ∈ fields → Typed context child) :
    Typed context (.composite negationRule.name schema fields) := by
  obtain ⟨operand, rest, rfl, hrest, -⟩ := eq_cons_of_names h.names h.nodes
  obtain rfl : rest = [] := List.map_eq_nil_iff.mp hrest
  have hpattern : ⟨.subexpression .rhs (some (txt "boolean")), some (txt "operand")⟩ ∈
      negationRule.pattern := List.mem_cons_of_mem _ List.mem_cons_self
  have hoperand := schema_of_composes h (by decide) hpattern List.mem_cons_self
  rw [h.schema.eq_of_fixed (by decide)]
  exact .negation (hfields _ _ List.mem_cons_self) hoperand

/-- A conditional is typed if its condition and its branches are. -/
theorem of_conditional (h : grammar.Composes index conditionalRule schema fields)
    (hfields : ∀ name child, (name, .node child) ∈ fields → Typed context child) :
    Typed context (.composite conditionalRule.name schema fields) := by
  obtain ⟨condition, rest, rfl, hrest, hnodes⟩ := eq_cons_of_names h.names h.nodes
  obtain ⟨consequent, rest, rfl, hrest, hnodes⟩ := eq_cons_of_names hrest hnodes
  obtain ⟨otherwise, rest, rfl, hrest, -⟩ := eq_cons_of_names hrest hnodes
  obtain rfl : rest = [] := List.map_eq_nil_iff.mp hrest
  have hpattern : ⟨.subexpression .lhs (some (txt "boolean")), some (txt "condition")⟩ ∈
      conditionalRule.pattern := List.mem_cons_self
  have hcondition := schema_of_composes h (by decide) hpattern List.mem_cons_self
  exact .conditional (hfields _ _ List.mem_cons_self)
    (hfields _ _ (List.mem_cons_of_mem _ List.mem_cons_self))
    (hfields _ _ (List.mem_cons_of_mem _ (List.mem_cons_of_mem _ List.mem_cons_self))) hcondition h.schema

/-- A tree is typed if its composites are explained by the rules and its leaves are typed. -/
theorem of_explained
    (hexplained : ∀ name schema fields, Node.Within (.composite name schema fields) tree →
      grammar.Explains standardRules name schema fields)
    (hleaves : ∀ leaf, leaf.isLeaf = true → leaf.Within tree → Typed context leaf) :
    Typed context tree := by
  induction tree using Node.field_induction with
  | literal raw value schema => exact hleaves _ rfl (.root _)
  | identifier name schema => exact hleaves _ rfl (.root _)
  | const schema => exact hleaves _ rfl (.root _)
  | composite kind schema fields ih =>
    have hfields : ∀ name child, (name, .node child) ∈ fields → Typed context child := by
      intro name child hchild
      refine ih name child hchild (fun name' schema' fields' hwithin => ?_) fun leaf hleaf hwithin => ?_
      · exact hexplained name' schema' fields' (.field hchild hwithin)
      · exact hleaves leaf hleaf (.field hchild hwithin)
    rcases hexplained kind schema fields (.root _) with
      ⟨rfl, index, hcomposes⟩ | ⟨rule, hrule, rfl, -, index, -, hcomposes⟩
    · exact of_parentheses hcomposes hfields
    · rcases mem_standardRules.mp hrule with rfl | ⟨op, hop, rfl⟩ | rfl
      · exact of_conditional hcomposes hfields
      · exact of_binary hop hcomposes hfields
      · exact of_negation hcomposes hfields

end Typed

/-- The rules of the small expression language keep no terminal: all that they bind are subexpressions. -/
theorem not_keeps_of_mem_standardRules {rule : Rule} (h : rule ∈ standardRules) (t : Terminal) :
    ¬ rule.Keeps t := by
  rcases mem_standardRules.mp h with rfl | ⟨op, -, rfl⟩ | rfl
  · refine Rule.not_keeps (by decide) ?_ t
    exact List.forall_mem_cons.mpr ⟨nofun, List.forall_mem_cons.mpr ⟨fun _ _ => rfl,
      List.forall_mem_cons.mpr ⟨nofun, List.forall_mem_cons.mpr ⟨fun _ _ => rfl,
        List.forall_mem_singleton.mpr nofun⟩⟩⟩⟩
  · exact op.not_keeps_rule t
  · refine Rule.not_keeps (by decide) ?_ t
    exact List.forall_mem_cons.mpr ⟨fun _ _ => rfl, List.forall_mem_singleton.mpr nofun⟩

section

variable {context : Context} {start : Nat} {s : Text} {r : Match Node}

/-- The plain parse of the small expression language gives proper trees. -/
theorem proper_of_plain (h : Parse.plain standardGrammar context start s = .ok (some r)) :
    standardGrammar.Proper standardRules start r.value :=
  Parse.plain_proper admissible_standardRules (fun _ => configure_of_mem_standardRules)
    build_standardRules h

/-- **Every node of a parsed tree is typed.** -/
theorem typed_of_plain (h : Parse.plain standardGrammar context start s = .ok (some r)) {node : Node}
    (hnode : node.Within r.value) : Typed context node := by
  have hexplained := (proper_of_plain h).explained
  refine Typed.of_explained
    (fun name schema fields hwithin => hexplained name schema fields (hwithin.trans hnode))
    fun leaf hleaf hwithin => ?_
  obtain ⟨t, s', rest', hmatch, hkept⟩ := Parse.leaf_matched admissible_standardRules
    (fun _ => configure_of_mem_standardRules) build_standardRules h hleaf (hwithin.trans hnode)
  rcases hkept with hatom | ⟨rule, hrule, hkeeps⟩
  · exact Typed.of_atom hatom hmatch
  · exact absurd hkeeps (not_keeps_of_mem_standardRules hrule t)

end

/-! ## Evaluation -/

section

variable [Checker] {data : Fields}

/-- An operation is done on the values of its operands. -/
theorem once_binary {op : Infix} (hop : op ∈ standardOperators) (left right : Node) :
    (Eval.node standardRules data (op.node left right)).once = (do
      let a ← (Eval.node standardRules data left).once
      let b ← (Eval.node standardRules data right).once
      (op.operation a b).mapError .operation) := by
  refine (Eval.once_composite admissible_standardRules (op.rule_mem_standardRules hop) rfl
    (.str (txt op.schema))).trans ?_
  simp only [Eval.fieldValues_cons, Eval.fieldValues_nil, bind_assoc, ok_bind]
  rfl

/-- A negation gives the other truth value. -/
theorem once_negation (operand : Node) :
    (Eval.node standardRules data (Tree.negationNode operand)).once = (do
      let a ← (Eval.node standardRules data operand).once
      .ok (.bool !a.truthy)) := by
  have hrule : negationRule ∈ standardRules := mem_standardRules.mpr (.inr (.inr rfl))
  refine (Eval.once_composite admissible_standardRules hrule rfl (.str (txt "boolean"))).trans ?_
  simp only [Eval.fieldValues_cons, Eval.fieldValues_nil, bind_assoc, ok_bind]
  rfl

/-- Of a conditional all three parts are evaluated. -/
theorem once_conditional (condition consequent otherwise : Node) (schema : Value) :
    (Eval.node standardRules data
      (.composite (txt "ternary") schema (conditionalFields condition consequent otherwise))).once = (do
      let c ← (Eval.node standardRules data condition).once
      let a ← (Eval.node standardRules data consequent).once
      let b ← (Eval.node standardRules data otherwise).once
      .ok (if c.truthy then a else b)) := by
  have hrule : conditionalRule ∈ standardRules := mem_standardRules.mpr (.inl rfl)
  refine (Eval.once_composite admissible_standardRules hrule rfl schema).trans ?_
  simp only [Eval.fieldValues_cons, Eval.fieldValues_nil, bind_assoc, ok_bind]
  refine bind_congr fun c => bind_congr fun a => bind_congr fun b => ?_
  change Except.mapError EvalError.operation (if c.truthy then .ok a else .ok b) = _
  split
  · rfl
  · rfl

/-- The value of an identifier that is declared to be of a primitive type is of this type. -/
theorem holds_of_identifier (hsorts : Checker.Sorts) {name : Text} {type : Primitive} {v : Value}
    (hv : (Eval.identifier data name (.str type.text)).once = .ok v) : type.holds v = true := by
  obtain ⟨-, descriptor, verdict, hdescriptor, hverdict, hok⟩ := Eval.once_identifier_eq_ok.mp hv
  cases hdescriptor
  exact Primitive.holds_of_verdict hsorts hverdict hok

end

end Standard

end Mixfix
