import Mixfix.Eval
import Mixfix.Proofs.Rule
import Mixfix.Proofs.Validator

/-!
# Evaluation without a cache

Evaluation threads a cache of compiled descriptors, but only its identifiers look at it. So a tree comes to
the same with every faithful cache (`Eval.steady_node`), and `EvalM.once` tells what that is by an equation
for each kind of node: `Eval.once_identifier_eq_ok` and `Eval.once_composite`.

`Eval.fieldValues` evaluates fields as they stand. They are those that a rule looks up, if they are named as
it binds its elements. Composites with other fields come to what the rule makes of those that it binds and that
are there (`Eval.once_composite_bound`).
-/

set_option autoImplicit false

namespace Mixfix

/-! ## Computations -/

namespace EvalM

variable {α β : Type}

/-- What a computation comes to where no descriptor was compiled before. -/
def once (x : EvalM α) : Except EvalError α :=
  (x []).1

/-- A computation that comes to the same with every faithful cache and keeps it faithful. -/
structure Steady [Checker] (x : EvalM α) : Prop where
  same : ∀ cache : ShapeCache, cache.Faithful → (x cache).1 = x.once
  faithful : ∀ cache : ShapeCache, cache.Faithful → ShapeCache.Faithful (x cache).2

@[simp] theorem once_lift (x : Except EvalError α) : (liftM x : EvalM α).once = x := rfl

variable [Checker]

theorem steady_pure (a : α) : (pure a : EvalM α).Steady :=
  ⟨fun _ _ => rfl, fun _ h => h⟩

theorem steady_throw (e : EvalError) : (throw e : EvalM α).Steady :=
  ⟨fun _ _ => rfl, fun _ h => h⟩

theorem steady_lift (x : Except EvalError α) : (liftM x : EvalM α).Steady :=
  ⟨fun _ _ => rfl, fun _ h => h⟩

theorem steady_ite {c : Prop} [Decidable c] {x y : EvalM α} (hx : x.Steady) (hy : y.Steady) :
    (if c then x else y).Steady := by
  split
  · exact hx
  · exact hy

variable {x : EvalM α} {f : α → EvalM β}

/-- Steady computations one after the other can be told one by one. -/
theorem once_bind (hx : x.Steady) (hf : ∀ a, (f a).Steady) :
    (x >>= f).once = x.once >>= fun a => (f a).once := by
  have hafter := hx.faithful [] ShapeCache.faithful_nil
  unfold once
  rw [exceptT_bind_apply]
  cases h : x [] with
  | mk result after =>
    rw [h] at hafter
    cases result with
    | ok a => exact (hf a).same after hafter
    | error e => rfl

theorem Steady.bind (hx : x.Steady) (hf : ∀ a, (f a).Steady) : (x >>= f).Steady := by
  refine ⟨fun cache hcache => ?_, fun cache hcache => ?_⟩
  · have hsame := hx.same cache hcache
    have hafter := hx.faithful cache hcache
    rw [once_bind hx hf, exceptT_bind_apply, ← hsame]
    cases h : x cache with
    | mk result after =>
      rw [h] at hafter
      cases result with
      | ok a => exact (hf a).same after hafter
      | error e => rfl
  · have hafter := hx.faithful cache hcache
    rw [exceptT_bind_apply]
    cases h : x cache with
    | mk result after =>
      rw [h] at hafter
      cases result with
      | ok a => exact (hf a).faithful after hafter
      | error e => exact hafter

end EvalM

open EvalM

namespace Eval

variable [Checker] {rules : List Rule} {data : Fields}

/-! ## Identifiers -/

theorem check_apply (value : Value) (descriptor : Option Text) (cache : ShapeCache) :
    check value descriptor cache =
      match cache.validate value descriptor with
      | .error e => (.error (.compile e), cache)
      | .ok (verdict, after) => (.ok verdict, after) := by
  have hread : check value descriptor cache =
      (match cache.validate value descriptor with
        | .error e => throw (.compile e)
        | .ok (verdict, after) => do
          set after
          return verdict : EvalM Verdict) cache := rfl
  rw [hread]
  cases cache.validate value descriptor with
  | error e => rfl
  | ok result => rfl

/-- A check comes to the verdict that there is without a cache. -/
theorem check_fst {cache : ShapeCache} (h : cache.Faithful) (value : Value) (descriptor : Option Text) :
    (check value descriptor cache).1 = (verdict? value descriptor).mapError .compile := by
  rw [check_apply, ← h.validate_fst]
  cases cache.validate value descriptor with
  | error e => rfl
  | ok result => rfl

theorem once_check (value : Value) (descriptor : Option Text) :
    (check value descriptor).once = (verdict? value descriptor).mapError .compile :=
  check_fst ShapeCache.faithful_nil value descriptor

theorem steady_check (value : Value) (descriptor : Option Text) : (check value descriptor).Steady := by
  refine ⟨fun cache hcache => ?_, fun cache hcache => ?_⟩
  · rw [check_fst hcache, once_check]
  · rw [check_apply]
    cases hvalidate : cache.validate value descriptor with
    | error e => exact hcache
    | ok result => exact hcache.validate_snd hvalidate

theorem steady_identifier (name : Text) (schema : Value) : (identifier data name schema).Steady := by
  unfold identifier
  cases data.find? name with
  | none => exact steady_throw _
  | some value =>
    refine (steady_lift (descriptor? schema)).bind fun descriptor => ?_
    refine (steady_check value descriptor).bind fun verdict => ?_
    exact steady_ite (steady_pure value) (steady_throw _)

/-- What an identifier comes to where the data has it. -/
theorem once_identifier {name : Text} {schema value : Value} (h : data.find? name = some value) :
    (identifier data name schema).once = (do
      let descriptor ← descriptor? schema
      let verdict ← (verdict? value descriptor).mapError .compile
      if verdict.ok then .ok value
      else .error (.failedValidation name (descriptor.getD []) verdict.reason)) := by
  unfold identifier
  rw [h]
  dsimp only
  rw [once_bind (steady_lift _) fun descriptor =>
    (steady_check value descriptor).bind fun verdict => steady_ite (steady_pure value) (steady_throw _)]
  rw [once_lift]
  congr 1
  funext descriptor
  rw [once_bind (steady_check value descriptor) fun verdict =>
    steady_ite (steady_pure value) (steady_throw _), once_check]
  congr 1
  funext verdict
  split
  · rfl
  · rfl

/-- An identifier has a value exactly where the data has it and its check passes. -/
theorem once_identifier_eq_ok {name : Text} {schema value : Value} :
    (identifier data name schema).once = .ok value ↔
      data.find? name = some value ∧ ∃ descriptor verdict, descriptor? schema = .ok descriptor ∧
        verdict? value descriptor = .ok verdict ∧ verdict.ok = true := by
  cases hfind : data.find? name with
  | none =>
    have hfails : (identifier data name schema).once = .error (.undefinedVariable name) := by
      rw [identifier, hfind]
      rfl
    simp [hfails]
  | some found =>
    rw [once_identifier hfind, bind_eq_ok]
    constructor
    · rintro ⟨descriptor, hdescriptor, h⟩
      obtain ⟨verdict, hverdict, h⟩ := bind_eq_ok.mp h
      split at h
      · rename_i hok
        cases h
        refine ⟨rfl, descriptor, verdict, hdescriptor, ?_, hok⟩
        exact mapError_eq_ok.mp hverdict
      · cases h
    · rintro ⟨hsame, descriptor, verdict, hdescriptor, hverdict, hok⟩
      cases hsame
      refine ⟨descriptor, hdescriptor, bind_eq_ok.mpr ⟨verdict, mapError_eq_ok.mpr hverdict, ?_⟩⟩
      rw [if_pos hok]

omit [Checker] in
/-- A schema that is neither null nor a text is no descriptor. -/
theorem descriptor?_eq_error {schema : Value} {e : EvalError} :
    descriptor? schema = .error e ↔ e = .schemaType ∧ schema ≠ .null ∧ ∀ s, schema ≠ .str s := by
  cases schema with
  | null | str => simp [descriptor?]
  | _ => simp [descriptor?, eq_comm]

/-- An identifier fails by its name, by its schema or by its value. -/
theorem error_of_identifier {name : Text} {schema : Value} {e : EvalError}
    (h : (identifier data name schema).once = .error e) :
    e = .undefinedVariable name ∨ e = .schemaType ∨ (∃ error, e = .compile error) ∨
      ∃ declared reason, e = .failedValidation name declared reason := by
  cases hfind : data.find? name with
  | none =>
    rw [identifier, hfind] at h
    cases h
    exact .inl rfl
  | some found =>
    rw [once_identifier hfind] at h
    rcases bind_eq_error.mp h with hdescriptor | ⟨descriptor, -, h⟩
    · exact .inr (.inl (descriptor?_eq_error.mp hdescriptor).1)
    · rcases bind_eq_error.mp h with hverdict | ⟨verdict, -, h⟩
      · obtain ⟨error, -, rfl⟩ := mapError_eq_error.mp hverdict
        exact .inr (.inr (.inl ⟨error, rfl⟩))
      · split at h
        · cases h
        · cases h
          exact .inr (.inr (.inr ⟨_, _, rfl⟩))

/-! ## Fields -/

theorem evaluations_eq_map (fields : Fields) :
    evaluations rules data fields = fields.map fun field => (field.1, value rules data field.2) := by
  induction fields with
  | nil => rfl
  | cons field fields ih =>
    obtain ⟨name, v⟩ := field
    rw [evaluations, ih]
    rfl

theorem find?_evaluations (name : Text) (fields : Fields) :
    (evaluations rules data fields).find? name = (fields.find? name).map (value rules data) := by
  rw [evaluations_eq_map, Entries.find?_map]

theorem steady_boundFields {fields : Entries (EvalM Value)}
    (h : ∀ name run, fields.find? name = some run → run.Steady) (names : List Text) :
    (boundFields fields names).Steady := by
  induction names with
  | nil => exact steady_pure []
  | cons name names ih =>
    unfold boundFields
    cases hfind : fields.find? name with
    | none => exact ih
    | some run => exact (h name run hfind).bind fun v => ih.bind fun rest => steady_pure _

theorem steady_composite {kind : Text} {fields : Entries (EvalM Value)}
    (h : ∀ name run, fields.find? name = some run → run.Steady) :
    (composite rules data kind fields).Steady := by
  unfold composite
  split
  · split
    · rename_i run hrun
      exact h _ run hrun
    · exact steady_throw _
  · split
    · exact steady_throw _
    · split
      · exact steady_throw _
      · refine (steady_boundFields h _).bind fun values => ?_
        split
        · exact steady_pure _
        · exact steady_throw _

end Eval

/-! ## Trees -/

/-- What holds of a composite whenever it holds of the nodes in its fields, and of all other nodes, holds of
all nodes. -/
theorem Node.field_induction {P : Node → Prop}
    (literal : ∀ raw value schema, P (.literal raw value schema))
    (identifier : ∀ name schema, P (.identifier name schema))
    (const : ∀ schema, P (.const schema))
    (composite : ∀ rule schema fields, (∀ name child, (name, Value.node child) ∈ fields → P child) →
      P (.composite rule schema fields)) :
    ∀ node, P node
  | .literal raw value schema => literal raw value schema
  | .identifier name schema => identifier name schema
  | .const schema => const schema
  | .composite rule schema fields => composite rule schema fields fun name child _hchild =>
    field_induction literal identifier const composite child
termination_by node => sizeOf node
decreasing_by
  have hsmaller := List.sizeOf_lt_of_mem _hchild
  simp only [Prod.mk.sizeOf_spec, Value.node.sizeOf_spec] at hsmaller
  simp only [Node.composite.sizeOf_spec]
  omega

namespace Eval

variable [Checker] {rules : List Rule} {data : Fields}

/-- **Evaluation is steady**: no compiled descriptor changes what a tree comes to. -/
theorem steady_node (node : Node) : (Eval.node rules data node).Steady := by
  induction node using Node.field_induction with
  | literal raw value schema => exact steady_pure value
  | identifier name schema => exact steady_identifier name schema
  | const schema => exact steady_throw .constNode
  | composite rule schema fields ih =>
    refine steady_composite fun name run hrun => ?_
    rw [find?_evaluations] at hrun
    obtain ⟨v, hv, rfl⟩ := Option.map_eq_some_iff.mp hrun
    cases v with
    | node child => exact ih name child (Entries.mem_of_find? hv)
    -- Other values in fields are refused before anything is evaluated.
    | _ => exact steady_throw _

theorem steady_value (v : Value) : (Eval.value rules data v).Steady := by
  cases v with
  | node n => exact steady_node n
  | _ => exact steady_throw _

theorem steady_evaluations {fields : Fields} {name : Text} {run : EvalM Value}
    (h : (evaluations rules data fields).find? name = some run) : run.Steady := by
  rw [find?_evaluations] at h
  obtain ⟨v, -, rfl⟩ := Option.map_eq_some_iff.mp h
  exact steady_value v

/-- What fields come to, one after the other. -/
def fieldValues (rules : List Rule) (data fields : Fields) : Except EvalError Fields :=
  fields.mapM fun field => do return (field.1, ← (value rules data field.2).once)

@[simp] theorem fieldValues_nil : fieldValues rules data [] = .ok [] := rfl

@[simp] theorem fieldValues_cons (name : Text) (child : Node) (fields : Fields) :
    fieldValues rules data ((name, .node child) :: fields) = (do
      let v ← (node rules data child).once
      let values ← fieldValues rules data fields
      .ok ((name, v) :: values)) := by
  rw [fieldValues, List.mapM_cons, bind_assoc]
  rfl

/-- The fields that are named are those whose values are taken, if no name occurs twice. -/
theorem once_boundFields {fields part : Fields} (hnodup : fields.names.Nodup) (hpart : part ⊆ fields) :
    (boundFields (evaluations rules data fields) (Entries.names part)).once = fieldValues rules data part := by
  induction part with
  | nil => rfl
  | cons field part ih =>
    obtain ⟨name, v⟩ := field
    obtain ⟨hmem, hpart⟩ := List.cons_subset.mp hpart
    have hfind : (evaluations rules data fields).find? name = some (value rules data v) := by
      rw [find?_evaluations, (Entries.find?_eq_some hnodup).mpr hmem]
      rfl
    have hrest : (boundFields (evaluations rules data fields) (Entries.names part)).Steady :=
      steady_boundFields (fun _ _ => steady_evaluations) _
    change (boundFields _ (name :: Entries.names part)).once = _
    rw [boundFields, hfind]
    dsimp only
    rw [once_bind (steady_value v) fun a => hrest.bind fun values => steady_pure _]
    rw [fieldValues, List.mapM_cons, bind_assoc]
    congr 1
    funext a
    rw [once_bind hrest fun values => steady_pure _, pure_bind]
    rw [ih hpart]
    rfl

theorem names_of_fieldValues {fields values : Fields} (h : fieldValues rules data fields = .ok values) :
    values.names = fields.names := by
  induction fields generalizing values with
  | nil =>
    cases h
    rfl
  | cons field fields ih =>
    rw [fieldValues, List.mapM_cons] at h
    obtain ⟨first, hfirst, h⟩ := bind_eq_ok.mp h
    obtain ⟨rest, hrest, h⟩ := bind_eq_ok.mp h
    obtain ⟨v, -, hv⟩ := bind_eq_ok.mp hfirst
    cases h
    cases hv
    exact congrArg (field.1 :: ·) (ih hrest)

/-- What a composite of a rule comes to, whatever fields it has: those that the rule binds are evaluated, as far as
they are there, and the rule makes a value of theirs. -/
theorem once_composite_bound {rule : Rule} (hrules : Admissible rules) (hrule : rule ∈ rules) (schema : Value)
    (fields : Fields) :
    (Eval.node rules data (.composite rule.name schema fields)).once =
      match rule.eval with
      | none => .error (.missingEvaluation rule.name)
      | some run => (boundFields (evaluations rules data fields) rule.bindingNames).once >>= fun values =>
        (run (Entries.ofList values) data).mapError .operation := by
  -- The name of a defined rule is not reserved, so the rule is looked up.
  have hname : (rule.name == txt "parentheses") = false := by
    rw [beq_eq_false_iff_ne]
    intro heq
    exact (hrules.defined rule hrule).checked.name_free (heq ▸ by decide)
  unfold Eval.node composite
  rw [hname, hrules.find?_eq_some hrule, if_neg Bool.false_ne_true]
  dsimp only
  cases rule.eval with
  | none => rfl
  | some run =>
    have hfields : (boundFields (evaluations rules data fields) rule.bindingNames).Steady :=
      steady_boundFields (fun _ _ => steady_evaluations) _
    dsimp only
    rw [once_bind hfields]
    · congr 1
      funext values
      cases run (Entries.ofList values) data <;> rfl
    · intro values
      split
      · exact steady_pure _
      · exact steady_throw _

/-- **What a composite comes to**: its fields are evaluated in order, and its rule makes a value of theirs. -/
theorem once_composite {rule : Rule} (hrules : Admissible rules) (hrule : rule ∈ rules) {fields : Fields}
    (hnames : fields.names = rule.bindingNames) (schema : Value) :
    (Eval.node rules data (.composite rule.name schema fields)).once =
      match rule.eval with
      | none => .error (.missingEvaluation rule.name)
      | some run => fieldValues rules data fields >>= fun values => (run values data).mapError .operation := by
  have hnodup : fields.names.Nodup := hnames ▸ (hrules.defined rule hrule).checked.nodup_bindings
  rw [once_composite_bound hrules hrule, ← hnames, once_boundFields hnodup (List.Subset.refl fields)]
  cases rule.eval with
  | none => rfl
  | some run =>
    cases hvalues : fieldValues rules data fields with
    | error e => rfl
    | ok values =>
      have hofList : Entries.ofList values = values :=
        Entries.ofList_of_nodup (names_of_fieldValues hvalues ▸ hnodup)
      dsimp only
      rw [ok_bind, ok_bind, hofList]

end Eval

/-- With a faithful cache a tree comes to what it comes to without one. -/
theorem evaluate_fst [Checker] {rules : List Rule} {data : Fields} {cache : ShapeCache} (h : cache.Faithful)
    (tree : Node) : (evaluate rules data (.node tree) cache).1 = (Eval.node rules data tree).once :=
  (Eval.steady_node tree).same cache h

/-- A document is evaluated as the tree that it describes. -/
theorem evaluateOnce_eq [Checker] (rules : List Rule) (data : Fields) (document : Value) :
    evaluateOnce rules data document = (do
      let node ← (Tree.ofDocument document).mapError .ofRead
      (Eval.node rules data node).once) := by
  unfold evaluateOnce evaluate
  split
  · rfl
  · cases Tree.ofDocument document <;> rfl

end Mixfix
