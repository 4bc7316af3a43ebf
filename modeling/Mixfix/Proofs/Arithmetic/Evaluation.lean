import Mixfix.Host.Checker
import Mixfix.Proofs.Eval
import Mixfix.Proofs.Grammar.Builtin
import Mixfix.Proofs.Tree.Source

/-!
# How the evaluation of arithmetic fails

A document that describes a tree need not be one that was parsed: a node of an operator may have any fields, and
a schema may be any value. Evaluation foresees most of what can be wrong with it (`EvalError.isForeseen`): what is
no node, a variable without a value, a value that fails its check, a descriptor that does not compile, operands
that an operator refuses.

`Arithmetic.Breaks` lists what it does not foresee in a tree, and before that only too long an integer can keep the
document from being read. The fields of an operation are evaluated in the order of its
pattern, as far as they are there (`once_operation`), so a failure further right only shows if everything on its
left has a value. **`fails_unforeseen_iff`** says that the list is complete.
-/

set_option autoImplicit false

namespace Mixfix

/-! ## Operators -/

/-- Whether an operator refuses its operands: it does not take their types, or there is no number that they come
to. -/
def OperationError.isRefusal : OperationError → Bool
  | .unsupportedOperands | .zeroDivision _ | .overflow _ => true
  | .place _ | .outOfMemory | .tooManyDigits | .missingName => false

/-- Whether a failure is one that evaluation foresees. -/
def EvalError.isForeseen : EvalError → Bool
  | .invalidNode _ | .unknownKind _ | .missingEvaluation _ | .constNode | .undefinedVariable _
  | .failedValidation .. | .compile _ => true
  | .operation e => e.isRefusal
  | .schemaType | .tooManyDigits => false

namespace Number

variable {x y : Number} {e : OperationError}

theorem isRefusal_of_toDouble (h : x.toDouble = .error e) : e.isRefusal = true := by
  unfold toDouble at h
  split at h
  · cases h
  · split at h <;> cases h
    rfl

/-- An operation in doubles refuses what it does not do. -/
theorem isRefusal_of_bind_toDouble {f : Float → Float → Except OperationError Number}
    (hf : ∀ x y, f x y = .error e → e.isRefusal = true)
    (h : (x.toDouble >>= fun x => y.toDouble >>= fun y => f x y) = .error e) : e.isRefusal = true := by
  rcases bind_eq_error.mp h with hx | ⟨x', -, h⟩
  · exact isRefusal_of_toDouble hx
  · rcases bind_eq_error.mp h with hy | ⟨y', -, h⟩
    · exact isRefusal_of_toDouble hy
    · exact hf x' y' h

theorem isRefusal_of_combine {ints : Int → Int → Int} {reals : Float → Float → Float}
    (h : combine ints reals x y = .error e) : e.isRefusal = true := by
  unfold combine at h
  split at h
  · cases h
  · refine isRefusal_of_bind_toDouble (f := fun x y => .ok (.real (reals x y))) (fun x y h => ?_) h
    cases h

theorem isRefusal_of_quotient (h : quotient x y = .error e) : e.isRefusal = true := by
  unfold quotient at h
  split at h
  · split at h
    · cases h
      rfl
    · split at h <;> cases h
      rfl
  · refine isRefusal_of_bind_toDouble (fun x y h => ?_) h
    split at h <;> cases h
    rfl

theorem isRefusal_of_remainder (h : remainder x y = .error e) : e.isRefusal = true := by
  unfold remainder at h
  split at h
  · split at h <;> cases h
    rfl
  · refine isRefusal_of_bind_toDouble (fun x y h => ?_) h
    split at h <;> cases h
    rfl

end Number

namespace Value

variable {a b : Value} {e : OperationError}

/-- Arithmetic refuses what are no numbers. -/
theorem isRefusal_of_arithmetic {operation : Number → Number → Except OperationError Number}
    (hoperation : ∀ x y e, operation x y = .error e → e.isRefusal = true)
    (h : arithmetic operation a b = .error e) : e.isRefusal = true := by
  unfold arithmetic at h
  split at h
  · exact hoperation _ _ e (map_eq_error.mp h)
  · cases h
    rfl

theorem isRefusal_of_add (h : add a b = .error e) : e.isRefusal = true := by
  unfold add at h
  split at h
  · cases h
  · cases h
  · exact isRefusal_of_arithmetic (fun _ _ _ => Number.isRefusal_of_combine) h

/-- A repetition is refused, or its length is beyond all counting. -/
theorem isRefusal_of_repeated {α : Type} {tooLong : OperationError} {items : List α} {count : Int}
    (hlong : tooLong.isRefusal = true ∨ tooLong = .outOfMemory) (h : repeated tooLong items count = .error e) :
    e.isRefusal = true ∨ e = .outOfMemory := by
  unfold repeated at h
  split at h
  · cases h
    exact .inl rfl
  · split at h
    · cases h
    · dsimp only at h
      split at h <;> cases h
      exact hlong

/-- A product is refused, or it is a list beyond all counting. -/
theorem isRefusal_of_mul (h : mul a b = .error e) : e.isRefusal = true ∨ e = .outOfMemory := by
  unfold mul at h
  split at h
  · exact isRefusal_of_repeated (.inl rfl) (map_eq_error.mp h)
  · exact isRefusal_of_repeated (.inl rfl) (map_eq_error.mp h)
  · exact isRefusal_of_repeated (.inr rfl) (map_eq_error.mp h)
  · exact isRefusal_of_repeated (.inr rfl) (map_eq_error.mp h)
  · exact .inl (isRefusal_of_arithmetic (fun _ _ _ => Number.isRefusal_of_combine) h)

/-- A remainder is refused, or it is a template that is not filled. -/
theorem isRefusal_of_mod (h : mod a b = .error e) :
    e.isRefusal = true ∨ ∃ s, a = .str s ∧ Template.fill s b = .error e := by
  unfold mod at h
  split at h
  · exact .inr ⟨_, rfl, map_eq_error.mp h⟩
  · exact .inl (isRefusal_of_arithmetic (fun _ _ _ => Number.isRefusal_of_remainder) h)

end Value

namespace Arithmetic

/-- The operators of arithmetic. -/
def operators : List Infix :=
  sums 1 ++ products 2

/-- An operator fails unforeseen where it repeats a list beyond all counting, or where a template is not filled. -/
theorem unforeseen_of_operation {op : Infix} (hop : op ∈ operators) {a b : Value} {e : OperationError}
    (h : op.operation a b = .error e) (he : e.isRefusal = false) :
    (op.name = "mul" ∧ Value.mul a b = .error .outOfMemory ∧ e = .outOfMemory) ∨
      op.name = "mod" ∧ ∃ s, a = .str s ∧ Template.fill s b = .error e := by
  have hnot (hrefusal : e.isRefusal = true) : False := Bool.false_ne_true (he.symm.trans hrefusal)
  simp only [operators, sums, products, List.cons_append, List.nil_append, List.mem_cons, List.not_mem_nil,
    or_false] at hop
  rcases hop with rfl | rfl | rfl | rfl | rfl
  · exact (hnot (Value.isRefusal_of_add h)).elim
  · exact (hnot (Value.isRefusal_of_arithmetic (fun _ _ _ => Number.isRefusal_of_combine) h)).elim
  · obtain rfl := (Value.isRefusal_of_mul h).resolve_left hnot
    exact .inl ⟨rfl, h, rfl⟩
  · exact (hnot (Value.isRefusal_of_arithmetic (fun _ _ _ => Number.isRefusal_of_quotient) h)).elim
  · exact .inr ⟨rfl, (Value.isRefusal_of_mod h).resolve_left hnot⟩

/-! ## Operations -/

section

variable [Checker] {data : Fields}

/-- What a field of a node comes to, if it is there. -/
def present (data fields : Fields) (name : Text) : Except EvalError (Option Value) :=
  match fields.find? name with
  | none => .ok none
  | some v => (Eval.value arithmeticRules data v).once.map some

/-- The value of an operation from those of its operands that are there. -/
def operate (op : Infix) : Option Value → Option Value → Except EvalError Value
  | some a, some b => (op.operation a b).mapError .operation
  | _, _ => .error (.operation .missingName)

/-- Fields are evaluated one after the other, as far as they are there. -/
theorem once_boundFields_cons (fields : Fields) (name : Text) (names : List Text) :
    (Eval.boundFields (Eval.evaluations arithmeticRules data fields) (name :: names)).once = (do
      let v ← present data fields name
      let values ← (Eval.boundFields (Eval.evaluations arithmeticRules data fields) names).once
      .ok (v.toList.map (name, ·) ++ values)) := by
  have hrest : (Eval.boundFields (Eval.evaluations arithmeticRules data fields) names).Steady :=
    Eval.steady_boundFields (fun _ _ => Eval.steady_evaluations) names
  rw [Eval.boundFields, Eval.find?_evaluations, present]
  cases fields.find? name with
  | none =>
    change (Eval.boundFields (Eval.evaluations arithmeticRules data fields) names).once = _
    cases (Eval.boundFields (Eval.evaluations arithmeticRules data fields) names).once <;> rfl
  | some v =>
    dsimp only [Option.map_some]
    rw [EvalM.once_bind (Eval.steady_value v) fun a => hrest.bind fun values => EvalM.steady_pure _]
    cases (Eval.value arithmeticRules data v).once with
    | error e => rfl
    | ok a =>
      rw [ok_bind, EvalM.once_bind hrest fun values => EvalM.steady_pure _]
      rfl

/-- **What an operation comes to**, whatever fields it has: the operands that are there are evaluated, the left one
first, and both have to be there. -/
theorem once_operation {op : Infix} (hop : op ∈ operators) (schema : Value) (fields : Fields) :
    (Eval.node arithmeticRules data (.composite (txt op.name) schema fields)).once = (do
      let a ← present data fields (txt "left")
      let b ← present data fields (txt "right")
      operate op a b) := by
  refine (Eval.once_composite_bound admissible_arithmeticRules (List.mem_map_of_mem hop) schema fields).trans ?_
  change ((Eval.boundFields _ [txt "left", txt "right"]).once >>= fun values =>
    (Evaluation.binary op.operation (txt "left") (txt "right") (Entries.ofList values) data).mapError
      .operation) = _
  rw [once_boundFields_cons, once_boundFields_cons]
  cases present data fields (txt "left") with
  | error e => rfl
  | ok a =>
    cases present data fields (txt "right") with
    | error e => rfl
    | ok b =>
      -- The operator looks for its operands among those that were there.
      cases a with
      | none => cases b <;> rfl
      | some a => cases b <;> rfl

/-! ## Failures -/

/-- A failure that evaluation does not foresee, and where in a node it happens. -/
inductive Breaks (data : Fields) : Node → EvalError → Prop
  /-- A variable that has a value is checked against what is no text. -/
  | schema {name : Text} {schema value : Value} : data.find? name = some value → schema ≠ .null →
      (∀ s, schema ≠ .str s) → Breaks data (.identifier name schema) .schemaType
  | inner {schema : Value} {fields : Fields} {child : Node} {e : EvalError} :
      fields.find? (txt "inner") = some (.node child) → Breaks data child e →
      Breaks data (.composite (txt "parentheses") schema fields) e
  | left {op : Infix} {schema : Value} {fields : Fields} {child : Node} {e : EvalError} : op ∈ operators →
      fields.find? (txt "left") = some (.node child) → Breaks data child e →
      Breaks data (.composite (txt op.name) schema fields) e
  | right {op : Infix} {schema : Value} {fields : Fields} {a : Option Value} {child : Node} {e : EvalError} :
      op ∈ operators → present data fields (txt "left") = .ok a →
      fields.find? (txt "right") = some (.node child) → Breaks data child e →
      Breaks data (.composite (txt op.name) schema fields) e
  /-- An operand is not there, and the other has a value or is not there either. -/
  | missing {op : Infix} {schema : Value} {fields : Fields} {a b : Option Value} : op ∈ operators →
      present data fields (txt "left") = .ok a → present data fields (txt "right") = .ok b →
      a = none ∨ b = none → Breaks data (.composite (txt op.name) schema fields) (.operation .missingName)
  /-- A list is repeated to a length beyond all counting. -/
  | repetition {schema : Value} {fields : Fields} {a b : Value} :
      present data fields (txt "left") = .ok (some a) → present data fields (txt "right") = .ok (some b) →
      Value.mul a b = .error .outOfMemory →
      Breaks data (.composite (txt "mul") schema fields) (.operation .outOfMemory)
  /-- A text is taken for a template and cannot be filled, for another reason than the types of the values or a
  number that is too large. -/
  | template {schema : Value} {fields : Fields} {s : Text} {b : Value} {e : OperationError} :
      present data fields (txt "left") = .ok (some (.str s)) → present data fields (txt "right") = .ok (some b) →
      Template.fill s b = .error e → e.isRefusal = false →
      Breaks data (.composite (txt "mod") schema fields) (.operation e)

/-- An operand fails unforeseen where it is a node that does. -/
theorem present_eq_error {fields : Fields} {name : Text} {e : EvalError} (he : e.isForeseen = false) :
    present data fields name = .error e ↔
      ∃ child, fields.find? name = some (.node child) ∧ (Eval.node arithmeticRules data child).once = .error e := by
  unfold present
  cases hfind : fields.find? name with
  | none => simp
  | some v =>
    cases v with
    | node child => simp [map_eq_error, Eval.value]
    | _ =>
      constructor
      · intro h
        cases map_eq_error.mp h
        cases he
      · rintro ⟨child, heq, -⟩
        cases heq

/-- A variable fails unforeseen where its schema is no text and there is a value to be checked. -/
theorem identifier_unforeseen_iff {name : Text} {schema : Value} {e : EvalError} :
    (Eval.identifier data name schema).once = .error e ∧ e.isForeseen = false ↔
      e = .schemaType ∧ schema ≠ .null ∧ (∀ s, schema ≠ .str s) ∧ ∃ value, data.find? name = some value := by
  constructor
  · rintro ⟨h, he⟩
    cases hfind : data.find? name with
    | none =>
      rw [Eval.identifier, hfind] at h
      cases h
      cases he
    | some value =>
      rw [Eval.once_identifier hfind] at h
      rcases bind_eq_error.mp h with hschema | ⟨descriptor, -, hchecked⟩
      · obtain ⟨rfl, hnull, htext⟩ := Eval.descriptor?_eq_error.mp hschema
        exact ⟨rfl, hnull, htext, value, rfl⟩
      -- What is checked fails by its descriptor or by itself, which is foreseen.
      · rcases bind_eq_error.mp hchecked with hcompile | ⟨verdict, -, hverdict⟩
        · obtain ⟨error, -, rfl⟩ := mapError_eq_error.mp hcompile
          cases he
        · split at hverdict
          · cases hverdict
          · cases hverdict
            cases he
  · rintro ⟨rfl, hnull, htext, value, hvalue⟩
    rw [Eval.once_identifier hvalue]
    exact ⟨bind_eq_error.mpr (.inl (Eval.descriptor?_eq_error.mpr ⟨rfl, hnull, htext⟩)), rfl⟩

/-- Parentheses come to what is inside. -/
theorem once_parentheses (schema : Value) (fields : Fields) :
    (Eval.node arithmeticRules data (.composite (txt "parentheses") schema fields)).once =
      match fields.find? (txt "inner") with
      | some v => (Eval.value arithmeticRules data v).once
      | none => .error (.invalidNode .parenthesesWithoutInner) := by
  unfold Eval.node Eval.composite
  rw [if_pos (beq_self_eq_true _), Eval.find?_evaluations]
  cases fields.find? (txt "inner") <;> rfl

omit [Checker] in
/-- An operation by itself fails unforeseen where an operand is not there, and where a list is repeated beyond all
counting or a template is not filled. -/
theorem operate_unforeseen {op : Infix} (hop : op ∈ operators) {a b : Option Value} {e : EvalError}
    (h : operate op a b = .error e) (he : e.isForeseen = false) :
    ((a = none ∨ b = none) ∧ e = .operation .missingName) ∨
      ∃ v w, a = some v ∧ b = some w ∧
        ((op.name = "mul" ∧ Value.mul v w = .error .outOfMemory ∧ e = .operation .outOfMemory) ∨
          op.name = "mod" ∧ ∃ s reason, v = .str s ∧ Template.fill s w = .error reason ∧
            reason.isRefusal = false ∧ e = .operation reason) := by
  cases a with
  | none =>
    cases h
    exact .inl ⟨.inl rfl, rfl⟩
  | some v =>
    cases b with
    | none =>
      cases h
      exact .inl ⟨.inr rfl, rfl⟩
    | some w =>
      obtain ⟨reason, hreason, rfl⟩ := mapError_eq_error.mp h
      refine .inr ⟨v, w, rfl, rfl, ?_⟩
      rcases unforeseen_of_operation hop hreason he with ⟨hname, hmul, rfl⟩ | ⟨hname, s, rfl, hfill⟩
      · exact .inl ⟨hname, hmul, rfl⟩
      · exact .inr ⟨hname, s, reason, rfl, hfill, he, rfl⟩

/-- No other composites have rules. -/
theorem once_unknownKind {kind : Text} (hparentheses : kind ≠ txt "parentheses")
    (hoperators : ∀ op ∈ operators, txt op.name ≠ kind) (schema : Value) (fields : Fields) :
    (Eval.node arithmeticRules data (.composite kind schema fields)).once = .error (.unknownKind kind) := by
  have hnone : arithmeticRules.find? (fun rule => rule.name == kind) = none := by
    refine List.find?_eq_none.mpr fun rule hrule => ?_
    obtain ⟨op, hop, rfl⟩ := List.mem_map.mp hrule
    exact fun hname => hoperators op hop (beq_iff_eq.mp hname)
  unfold Eval.node Eval.composite
  rw [hnone, if_neg (by simpa using hparentheses)]
  rfl

section

variable {fields : Fields} {e : EvalError} (he : e.isForeseen = false)
  (hfields : ∀ name child, fields.find? name = some (.node child) →
    (Eval.node arithmeticRules data child).once = .error e → Breaks data child e)
include he hfields

/-- Parentheses break with what is inside. -/
theorem breaks_of_parentheses {schema : Value}
    (h : (Eval.node arithmeticRules data (.composite (txt "parentheses") schema fields)).once = .error e) :
    Breaks data (.composite (txt "parentheses") schema fields) e := by
  rw [once_parentheses] at h
  cases hinner : fields.find? (txt "inner") with
  | none =>
    rw [hinner] at h
    cases h
    cases he
  | some v =>
    rw [hinner] at h
    cases v with
    | node child => exact .inner hinner (hfields _ child hinner h)
    -- What is no node is refused as such.
    | _ =>
      cases h
      cases he

/-- An operation breaks with its left operand, with its right one, or by itself. -/
theorem breaks_of_operation {op : Infix} (hop : op ∈ operators) {schema : Value}
    (h : (Eval.node arithmeticRules data (.composite (txt op.name) schema fields)).once = .error e) :
    Breaks data (.composite (txt op.name) schema fields) e := by
  rw [once_operation hop] at h
  rcases bind_eq_error.mp h with hleft | ⟨a, hleft, h⟩
  · obtain ⟨child, hchild, hfails⟩ := (present_eq_error he).mp hleft
    exact .left hop hchild (hfields _ child hchild hfails)
  · rcases bind_eq_error.mp h with hright | ⟨b, hright, h⟩
    · obtain ⟨child, hchild, hfails⟩ := (present_eq_error he).mp hright
      exact .right hop hleft hchild (hfields _ child hchild hfails)
    · rcases operate_unforeseen hop h he with ⟨hmissing, rfl⟩ | ⟨v, w, rfl, rfl, hfails⟩
      · exact .missing hop hleft hright hmissing
      · rcases hfails with ⟨hname, hmul, rfl⟩ | ⟨hname, s, reason, rfl, hfill, hreason, rfl⟩
        · rw [hname]
          exact .repetition hleft hright hmul
        · rw [hname]
          exact .template hleft hright hfill hreason

end

/-- What a tree fails with unforeseen, it breaks with. -/
theorem breaks_of_once {node : Node} {e : EvalError} (h : (Eval.node arithmeticRules data node).once = .error e)
    (he : e.isForeseen = false) : Breaks data node e := by
  induction node using Node.field_induction with
  | literal raw value schema => cases h
  | identifier name schema =>
    obtain ⟨rfl, hnull, htext, value, hvalue⟩ := identifier_unforeseen_iff.mp ⟨h, he⟩
    exact .schema hvalue hnull htext
  | const schema =>
    cases h
    cases he
  | composite kind schema fields ih =>
    have hfields (name : Text) (child : Node) (hchild : Entries.find? name fields = some (.node child)) :
        (Eval.node arithmeticRules data child).once = .error e → Breaks data child e :=
      ih name child (Entries.mem_of_find? hchild)
    by_cases hparentheses : kind = txt "parentheses"
    · subst hparentheses
      exact breaks_of_parentheses he hfields h
    · by_cases hop : ∃ op ∈ operators, txt op.name = kind
      · obtain ⟨op, hop, rfl⟩ := hop
        exact breaks_of_operation he hfields hop h
      · rw [once_unknownKind hparentheses fun op hmem hname => hop ⟨op, hmem, hname⟩] at h
        cases h
        cases he

/-- What a tree breaks with, it fails with, and this is not foreseen. -/
theorem Breaks.once {node : Node} {e : EvalError} (h : Breaks data node e) :
    (Eval.node arithmeticRules data node).once = .error e ∧ e.isForeseen = false := by
  induction h with
  | schema hvalue hnull htext => exact identifier_unforeseen_iff.mpr ⟨rfl, hnull, htext, _, hvalue⟩
  | inner hchild _ ih =>
    rw [once_parentheses, hchild]
    exact ih
  | left hop hchild _ ih =>
    have hleft := (present_eq_error ih.2).mpr ⟨_, hchild, ih.1⟩
    rw [once_operation hop, hleft]
    exact ⟨rfl, ih.2⟩
  | right hop hleft hchild _ ih =>
    have hright := (present_eq_error ih.2).mpr ⟨_, hchild, ih.1⟩
    rw [once_operation hop, hleft, ok_bind, hright]
    exact ⟨rfl, ih.2⟩
  | @missing op _ _ a b hop hleft hright hmissing =>
    rw [once_operation hop, hleft, ok_bind, hright, ok_bind]
    refine ⟨?_, rfl⟩
    rcases hmissing with rfl | rfl
    · cases b <;> rfl
    · cases a <;> rfl
  | repetition hleft hright hmul =>
    have hop : ⟨"mul", "*", 2, some (txt "number"), "number", Value.mul⟩ ∈ operators := by
      simp [operators, sums, products]
    refine ⟨?_, rfl⟩
    rw [once_operation hop, hleft, ok_bind, hright, ok_bind]
    exact mapError_eq_error.mpr ⟨_, hmul, rfl⟩
  | template hleft hright hfill hreason =>
    have hop : ⟨"mod", "%", 2, some (txt "number"), "number", Value.mod⟩ ∈ operators := by
      simp [operators, sums, products]
    refine ⟨?_, hreason⟩
    rw [once_operation hop, hleft, ok_bind, hright, ok_bind]
    exact mapError_eq_error.mpr ⟨_, map_eq_error.mpr hfill, rfl⟩

end

end Arithmetic

end Mixfix
