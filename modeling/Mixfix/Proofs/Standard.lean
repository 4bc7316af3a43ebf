import Mixfix.Proofs.Grammar.Builtin
import Mixfix.Proofs.Parse.Atoms
import Mixfix.Proofs.Parse.Infix

/-!
# Trees of the small expression language

`Tree` is the syntax of expressions, apart from texts and nodes. A tree has a node in each context
(`Tree.node`), and is written as its tokens with a space between them (`Tree.text`). `Tree.WellTyped` says
what makes a tree one that can be read back: the operands of an operator are leaves or in parentheses, and
they have the schemas that the operator requires. The branches of a conditional stand between marks, so
they may be any trees.
-/

set_option autoImplicit false

namespace Mixfix

namespace Standard

/-- Expressions of the small expression language. -/
inductive Tree
  | leaf (leaf : Leaf)
  | grouped (inner : Tree)
  | binary (op : Infix) (left right : Tree)
  | negation (operand : Tree)
  | conditional (condition consequent otherwise : Tree)

namespace Tree

/-- Whether a tree can be an operand: a leaf, or in parentheses. -/
def isOperand : Tree → Bool
  | leaf _ | grouped _ => true
  | _ => false

/-- The tokens of a tree. -/
def tokens : Tree → List Text
  | leaf l => [l.text]
  | grouped inner => txt "(" :: (inner.tokens ++ [txt ")"])
  | binary op left right => left.tokens ++ txt op.mark :: right.tokens
  | negation operand => txt "!" :: operand.tokens
  | conditional condition consequent otherwise =>
    condition.tokens ++ txt "?" :: (consequent.tokens ++ txt ":" :: otherwise.tokens)

/-- The tokens of a tree with a space between them. -/
def text (t : Tree) : Text :=
  Text.join (txt " ") t.tokens

/-- The node of a negation. -/
def negationNode (operand : Node) : Node :=
  .composite (txt "not") (.str (txt "boolean")) [(txt "operand", .node operand)]

/-- The node of a conditional, which has the union of the schemas of its branches. -/
def conditionalNode (condition consequent otherwise : Node) : Node :=
  let fields : Fields :=
    [(txt "condition", .node condition), (txt "then", .node consequent), (txt "otherwise", .node otherwise)]
  .composite (txt "ternary") (.str (unionSchema fields ["then", "otherwise"])) fields

/-- The node of a tree. -/
def node (context : Context) : Tree → Node
  | leaf l => l.node context
  | grouped inner => parenthesesNode (inner.node context)
  | binary op left right => op.node (left.node context) (right.node context)
  | negation operand => negationNode (operand.node context)
  | conditional condition consequent otherwise =>
    conditionalNode (condition.node context) (consequent.node context) (otherwise.node context)

/-- A tree of the operators of the language, whose operands are leaves or in parentheses and have the
schemas that are required. -/
def WellTyped (context : Context) : Tree → Prop
  | leaf _ => True
  | grouped inner => inner.WellTyped context
  | binary op left right =>
    op ∈ standardOperators ∧ left.isOperand = true ∧ right.isOperand = true ∧
      left.WellTyped context ∧ right.WellTyped context ∧
      ∀ required, op.required = some required →
        (left.node context).schema = .str required ∧ (right.node context).schema = .str required
  | negation operand =>
    operand.isOperand = true ∧ operand.WellTyped context ∧
      (operand.node context).schema = .str (txt "boolean")
  | conditional condition consequent otherwise =>
    condition.isOperand = true ∧ condition.WellTyped context ∧
      (condition.node context).schema = .str (txt "boolean") ∧
      consequent.WellTyped context ∧ otherwise.WellTyped context

/-! ## Texts of trees -/

theorem tokens_ne_nil (t : Tree) : t.tokens ≠ [] := by
  induction t with
  | leaf | grouped | negation => exact List.cons_ne_nil _ _
  | binary _ left right ihl _ =>
    exact fun h => ihl (List.append_eq_nil_iff.mp h).1
  | conditional condition _ _ ihc _ _ =>
    exact fun h => ihc (List.append_eq_nil_iff.mp h).1

theorem text_grouped (inner : Tree) :
    (grouped inner).text = txt "(" ++ (txt " " ++ (inner.text ++ (txt " " ++ txt ")"))) := by
  rw [text, tokens, Text.join_cons _ _ (by simp), Text.join_append _ inner.tokens_ne_nil (by simp)]
  rfl

theorem text_binary (op : Infix) (left right : Tree) :
    (binary op left right).text =
      left.text ++ (txt " " ++ (txt op.mark ++ (txt " " ++ right.text))) := by
  rw [text, tokens, Text.join_append _ left.tokens_ne_nil (by simp),
    Text.join_cons _ _ right.tokens_ne_nil]
  rfl

theorem text_negation (operand : Tree) :
    (negation operand).text = txt "!" ++ (txt " " ++ operand.text) :=
  Text.join_cons _ _ operand.tokens_ne_nil

theorem text_conditional (condition consequent otherwise : Tree) :
    (conditional condition consequent otherwise).text =
      condition.text ++ (txt " " ++ (txt "?" ++ (txt " " ++ (consequent.text ++
        (txt " " ++ (txt ":" ++ (txt " " ++ otherwise.text))))))) := by
  rw [text, tokens, Text.join_append _ condition.tokens_ne_nil (by simp),
    Text.join_cons _ _ (by simp), Text.join_append _ consequent.tokens_ne_nil (by simp),
    Text.join_cons _ _ otherwise.tokens_ne_nil]
  rfl

/-! ## Fronts of trees -/

end Tree

/-- What a leaf or a parenthesis begins with. -/
def opensOperand (c : CodePoint) : Bool :=
  c.continuesIdentifier || c == '-' || c == '"' || c == '\'' || c == '('

/-- What a tree begins with. -/
def opensTree (c : CodePoint) : Bool :=
  opensOperand c || c == '!'

/-- No tree begins with a blank. -/
theorem not_blank_of_opensTree {c : CodePoint} (h : opensTree c = true) : c.isBlank = false := by
  by_contra hblank
  rw [Bool.not_eq_false] at hblank
  rw [opensTree, opensOperand, CodePoint.not_continues_of_isBlank hblank] at h
  simp only [Bool.false_or, Bool.or_eq_true, beq_iff_eq] at h
  rcases h with (((rfl | rfl) | rfl) | rfl) | rfl
  all_goals exact absurd hblank (by decide)

theorem begins_leaf (l : Leaf) : l.text.begins opensOperand = true := by
  cases l with
  | number n _ =>
    obtain ⟨negative, whole, fraction, hne, hwhole, -⟩ := n
    cases negative with
    | true => rfl
    | false =>
      cases whole with
      | nil => exact absurd rfl hne
      | cons d whole =>
        have hd : d.isDigit = true := (List.all_eq_true.mp hwhole) d List.mem_cons_self
        show opensOperand d = true
        simp [opensOperand, CodePoint.continuesIdentifier, hd]
  | string mark raw hmark _ =>
    show opensOperand mark = true
    rcases Scan.mem_stringMarks.mp hmark with rfl | rfl
    · rfl
    · rfl
  | keyword k => cases k <;> rfl
  | identifier name hname _ =>
    refine Text.begins_mono (fun c hc => ?_) hname.1
    simp [opensOperand, CodePoint.continuesIdentifier, hc]

namespace Tree

theorem begins_operand {t : Tree} (h : t.isOperand = true) : t.text.begins opensOperand = true := by
  cases t with
  | leaf l => exact begins_leaf l
  | grouped inner =>
    rw [text_grouped]
    rfl
  | binary | negation | conditional => cases h

theorem begins_text (t : Tree) : t.text.begins opensTree = true := by
  have hmono : ∀ c, opensOperand c = true → opensTree c = true := by
    intro c hc
    rw [opensTree, hc, Bool.true_or]
  induction t with
  | leaf l => exact Text.begins_mono hmono (begins_leaf l)
  | grouped inner =>
    rw [text_grouped]
    rfl
  | binary op left right ihl _ =>
    rw [text_binary]
    exact Text.begins_append ihl _
  | negation operand =>
    rw [text_negation]
    rfl
  | conditional condition consequent otherwise ihc _ _ =>
    rw [text_conditional]
    exact Text.begins_append ihc _

/-- A tree stands at the front of its text, and after a space too. -/
theorem trimStart_text (t : Tree) (rest : Text) : (t.text ++ rest).trimStart = t.text ++ rest :=
  Text.trimStart_of_begins (fun _ => not_blank_of_opensTree) (Text.begins_append t.begins_text rest)

theorem trimStart_space_text (t : Tree) (rest : Text) :
    (txt " " ++ (t.text ++ rest)).trimStart = t.text ++ rest := by
  rw [Text.trimStart_append_of_blank (by decide), trimStart_text]

/-- No operand begins with the mark of negation. -/
theorem const_mark_eq_none {t : Tree} (h : t.isOperand = true) {s rest : Text}
    (hs : s.trimStart = t.text ++ rest) : Scan.const (txt "!") s = none := by
  refine Scan.const_eq_none.mpr fun rest' hrest' => ?_
  have hbegins := Text.begins_append (begins_operand h) rest
  have hmark : (txt "!" ++ rest').begins opensOperand = false := rfl
  rw [← hs, hrest', hmark] at hbegins
  cases hbegins

end Tree

end Standard

end Mixfix
