import Mixfix.Grammar
import Mixfix.Rule.Callbacks
import Mixfix.Template.Fill

/-!
# Ready-made rules

`arithmeticRules` has the operators `+ - * / %` on numbers. `standardRules` is a small expression
language, here from the loosest to the tightest:

- `c ? a : b`, whose schema is the union of those of `a` and `b`,
- `||`,
- `&&`,
- `==` and `!=` on anything, `<=`, `>=`, `<` and `>` on numbers,
- `+` and `-` on numbers, `++` on strings,
- `*`, `/` and `%` on numbers,
- `!`.

Operators of one precedence nest to the right, so `8 - 4 - 2` is `8 - (4 - 2)`.
-/

set_option autoImplicit false

namespace Mixfix

/-- A bound subexpression. -/
private def operand (role : Role) (constraint : Option Text) (name : String) : Element :=
  ⟨.subexpression role constraint, some (txt name)⟩

/-- An unbound symbol. -/
private def symbol (s : String) : Element :=
  ⟨.terminal (.const (txt s)), none⟩

/-- An operator between two operands. -/
structure Infix where
  name : String
  mark : String
  precedence : Int
  /-- The schema that both operands must have. -/
  required : Option Text
  schema : String
  operation : Value → Value → Except OperationError Value

/-- The rule of an operator. -/
def Infix.rule (op : Infix) : Rule where
  name := txt op.name
  pattern := [
    operand .lhs op.required "left", symbol op.mark, operand .rhs op.required "right"]
  precedence := op.precedence
  resultType := .fixed (txt op.schema)
  configure := none
  eval := some (Evaluation.binary op.operation (txt "left") (txt "right"))

/-- The operators of sums of numbers. -/
def sums (precedence : Int) : List Infix :=
  let number := some (txt "number")
  [⟨"add", "+", precedence, number, "number", Value.add⟩,
    ⟨"sub", "-", precedence, number, "number", Value.sub⟩]

/-- The operators of products of numbers. -/
def products (precedence : Int) : List Infix :=
  let number := some (txt "number")
  [⟨"mul", "*", precedence, number, "number", Value.mul⟩,
    ⟨"div", "/", precedence, number, "number", Value.div⟩,
    ⟨"mod", "%", precedence, number, "number", Value.mod⟩]

/-- The rules of arithmetic. -/
def arithmeticRules : List Rule :=
  (sums 1 ++ products 2).map Infix.rule

/-- The rule of the conditional expression. Both branches are evaluated. -/
def conditionalRule : Rule where
  name := txt "ternary"
  pattern := [
    operand .lhs (some (txt "boolean")) "condition", symbol "?", operand .expr none "then",
    symbol ":", operand .expr none "otherwise"]
  precedence := 0
  resultType := .union ["then", "otherwise"]
  configure := none
  eval := some fun values _ => do
    let condition ← Evaluation.named values "condition"
    if condition.truthy then Evaluation.named values "then" else Evaluation.named values "otherwise"

/-- The rule of logical negation. -/
def negationRule : Rule where
  name := txt "not"
  pattern := [symbol "!", operand .rhs (some (txt "boolean")) "operand"]
  precedence := 6
  resultType := .fixed (txt "boolean")
  configure := none
  eval := some fun values _ => do
    return .bool !(← Evaluation.named values "operand").truthy

/-- The operators of the small expression language. -/
def standardOperators : List Infix :=
  let boolean := some (txt "boolean")
  let number := some (txt "number")
  [⟨"or", "||", 1, boolean, "boolean", fun a b => .ok (if a.truthy then a else b)⟩,
    ⟨"and", "&&", 2, boolean, "boolean", fun a b => .ok (if a.truthy then b else a)⟩,
    ⟨"eq", "==", 3, none, "boolean", fun a b => .ok (.bool (a == b))⟩,
    ⟨"neq", "!=", 3, none, "boolean", fun a b => .ok (.bool (a != b))⟩,
    ⟨"le", "<=", 3, number, "boolean", Value.compareWith .le⟩,
    ⟨"ge", ">=", 3, number, "boolean", Value.compareWith .ge⟩,
    ⟨"lt", "<", 3, number, "boolean", Value.compareWith .lt⟩,
    ⟨"gt", ">", 3, number, "boolean", Value.compareWith .gt⟩,
    ⟨"concat", "++", 4, some (txt "string"), "string", Value.add⟩] ++
  sums 4 ++ products 5

/-- The rules of the small expression language. -/
def standardRules : List Rule :=
  conditionalRule :: standardOperators.map Infix.rule ++ [negationRule]

end Mixfix
