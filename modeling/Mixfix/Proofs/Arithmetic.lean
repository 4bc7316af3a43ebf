import Mixfix.Proofs.Grammar.Builtin
import Mixfix.Proofs.Parse.Atoms
import Mixfix.Proofs.Parse.Infix

/-!
# The language of arithmetic

`Arithmetic.Derives` is the grammar of arithmetic as a context-free one, over texts and without an engine:

- a sum is a term, or a term, `+` or `-`, and a sum,
- a term is a factor, or a factor, `*`, `/` or `%`, and a term,
- a factor is a number, an identifier that is declared as one, or a sum in parentheses,
- anything else is a string, a keyword, another identifier, or one of these in parentheses.

Blanks may stand before every token. A derivation says nothing of the order in which rules are tried and
nothing of how far tokens reach. It also holds the tree, whose operators of one precedence nest to the
right.
-/

set_option autoImplicit false

namespace Mixfix

namespace Arithmetic

/-- What a derivation is of. -/
inductive Symbol
  | sum
  | term
  | factor
  /-- An expression that is no number. -/
  | other

/-- `Derives context symbol s node rest` says that `s` begins with a phrase of a symbol, whose tree is
`node`, and that `rest` is the text after it. A point after a number is swallowed where no digit follows
it. -/
inductive Derives (context : Context) : Symbol → Text → Node → Text → Prop
  | term {s rest : Text} {node : Node} :
      Derives context .term s node rest → Derives context .sum s node rest
  | additive {s t u rest : Text} {left right : Node} {op : Infix} : op ∈ sums 1 →
      Derives context .term s left t → t.trimStart = txt op.mark ++ u →
      Derives context .sum u right rest → Derives context .sum s (op.node left right) rest
  | factor {s rest : Text} {node : Node} :
      Derives context .factor s node rest → Derives context .term s node rest
  | multiplicative {s t u rest : Text} {left right : Node} {op : Infix} : op ∈ products 2 →
      Derives context .factor s left t → t.trimStart = txt op.mark ++ u →
      Derives context .term u right rest → Derives context .term s (op.node left right) rest
  | number {s rest : Text} (n : Numeral) : s.trimStart = n.text ++ rest →
      Derives context .factor s (.literal n.text n.value (.str (txt "number"))) rest
  | pointed {s rest : Text} (n : Numeral) : s.trimStart = n.text ++ txt "." ++ rest →
      rest.begins CodePoint.isDigit = false →
      Derives context .factor s (.literal n.text n.value (.str (txt "number"))) rest
  | numericName {s rest : Text} (name : Text) : Scan.IsName name → (∀ k : Keyword, name ≠ k.text) →
      Terminal.declaredSchema context name = txt "number" → s.trimStart = name ++ rest →
      Derives context .factor s (.identifier name (.str (txt "number"))) rest
  | grouped {s t u rest : Text} {inner : Node} : s.trimStart = txt "(" ++ t →
      Derives context .sum t inner u → u.trimStart = txt ")" ++ rest →
      Derives context .factor s (parenthesesNode inner) rest
  | string {s rest raw : Text} (mark : CodePoint) : [mark] ∈ stringMarks → Scan.Quoted mark raw →
      s.trimStart = mark :: (raw ++ mark :: rest) →
      Derives context .other s (.literal raw (.str raw.decodeEscapes) (.str (txt "string"))) rest
  | keyword {s rest : Text} (k : Keyword) : s.trimStart = k.text ++ rest →
      Derives context .other s (.literal k.text k.value (.str k.schema)) rest
  | otherName {s rest : Text} (name : Text) : Scan.IsName name → (∀ k : Keyword, name ≠ k.text) →
      Terminal.declaredSchema context name ≠ txt "number" → s.trimStart = name ++ rest →
      Derives context .other s (.identifier name (.str (Terminal.declaredSchema context name))) rest
  | groupedOther {s t u rest : Text} {inner : Node} : s.trimStart = txt "(" ++ t →
      Derives context .other t inner u → u.trimStart = txt ")" ++ rest →
      Derives context .other s (parenthesesNode inner) rest

/-- A sentence is a sum or anything else. -/
def Sentence (context : Context) (s : Text) (node : Node) (rest : Text) : Prop :=
  Derives context .sum s node rest ∨ Derives context .other s node rest

/-! ## What derivations give -/

/-- Whether the trees of a symbol are numbers. -/
def Symbol.isNumeric : Symbol → Bool
  | .other => false
  | _ => true

/-- The operators are on numbers. -/
theorem required_of_mem_numeric {op : Infix} (h : op ∈ sums 1 ++ products 2) :
    op.required = some (txt "number") := by
  simp only [sums, products, List.cons_append, List.nil_append, List.mem_cons, List.not_mem_nil,
    or_false] at h
  rcases h with rfl | rfl | rfl | rfl | rfl
  all_goals rfl

/-- The nodes of the operators are numbers. -/
theorem meets_of_mem_numeric {op : Infix} (h : op ∈ sums 1 ++ products 2) (left right : Node) :
    meets (some (txt "number")) (op.node left right) = true := by
  simp only [sums, products, List.cons_append, List.nil_append, List.mem_cons, List.not_mem_nil,
    or_false] at h
  rcases h with rfl | rfl | rfl | rfl | rfl
  all_goals rfl

variable {context : Context} {symbol : Symbol} {s rest : Text} {node : Node}

/-- The trees of sums, terms and factors are numbers, and no others are. -/
theorem Derives.meets_number (h : Derives context symbol s node rest) :
    meets (some (txt "number")) node = symbol.isNumeric := by
  induction h with
  | term _ ih => exact ih
  | factor _ ih => exact ih
  | additive hop _ _ _ _ _ => exact meets_of_mem_numeric (List.mem_append_left (products 2) hop) _ _
  | multiplicative hop _ _ _ _ _ => exact meets_of_mem_numeric (List.mem_append_right (sums 1) hop) _ _
  | number n _ => rfl
  | pointed n _ _ => rfl
  | numericName name _ _ _ _ => rfl
  | grouped _ _ _ ih => rw [meets_parenthesesNode (by decide) (by decide), ih]; rfl
  | string mark _ _ _ => rfl
  | keyword k _ => cases k <;> rfl
  | otherName name _ _ hschema _ => simpa [meets, Node.schema, Value.isText, Symbol.isNumeric] using hschema
  | groupedOther _ _ _ ih => rw [meets_parenthesesNode (by decide) (by decide), ih]

/-- A derivation leaves an end of its text. -/
theorem Derives.suffix (h : Derives context symbol s node rest) : rest <:+ s := by
  induction h with
  | term _ ih | factor _ ih => exact ih
  | additive _ _ hmark _ ihl ihr | multiplicative _ _ hmark _ ihl ihr =>
    exact (ihr.trans (Text.suffix_of_trimStart hmark)).trans ihl
  | grouped hopen _ hclose ih | groupedOther hopen _ hclose ih =>
    exact ((Text.suffix_of_trimStart hclose).trans ih).trans (Text.suffix_of_trimStart hopen)
  | number n hs => exact Text.suffix_of_trimStart hs
  | pointed n hs _ => exact Text.suffix_of_trimStart hs
  | numericName name _ _ _ hs | otherName name _ _ _ hs => exact Text.suffix_of_trimStart hs
  | keyword k hs => exact Text.suffix_of_trimStart hs
  | @string s rest raw mark _ _ hs =>
    have hread : s.trimStart = (mark :: (raw ++ [mark])) ++ rest := by simpa using hs
    exact Text.suffix_of_trimStart hread

end Arithmetic

end Mixfix
