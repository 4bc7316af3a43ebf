import Mixfix.Rule.Definition

/-!
# Grammars

A grammar is a list of levels, the loosest first. A level holds the rules of one precedence in the
order in which they were declared, and the last level of every grammar holds the atoms: the literals,
the identifiers and the parentheses. Among the atoms the keywords come before the identifiers, so
that a keyword is never read as an identifier.
-/

set_option autoImplicit false

namespace Mixfix

/-- Rules that are tried in order. The level of the atoms has no precedence. -/
structure Level where
  precedence : Option Int
  rules : List Rule

/-- Levels from the loosest to the tightest. -/
abbrev Grammar := List Level

/-- An atom of one unbound element. -/
private def lone (name : String) (terminal : Terminal) (schema : String) : Rule where
  name := txt name
  pattern := [⟨.terminal terminal, none⟩]
  precedence := 0
  resultType := .fixed (txt schema)
  configure := none
  eval := none

/-- The quotation marks of string literals. -/
def stringMarks : List Text :=
  ["\"", "'"]

/-- The rule of parentheses. Its nodes have the schema of what is inside. -/
def parenthesesRule : Rule where
  name := txt "parentheses"
  pattern := [
    ⟨.terminal (.const (txt "(")), none⟩,
    ⟨.subexpression .expr none, some (txt "inner")⟩,
    ⟨.terminal (.const (txt ")")), none⟩]
  precedence := 0
  resultType := .fixed unknownSchema
  configure := none
  eval := none

/-- The rules of the last level of every grammar. -/
def atomRules : List Rule :=
  [lone "number_literal" .number "number",
    lone "string_literal" (.string stringMarks) "string",
    lone "null_literal" .null "null",
    lone "boolean_literal" .boolean "boolean",
    lone "undefined_literal" .undefined "undefined",
    lone "identifier_atom" .identifier "unknown",
    parenthesesRule]

/-- The last level of every grammar. -/
def atomLevel : Level :=
  ⟨none, atomRules⟩

namespace Grammar

/-- Rules by their precedences, from the loosest to the tightest. -/
abbrev Ranks := List (Int × List Rule)

/-- Puts a rule after the others of its precedence. -/
def insertRule (rule : Rule) : Ranks → Ranks
  | [] => [(rule.precedence, [rule])]
  | (precedence, rules) :: rest =>
    if rule.precedence < precedence then
      (rule.precedence, [rule]) :: (precedence, rules) :: rest
    else if rule.precedence = precedence then (precedence, rules ++ [rule]) :: rest
    else (precedence, rules) :: insertRule rule rest

/-- The rules of a list by their precedences. -/
def rank (rules : List Rule) : Ranks :=
  rules.foldl (fun ranks rule => insertRule rule ranks) []

/-- The grammar of some rules, whose names have to be distinct. -/
def build (rules : List Rule) : Except DefinitionError Grammar :=
  match firstRepeated? (rules.map Rule.name) with
  | some name => .error ⟨.repeatedRule, name⟩
  | none => .ok ((rank rules).map (fun (precedence, rules) => ⟨some precedence, rules⟩) ++ [atomLevel])

end Grammar

end Mixfix
