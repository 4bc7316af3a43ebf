import Mixfix.Cli.Report
import Mixfix.Json.Writer

/-!
# The commands

- `version` shows the version.
- `grammars` lists the registered grammars.
- `levels` shows the levels of a grammar and their rules.
- `parse` writes the tree of an expression, as JSON or YAML, and warns of what is left over.
- `eval` shows the value of an expression and its schema. What is left over is a failure.

A grammar is given by its registered name or as an attribute of a module. The standard grammar is
used where none is given.
-/

set_option autoImplicit false

namespace Mixfix.Cli

open Job

section

variable [Console]

/-- Shows the version. What the host is differs, so it is starred. -/
def showVersion : Job Unit :=
  put .output <| .table none [[], []]
    [[txt "[bold]grammarkit[/bold]", txt "v0.1.0"], [txt "Python", txt "*"],
      [txt "Platform", txt "*"]]

/-- Whether a failure of the host is one of an import or of an attribute. -/
def ofImport : HostError → Bool
  | .noModule _ | .noMember .. => true
  | .other kind _ => kind == txt "ImportError" || kind == txt "AttributeError"
  | .definition _ | .emptyModuleName => false

/-- A failure to have a grammar. A name that is not registered and a reference that leads nowhere
are reported. -/
def grammarFailure {α : Type} (reference : Text) (e : RegistryError) : Job α :=
  match e, e.message? with
  | .notFound .., some message => reportFailure (txt "Error") (Console.escape message)
  | .host error, _ =>
    if ofImport error then
      reportFailure (txt "Error")
        (txt "Cannot load grammar " ++ reference.quoted ++ txt ": " ++ Console.escape error.message)
    else breakDown (.registry e)
  | _, _ => breakDown (.registry e)

section

variable {C : Type} [Importer C]

/-- The ready-made grammars, with those that the installed packages offer. -/
def loadRegistry : Job (Registry (Factory C)) :=
  match Registry.standard.loadEntryPoints grammarGroup Importer.entryPoints with
  | (.ok (), registry) => return registry
  | (.error e, _) => breakDown (.registry e)

/-- The rules of a grammar. -/
def loadGrammar (reference : Text) : Job (List Rule) := do
  let registry ← loadRegistry
  match (registry.resolve reference).1 with
  | .ok rules => return rules
  | .error e => grammarFailure reference e

/-- The parser of a grammar with the standard settings. -/
def loadParser (reference : Text) : Job Parser := do
  let rules ← loadGrammar reference
  orStop (fun e => .breakdown (.definition e)) (Parser.make rules .standard)

/-- A row for each of some grammars, with how many rules it has. -/
def grammarRows (registry : Registry (Factory C)) : List Text → Job (List (List Text))
  | [] => return []
  | name :: names => do
    let (result, built) := registry.build name
    let rules ← orStop (fun e => .breakdown (.registry e)) result
    return [name, Decimal.ofNat rules.length] :: (← grammarRows built names)

/-- Lists the registered grammars and how many rules each has. -/
def showGrammars : Job Unit := do
  let registry ← loadRegistry
  let rows ← grammarRows registry registry.list
  put .output (.table (some (txt "Registered grammars")) [txt "Name", txt "Rules"] rows)

end

/-- A terminal as the list of levels shows it. -/
def describeTerminal : Terminal → Text
  | .number => txt "number"
  | .string _ => txt "string"
  | .identifier => txt "ident"
  | .const value => Json.quote false value
  | .null => txt "null"
  | .boolean => txt "boolean"
  | .undefined => txt "undefined"

/-- The name of a role. -/
def roleName : Role → Text
  | .lhs => txt "lhs"
  | .rhs => txt "rhs"
  | .expr => txt "expr"

/-- What an element matches, as the list of levels shows it. -/
def describeKind : ElementKind → Text
  | .terminal t => describeTerminal t
  | .subexpression role constraint =>
    match constraint.getD [] with
    | [] => roleName role
    | schema => roleName role ++ txt "<" ++ schema ++ txt ">"

/-- An element as the list of levels shows it. -/
def describeElement (element : Element) : Text :=
  match element.binding with
  | some name => name ++ txt ":" ++ describeKind element.kind
  | none => describeKind element.kind

/-- The schema of a rule as the list of levels shows it. -/
def describeResult : ResultType → Text
  | .fixed schema => schema
  | .union names => txt "union(" ++ Text.join (txt ", ") names ++ txt ")"

/-- The rows of a level, one for each rule. -/
def levelRows (level : Level) : List (List Text) :=
  level.rules.map fun rule =>
    [match level.precedence with
      | some precedence => Decimal.ofInt precedence
      | none => txt "atom",
      rule.name,
      Console.escape (Text.join (txt " ") (rule.pattern.map describeElement)),
      Console.escape (describeResult rule.resultType)]

/-- Shows the levels of a grammar. -/
def showLevels {C : Type} [Importer C] (reference : Text) : Job Unit := do
  let rules ← loadGrammar reference
  let grammar ← orStop (fun e => .breakdown (.definition e)) (Grammar.build rules)
  put .output <| .table (some (txt "Grammar " ++ reference.quoted))
    [txt "Precedence", txt "Rule", txt "Pattern", txt "Result"] (grammar.flatMap levelRows)

/-- Reports that an expression is refused, and stops. -/
def refuse {α : Type} (diagnostic : Diagnostic) : Job α := do
  put .diagnostics <| .panel (txt "[red]" ++ diagnostic.kind.name ++ txt "[/red]")
    (Console.escape diagnostic.format)
  throw .reported

/-- A tree in a format. -/
def writeTree [Yaml.Codec] (format : Format) (tree : Node) : Except Tree.FormatError Text :=
  match format with
  | .json => Tree.toJson (some Tree.standardIndent) (.node tree)
  | .yaml => Tree.toYaml (.node tree)

/-- Shows a written tree, or writes it to a file that is given by a path. -/
def deliver (options : Options) (s : Text) : Job Unit := do
  let path := options.output.getD []
  if path.isEmpty then put .output (.code options.format s)
  else
    writeFile path s
    put .output (.text (txt "[green]AST written to[/green] " ++ path))

/-- Parses an expression and writes its tree. -/
def parseExpression {C : Type} [Importer C] [Yaml.Codec] (expression : Text) (options : Options) : Job Unit := do
  let parser ← loadParser options.grammar
  let outcome ← orStop (fun e => .breakdown (.interrupted e)) <|
    parser.grammar.parseOutcome options.schemas parser.settings expression
  match outcome.result with
  | .error diagnostic => refuse diagnostic
  | .ok found =>
    let written ← orStop (fun e => .breakdown (.tree e)) (writeTree options.format found.value)
    deliver options written
    let left := found.rest.trim
    if !left.isEmpty then
      put .diagnostics <| .text
        (txt "[yellow]Warning:[/yellow] unparsed input: " ++ (Console.escape left).quoted)

/-- A failure to compile an expression. A descriptor that is malformed and an expression that is
refused are reported. -/
def expressionFailure {α : Type} : ExpressionError → Job α
  | .rejected diagnostic => refuse diagnostic
  | .broken reason => breakDown (.interrupted reason)
  | .descriptor e =>
    match e.message? with
    | some message => reportFailure (txt "Schema error") (Console.escape message)
    | none => breakDown (.compile e)

/-- A failure to evaluate an expression. Those of the tree and of the data are reported, and those of
arithmetic. Operands that do not fit an operation are not. -/
def evaluationFailure {α : Type} (e : EvalError) : Job α :=
  match e, e.message? with
  | .compile error, _ => breakDown (.compile error)
  | .operation _, some message => reportFailure (txt "Arithmetic error") (Console.escape message)
  | _, some message => reportFailure (txt "Evaluation error") (Console.escape message)
  | _, none => breakDown (.evaluation e)

/-- A value as it is shown. -/
def showValue : Value → Except Json.WriteError Text
  | .undefined => .ok (txt "undefined")
  | v => Json.write ⟨none, false⟩ v

/-- Evaluates an expression and shows its value. -/
def evalExpression {C : Type} [Checker] [Importer C] (expression : Text) (options : Options) : Job Unit := do
  let parser ← loadParser options.grammar
  match parser.compile [] options.schemas expression with
  | (.error e, _) => expressionFailure e
  | (.ok compiled, cache) =>
    match (parser.evaluate options.values (.node compiled.ast) cache).1 with
    | .error e => evaluationFailure e
    | .ok value =>
      let shown ← orStop (fun e => .breakdown (.result e)) (showValue value)
      put .output (.text (Console.escape shown))
      match compiled.ast.schema with
      | .str schema =>
        put .output (.text (txt "[dim]type: " ++ Console.escape schema ++ txt "[/dim]"))
      | _ => breakDown .schemaType

end

/-- The options of a command line. -/
def readOptions (given : List (Setting × Text)) : Job Options :=
  orStop (fun
    | .usage e => .usage e
    | .tooManyDigits => .breakdown .tooManyDigits) (Options.ofGiven given)

section

variable {C : Type} [Checker] [Console] [Importer C] [Yaml.Codec]

/-- Does what a command is called for. -/
def Call.perform (call : Call) : Job Unit := do
  let options ← readOptions call.given
  let argument ← orStop (fun e => .usage (.refused e)) call.argument
  match call.command with
  | .version => showVersion
  | .grammars => showGrammars
  | .levels => showLevels argument
  | .parse => parseExpression argument options
  | .eval => evalExpression argument options

/-- Does what a command line says. -/
def act [Shell] (words : List Text) : Job Unit :=
  match Shell.read words with
  | .ok (some call) => call.perform
  | .ok none => throw .done
  | .error e => throw (.usage (.refused e))

/-- Runs a command line. -/
def run [Shell] (words : List Text) : Report :=
  .ofAction (act words)

end

end Mixfix.Cli
