import Mixfix.Host.Checker
import Mixfix.Host.Console
import Mixfix.Host.Modules
import Mixfix.Host.Shell
import Mixfix.Host.Yaml.Reader
import Mixfix.Proofs.Cli.Job
import Mixfix.Proofs.Registry.Loading
import Mixfix.Proofs.Session.Task
import Mixfix.Proofs.Standard.Parse
import Mixfix.Proofs.Standard.Result
import Mixfix.Proofs.Validator.Compile

/-!
# How evaluating from the command line ends

`eval` is given options for variables and an expression of the small language. Either something goes wrong
before anything is printed (`Fault`), or there is something to say (`Says`): the value and its type, or why there
is none. In the second case the command breaks down only if the console refuses to print it.

What checks values, what prints, what tells the words of a command line apart and what is installed are libraries
of the host and other packages. The results hold whatever these are, as long as the packages leave the
standard grammar as it is (`KeepsStandard`).
-/

set_option autoImplicit false

namespace Mixfix.Cli

open Job

/-! ## How it ends -/

/-- The parser of the small expression language. -/
def standardParser : Parser :=
  ⟨standardRules, standardGrammar, .standard⟩

/-- The ready-made grammars with those that the installed packages offer, or why these are not loaded. -/
def loaded {C : Type} [Importer C] : Except RegistryError Unit × Registry (Factory C) :=
  Registry.standard.loadEntryPoints grammarGroup Importer.entryPoints

/-- The installed packages leave the standard grammar as it is. -/
def KeepsStandard (C : Type) [Importer C] : Prop :=
  (loaded (C := C)).1 = .ok () →
    Entries.find? (txt "standard") (loaded (C := C)).2 = some (.rules (.ok standardRules))

/-- Options of `eval` that are read, with all grammars loaded. -/
structure Ready (C : Type) [Importer C] (given : List (Setting × Text)) (options : Options) : Prop where
  read : Options.ofGiven given = .ok options
  loads : (loaded (C := C)).1 = .ok ()

section

variable [Checker]

/-- An expression that is parsed as a whole, with descriptors that compile. -/
structure Parsed (C : Type) [Importer C] (given : List (Setting × Text)) (expression : Text) (options : Options)
    (r : Match Node) : Prop extends Ready C given options where
  compiles : ∀ descriptor ∈ options.schemas.map Prod.snd, Parser.Compiles descriptor
  parse : standardGrammar.parse options.schemas expression = .ok (some r)
  blank : r.rest.isBlank = true

/-- The first of the descriptors that does not compile, and why. -/
def FirstFailure (descriptors : List Text) (e : CompileError) : Prop :=
  ∃ before descriptor after, descriptors = before ++ descriptor :: after ∧
    (∀ b ∈ before, Parser.Compiles b) ∧ alwaysPasses (some descriptor) = false ∧
    compileDescriptor descriptor = .error e

/-- What goes wrong before anything is printed. -/
inductive Fault (C : Type) [Importer C] (given : List (Setting × Text)) (expression : Text) : Breakdown → Prop
  /-- An integer among the values is too long to be converted. -/
  | value : Options.ofGiven given = .error .tooManyDigits → Fault C given expression .tooManyDigits
  /-- An installed package offers what cannot be shown. -/
  | package {options : Options} {e : RegistryError} : Options.ofGiven given = .ok options →
      (loaded (C := C)).1 = .error e → Fault C given expression (.registry e)
  /-- The first descriptor that does not compile fails without a wording. -/
  | descriptor {options : Options} {e : CompileError} : Ready C given options →
      FirstFailure (options.schemas.map Prod.snd) e → e.message? = none →
      Fault C given expression (.compile e)
  /-- An integer that is read in the expression is too long to be converted. -/
  | literal {options : Options} : Ready C given options →
      (∀ descriptor ∈ options.schemas.map Prod.snd, Parser.Compiles descriptor) →
      standardGrammar.parse options.schemas expression = .error .tooManyDigits →
      Fault C given expression (.interrupted .tooManyDigits)
  /-- An operation fails, and not in its arithmetic. -/
  | operation {options : Options} {r : Match Node} {e : OperationError} : Parsed C given expression options r →
      evaluateOnce standardRules options.values (.node r.value) = .error (.operation e) →
      e.arithmeticMessage? = none → Fault C given expression (.evaluation (.operation e))
  /-- An integer in the value is too long to be written. -/
  | result {options : Options} {r : Match Node} {v : Value} : Parsed C given expression options r →
      evaluateOnce standardRules options.values (.node r.value) = .ok v →
      showValue v = .error .tooManyDigits → Fault C given expression (.result .tooManyDigits)

/-- The heading under which a failure of an evaluation is reported. -/
def heading : EvalError → Text
  | .operation _ => txt "Arithmetic error"
  | _ => txt "Evaluation error"

variable [Console]

/-- What there is to print otherwise, and what the command then stops for. -/
inductive Says (C : Type) [Importer C] (given : List (Setting × Text)) (expression : Text) :
    List (Channel × Printed) → Option Stop → Prop
  /-- A bad option. -/
  | usage {e : UsageError} : Options.ofGiven given = .error (.usage e) →
      Says C given expression [] (some (.usage e))
  /-- The first descriptor that does not compile is malformed. -/
  | descriptor {options : Options} {e : CompileError} {message : Text} : Ready C given options →
      FirstFailure (options.schemas.map Prod.snd) e → e.message? = some message →
      Says C given expression [failureNote (txt "Schema error") message] (some .reported)
  /-- The expression does not match, or something is left over behind the match. -/
  | refused {options : Options} {diagnostic : Diagnostic} : Ready C given options →
      (∀ descriptor ∈ options.schemas.map Prod.snd, Parser.Compiles descriptor) →
      standardParser.parseExpression options.schemas expression = .error (.rejected diagnostic) →
      Says C given expression [refusalNote diagnostic] (some .reported)
  /-- A variable that is not defined or does not fit its schema, or a failure of arithmetic. -/
  | failed {options : Options} {r : Match Node} {e : EvalError} {message : Text} : Parsed C given expression options r →
      evaluateOnce standardRules options.values (.node r.value) = .error e → e.message? = some message →
      Says C given expression [failureNote (heading e) message] (some .reported)
  /-- The value is shown, and then the type of the expression. -/
  | value {options : Options} {r : Match Node} {v : Value} {written schema : Text} :
      Parsed C given expression options r →
      evaluateOnce standardRules options.values (.node r.value) = .ok v → showValue v = .ok written →
      r.value.schema = .str schema →
      Says C given expression
        [(.output, .text (Console.escape written)),
          (.output, .text (txt "[dim]type: " ++ Console.escape schema ++ txt "[/dim]"))] none

/-- What breaks the evaluation of an expression down. -/
inductive Breaks (C : Type) [Importer C] (given : List (Setting × Text)) (expression : Text) : Breakdown → Prop
  | fault {failure : Breakdown} : Fault C given expression failure → Breaks C given expression failure
  /-- The console refuses something of what there is to print. -/
  | console {prints : List (Channel × Printed)} {stop : Option Stop} {e : PrintError} :
      Says C given expression prints stop → prints.mapM seen = .error e →
      Breaks C given expression (.console e)

/-- All there is to print is printed, and the command stops as it is meant to. -/
def Ends (C : Type) [Importer C] (given : List (Setting × Text)) (expression : Text) (report : Report) : Prop :=
  ∃ prints shown stop, Says C given expression prints stop ∧ prints.mapM seen = .ok shown ∧
    report = ⟨⟨shown, []⟩, stop⟩

/-- There is something to say, or something goes wrong before. -/
def Settles (C : Type) [Importer C] (given : List (Setting × Text)) (expression : Text) : Prop :=
  (∃ prints stop, Says C given expression prints stop) ∨ ∃ failure, Fault C given expression failure

end

variable {given : List (Setting × Text)} {expression : Text} {options : Options}

/-! ## The stages -/

section

variable {C : Type} [Importer C]

/-- Packages that ask for no change while they are loaded keep the standard grammar. -/
theorem keepsStandard_of_quiet (h : ∀ entry ∈ Importer.entryPoints (C := C), entry.load.changes = []) :
    KeepsStandard C := fun hloads =>
  Registry.get_eq_ok.mp (Registry.get_of_load h (Prod.ext hloads rfl) (Registry.get_eq_ok.mpr rfl))

theorem loadRegistry_of_error {e : RegistryError} (h : (loaded (C := C)).1 = .error e) :
    loadRegistry (C := C) = breakDown (.registry e) := by
  unfold loadRegistry
  rcases hload : loaded (C := C) with ⟨_, registry⟩
  rw [hload] at h
  cases h
  rw [show Registry.standard.loadEntryPoints grammarGroup Importer.entryPoints = _ from hload]

variable [Console]

theorem loadParser_of_error {e : RegistryError} (h : (loaded (C := C)).1 = .error e) (reference : Text) :
    loadParser (C := C) reference = breakDown (.registry e) := by
  unfold loadParser loadGrammar
  rw [loadRegistry_of_error h]
  rfl

/-- The standard grammar is had from what is loaded. -/
theorem loadParser_standard (hstandard : KeepsStandard C) (h : (loaded (C := C)).1 = .ok ()) :
    loadParser (C := C) (txt "standard") = pure standardParser := by
  have hfind := hstandard h
  have hload : loadRegistry (C := C) = pure (loaded (C := C)).2 := by
    unfold loadRegistry
    rcases hload : loaded (C := C) with ⟨_, registry⟩
    rw [hload] at h
    cases h
    rw [show Registry.standard.loadEntryPoints grammarGroup Importer.entryPoints = _ from hload]
  have hresolve : (Registry.resolve (loaded (C := C)).2 (txt "standard")).1 = .ok standardRules := by
    have hhas : Entries.has (txt "standard") (loaded (C := C)).2 = true := by
      rw [Entries.has, hfind]
      rfl
    unfold Registry.resolve Registry.build
    rw [if_pos hhas, Registry.get_eq_ok.mpr hfind]
    rfl
  have hrules : loadGrammar (C := C) (txt "standard") = pure standardRules := by
    unfold loadGrammar
    rw [hload, pure_bind, hresolve]
  have hparser : Parser.make standardRules .standard = .ok standardParser :=
    Parser.make_eq_ok.mpr ⟨standardGrammar, build_standardRules, rfl⟩
  unfold loadParser
  rw [hrules, pure_bind, hparser]
  rfl

end

/-- A failure of an evaluation that has a wording is reported. -/
theorem evaluationFailure_eq [Console] {e : EvalError} (h : Standard.Fails e) {message : Text}
    (hmessage : e.message? = some message) :
    (evaluationFailure e : Job Unit) = telling [failureNote (heading e) message] (some .reported) := by
  rw [← reportFailure_escape]
  unfold evaluationFailure
  rw [hmessage]
  cases h <;> rfl

/-- A value that is a result can be written, unless an integer in it is too long. -/
theorem showValue_eq_error {v : Value} (hv : v.IsResult) {e : Json.WriteError} (h : showValue v = .error e) :
    e = .tooManyDigits := by
  rcases hv with rfl | hv
  · cases h
  · have hwrite : showValue v = Json.write ⟨none, false⟩ v := by
      cases hv <;> rfl
    exact Json.writeAt_eq_error hv (hwrite ▸ h)

section

variable {C : Type} [Checker] [Console] [Importer C]

/-- What does not compile is a failure to compile. -/
theorem evalExpression_of_error (hstandard : KeepsStandard C) (hloads : (loaded (C := C)).1 = .ok ())
    (hoptions : options.OfVariables) {e : ExpressionError}
    (h : (standardParser.compile [] options.schemas expression).1 = .error e) :
    evalExpression expression options = expressionFailure e := by
  unfold evalExpression
  rw [hoptions.grammar, loadParser_standard hstandard hloads, pure_bind]
  split
  · rename_i e' cache heq
    rw [heq] at h
    cases h
    rfl
  · rename_i compiled cache heq
    rw [heq] at h
    cases h

/-- What compiles is evaluated as it is with no descriptor compiled before. -/
theorem evalExpression_of_ok (hstandard : KeepsStandard C) (hloads : (loaded (C := C)).1 = .ok ())
    (hoptions : options.OfVariables) {compiled : Expression}
    (h : (standardParser.compile [] options.schemas expression).1 = .ok compiled) :
    evalExpression expression options =
      match evaluateOnce standardRules options.values (.node compiled.ast) with
      | .error e => evaluationFailure e
      | .ok value => (do
        let shown ← orStop (fun e => .breakdown (.result e)) (showValue value)
        put .output (.text (Console.escape shown))
        match compiled.ast.schema with
        | .str schema => put .output (.text (txt "[dim]type: " ++ Console.escape schema ++ txt "[/dim]"))
        | _ => breakDown .schemaType) := by
  have hcache := Parser.faithful_compile standardParser ShapeCache.faithful_nil options.schemas expression
  unfold evalExpression
  rw [hoptions.grammar, loadParser_standard hstandard hloads, pure_bind]
  split
  · rename_i e cache heq
    rw [heq] at h
    cases h
  · rename_i compiled' cache heq
    rw [heq] at h hcache
    cases h
    have hsame : (standardParser.evaluate options.values (.node compiled.ast) cache).1 =
        evaluateOnce standardRules options.values (.node compiled.ast) :=
      (steady_evaluate standardRules options.values (.node compiled.ast)).same cache hcache
    generalize (standardParser.evaluate options.values (.node compiled.ast) cache).1 = result at hsame ⊢
    subst hsame
    rfl

/-- Nothing that is said stands for a breakdown. -/
theorem Says.not_breakdown {prints : List (Channel × Printed)} {stop : Option Stop}
    (h : Says C given expression prints stop) (failure : Breakdown) : stop ≠ some (.breakdown failure) := by
  cases h with
  | _ => nofun

/-! ## What the command does -/

section

variable [Yaml.Codec]

/-- `eval` reads its options and evaluates its argument. -/
theorem perform_eval (given : List (Setting × Text)) (expression : Text) :
    Call.perform ⟨.eval, given, .ok expression⟩ =
      readOptions given >>= fun options => evalExpression expression options := rfl

theorem perform_of_read (h : Options.ofGiven given = .ok options) :
    Call.perform ⟨.eval, given, .ok expression⟩ = evalExpression expression options := by
  rw [perform_eval]
  unfold readOptions
  rw [h]
  rfl

section

variable (hstandard : KeepsStandard C) (hgiven : ∀ entry ∈ given, entry.1.forVariables = true)
include hstandard hgiven

/-- What does not compile ends the command. -/
theorem Ready.perform_of_error (h : Ready C given options) {e : ExpressionError}
    (he : (standardParser.compile [] options.schemas expression).1 = .error e) :
    Call.perform ⟨.eval, given, .ok expression⟩ = expressionFailure e := by
  rw [perform_of_read h.read]
  exact evalExpression_of_error hstandard h.loads (Options.ofVariables_of_given hgiven h.read) he

/-- The first descriptor that does not compile ends the command. -/
theorem Ready.perform_of_firstFailure (h : Ready C given options) {e : CompileError}
    (hfirst : FirstFailure (options.schemas.map Prod.snd) e) :
    Call.perform ⟨.eval, given, .ok expression⟩ = expressionFailure (.descriptor e) := by
  obtain ⟨before, descriptor, after, hsplit, hbefore, hpasses, herror⟩ := hfirst
  exact h.perform_of_error hstandard hgiven
    (Parser.compile_of_descriptor ShapeCache.faithful_nil hsplit hbefore hpasses herror)

end

namespace Parsed

variable {r : Match Node}

omit [Console] [Yaml.Codec] in
/-- An expression that is parsed as a whole compiles. -/
theorem compile (h : Parsed C given expression options r) :
    (standardParser.compile [] options.schemas expression).1 = .ok ⟨r.value, options.schemas⟩ := by
  rw [Parser.compile_of_compiles ShapeCache.faithful_nil h.compiles]
  obtain ⟨outcome, -, hexpression⟩ :=
    Parser.parseExpression_of_found standardParser Standard.grammar_consuming h.parse
  simpa only [h.blank, Bool.true_or, if_true] using hexpression

omit [Console] [Yaml.Codec] in
theorem typed (h : Parsed C given expression options r) : Standard.Typed options.schemas r.value := by
  have hplain : Parse.plain standardGrammar options.schemas 0 expression = .ok (some r) := by
    rw [← Parse.parse_eq_plain, h.parse]
  exact Standard.typed_of_plain hplain (.root r.value)

section

variable (hstandard : KeepsStandard C) (hgiven : ∀ entry ∈ given, entry.1.forVariables = true)
include hstandard hgiven

/-- A failure of the evaluation ends the command. -/
theorem perform_of_error (h : Parsed C given expression options r) {e : EvalError}
    (he : evaluateOnce standardRules options.values (.node r.value) = .error e) :
    Call.perform ⟨.eval, given, .ok expression⟩ = evaluationFailure e := by
  rw [perform_of_read h.read,
    evalExpression_of_ok hstandard h.loads (Options.ofVariables_of_given hgiven h.read) h.compile]
  dsimp only
  rw [he]

/-- A value is written and shown with the type of the expression, if it can be written. -/
theorem perform_of_value (h : Parsed C given expression options r) {v : Value}
    (hv : evaluateOnce standardRules options.values (.node r.value) = .ok v) :
    Call.perform ⟨.eval, given, .ok expression⟩ = (do
      let shown ← orStop (fun e => .breakdown (.result e)) (showValue v)
      put .output (.text (Console.escape shown))
      match r.value.schema with
      | .str schema => put .output (.text (txt "[dim]type: " ++ Console.escape schema ++ txt "[/dim]"))
      | _ => breakDown .schemaType) := by
  rw [perform_of_read h.read,
    evalExpression_of_ok hstandard h.loads (Options.ofVariables_of_given hgiven h.read) h.compile]
  dsimp only
  rw [hv]

end

end Parsed

section

variable (hstandard : KeepsStandard C) (hgiven : ∀ entry ∈ given, entry.1.forVariables = true)
include hstandard hgiven

/-- **A fault breaks the command down.** -/
theorem Fault.perform {failure : Breakdown} (h : Fault C given expression failure) :
    Call.perform ⟨.eval, given, .ok expression⟩ = breakDown failure := by
  cases h with
  | value hread =>
    rw [perform_eval]
    unfold readOptions
    rw [hread]
    rfl
  | package hread hloads =>
    rw [perform_of_read hread]
    unfold evalExpression
    rw [loadParser_of_error hloads]
    rfl
  | descriptor hready hfirst hmessage =>
    rw [hready.perform_of_firstFailure hstandard hgiven hfirst]
    unfold expressionFailure
    dsimp only
    rw [hmessage]
  | @literal options hready hcompiles hparse =>
    have hcompile : (standardParser.compile [] options.schemas expression).1 =
        .error (.broken .tooManyDigits) := by
      rw [Parser.compile_of_compiles ShapeCache.faithful_nil hcompiles]
      exact Parser.parseExpression_of_broken standardParser Standard.grammar_consuming hparse
    exact hready.perform_of_error hstandard hgiven hcompile
  | @operation options r e hparsed herror hmessage =>
    have hnone : (EvalError.operation e).message? = none := hmessage
    rw [hparsed.perform_of_error hstandard hgiven herror]
    unfold evaluationFailure
    rw [hnone]
  | result hparsed hv hwritten =>
    rw [hparsed.perform_of_value hstandard hgiven hv, hwritten]
    rfl

/-- **What there is to say is printed**, and then the command stops. -/
theorem Says.perform {prints : List (Channel × Printed)} {stop : Option Stop}
    (h : Says C given expression prints stop) :
    Call.perform ⟨.eval, given, .ok expression⟩ = telling prints stop := by
  cases h with
  | usage hread =>
    rw [perform_eval]
    unfold readOptions
    rw [hread]
    rfl
  | descriptor hready hfirst hmessage =>
    rw [hready.perform_of_firstFailure hstandard hgiven hfirst, ← reportFailure_escape]
    unfold expressionFailure
    dsimp only
    rw [hmessage]
  | @refused options diagnostic hready hcompiles hrejected =>
    have hcompile : (standardParser.compile [] options.schemas expression).1 = .error (.rejected diagnostic) := by
      rw [Parser.compile_of_compiles ShapeCache.faithful_nil hcompiles, hrejected]
    rw [hready.perform_of_error hstandard hgiven hcompile]
    exact refuse_eq diagnostic
  | failed hparsed herror hmessage =>
    rw [hparsed.perform_of_error hstandard hgiven herror]
    exact evaluationFailure_eq (hparsed.typed.fails hparsed.compiles herror) hmessage
  | value hparsed hv hwritten hschema =>
    rw [hparsed.perform_of_value hstandard hgiven hv, hwritten, hschema, telling_cons, telling_last]
    rfl

end

end

/-! ## Nothing else happens -/

/-- The first descriptor that does not compile has a wording or has none. -/
theorem Ready.settles_of_firstFailure (h : Ready C given options) {e : CompileError}
    (hfirst : FirstFailure (options.schemas.map Prod.snd) e) : Settles C given expression := by
  cases hmessage : e.message? with
  | none => exact .inr ⟨_, .descriptor h hfirst hmessage⟩
  | some message => exact .inl ⟨_, _, .descriptor h hfirst hmessage⟩

/-- An expression that is parsed as a whole has a value, or fails to have one. -/
theorem Parsed.settles (hgiven : ∀ entry ∈ given, entry.1.forVariables = true) {r : Match Node}
    (h : Parsed C given expression options r) : Settles C given expression := by
  cases hvalue : evaluateOnce standardRules options.values (.node r.value) with
  | error e =>
    cases hmessage : e.message? with
    | some message => exact .inl ⟨_, _, .failed h hvalue hmessage⟩
    | none =>
      -- Only an operation fails without a wording.
      cases h.typed.fails h.compiles hvalue with
      | operation operation => exact .inr ⟨_, .operation h hvalue hmessage⟩
      | undefinedVariable | failedValidation => cases hmessage
  | ok v =>
    have hresult : v.IsResult := h.typed.isResult (Options.ofVariables_of_given hgiven h.read).values hvalue
    cases hwritten : showValue v with
    | error e =>
      rw [showValue_eq_error hresult hwritten] at hwritten
      exact .inr ⟨_, .result h hvalue hwritten⟩
    | ok written =>
      obtain ⟨schema, hschema⟩ := h.typed.exists_schema
      exact .inl ⟨_, _, .value h hvalue hwritten hschema⟩

/-- An expression of whose parse only too long an integer can break it off. -/
theorem Ready.settles_of_compiles (hgiven : ∀ entry ∈ given, entry.1.forVariables = true)
    (h : Ready C given options)
    (hcompiles : ∀ descriptor ∈ options.schemas.map Prod.snd, Parser.Compiles descriptor) :
    Settles C given expression := by
  cases hparse : standardGrammar.parse options.schemas expression with
  | error reason =>
    cases reason with
    | tooManyDigits => exact .inr ⟨_, .literal h hcompiles hparse⟩
    | endlessRecursion =>
      rw [Parse.parse_eq_plain] at hparse
      exact absurd hparse (Parse.plain_ne_endless Standard.grammar_consuming 0 expression)
  | ok found =>
    obtain ⟨outcome, -, hexpression⟩ :=
      Parser.parseExpression_of_found standardParser Standard.grammar_consuming hparse
    cases found with
    | none =>
      obtain ⟨diagnostic, -, hrejected⟩ := hexpression
      exact .inl ⟨_, _, .refused h hcompiles hrejected⟩
    | some r =>
      cases hblank : r.rest.isBlank with
      | true => exact Parsed.settles hgiven ⟨h, hcompiles, hparse, hblank⟩
      | false =>
        dsimp only at hexpression
        rw [hblank, if_neg (by decide)] at hexpression
        obtain ⟨diagnostic, offset, hrejected, -⟩ := hexpression
        exact .inl ⟨_, _, .refused h hcompiles hrejected⟩

/-- **There is something to say, or something goes wrong before**, whatever the options and the expression are. -/
theorem settles (hgiven : ∀ entry ∈ given, entry.1.forVariables = true) (expression : Text) :
    Settles C given expression := by
  cases hread : Options.ofGiven given with
  | error e =>
    cases e with
    | usage e => exact .inl ⟨_, _, .usage hread⟩
    | tooManyDigits => exact .inr ⟨_, .value hread⟩
  | ok options =>
    cases hloads : (loaded (C := C)).1 with
    | error e => exact .inr ⟨_, .package hread hloads⟩
    | ok _ =>
      have hready : Ready C given options := ⟨hread, hloads⟩
      cases hrequire : (options.schemas.map Prod.snd).forM Parser.require with
      | error e =>
        obtain ⟨before, descriptor, after, hsplit, hbefore, hfails⟩ := forM_eq_error.mp hrequire
        exact hready.settles_of_firstFailure ⟨before, descriptor, after, hsplit,
          fun b hb => Parser.require_eq_ok.mp (hbefore b hb), Parser.require_eq_error.mp hfails⟩
      | ok _ =>
        exact hready.settles_of_compiles hgiven fun descriptor hdescriptor =>
          Parser.require_eq_ok.mp (forM_eq_ok.mp hrequire descriptor hdescriptor)

end

/-- Nothing is installed but the program. -/
theorem keepsStandard_empty : KeepsStandard Empty :=
  keepsStandard_of_quiet nofun

end Mixfix.Cli
