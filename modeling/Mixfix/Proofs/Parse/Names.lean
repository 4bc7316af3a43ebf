import Mathlib.Data.List.Infix
import Mixfix.Proofs.Outcome

/-!
# Names of a text

A context says which schema a name has, and only the names that stand somewhere in a text are looked up
while it is parsed (`Text.names`). So two contexts that say the same of these names are the same to the
parser, whatever else they declare: they give the same tree, the same progress and the same diagnostic
(`Grammar.parse_depends_on_names`).

The two runs go side by side (`Grammar.Alike`). Every text that is parsed inside of a parse is an end of the
source, and so its names are names of the source. The rules must not be configured: a configuration is handed the whole
context.
-/

set_option autoImplicit false

namespace Mixfix

/-- The names that stand in a text: what is read as an identifier at the front of one of its ends. -/
def Text.names (s : Text) : List Text :=
  s.tails.filterMap fun t => (Scan.identifier t).map Token.raw

theorem Text.mem_names {s t : Text} {token : Token} (ht : t <:+ s) (h : Scan.identifier t = some token) :
    token.raw ∈ s.names :=
  List.mem_filterMap.mpr ⟨t, (List.mem_tails t s).mpr ht, by rw [h]; rfl⟩

/-- Two contexts declare the same of some names. -/
def Context.AgreeOn (names : List Text) (context other : Context) : Prop :=
  ∀ name ∈ names, context.find? name = other.find? name

instance (names : List Text) (context other : Context) : Decidable (context.AgreeOn names other) :=
  inferInstanceAs (Decidable (∀ name ∈ names, context.find? name = other.find? name))

/-- A rule without configuration makes its node without the context. -/
theorem Rule.assemble_congr {rule : Rule} (h : rule.configure = none) (matched : List Node)
    (context other : Context) : rule.assemble matched context = rule.assemble matched other := by
  unfold assemble compositeNode
  rw [h]

variable {source s t : Text} {context other : Context}

/-- Terminals match alike at the front of any end of the source. -/
theorem Terminal.match?_congr (hagree : context.AgreeOn source.names other) (hs : s <:+ source)
    (terminal : Terminal) : terminal.match? context s = terminal.match? other s := by
  cases terminal with
  | identifier =>
    unfold match?
    cases hfound : Scan.identifier s with
    | none => rfl
    | some token =>
      have hschema : declaredSchema context token.raw = declaredSchema other token.raw := by
        rw [declaredSchema, declaredSchema, hagree token.raw (Text.mem_names hs hfound)]
      simp only [Option.map_some, hschema]
  | _ => rfl

/-- **Two contexts that declare the same of the names of a source** are alike to rules without
configuration. -/
theorem Grammar.alike_of_agreeOn {grammar : Grammar} (hagree : context.AgreeOn source.names other)
    (hrules : ∀ level ∈ grammar, ∀ rule ∈ level.rules, rule.configure = none) :
    grammar.Alike source context other where
  terminals terminal _ hs := Terminal.match?_congr hagree hs terminal
  nodes level hlevel rule hrule matched := rule.assemble_congr (hrules level hlevel rule hrule) matched _ _

/-- **Tracking parses in contexts that are alike are the same**, rejected alternatives and all. -/
theorem Parse.trackedFrom_congr {grammar : Grammar} (halike : grammar.Alike s context other) (start : Nat) :
    trackedFrom grammar context start s = trackedFrom grammar other start s := by
  have hback : grammar.Alike s other context :=
    ⟨fun terminal t ht => (halike.terminals terminal t ht).symm,
      fun level hlevel rule hrule matched => (halike.nodes level hlevel rule hrule matched).symm⟩
  let sim := trackingSimulation s
  exact (sim.parseFrom_rel halike (fun _ _ _ _ h => h) _ start List.suffix_rfl : Logged _ _ _).antisymm
    (sim.parseFrom_rel hback (fun _ _ _ _ h => h) _ start List.suffix_rfl)

/-! ## Whole parses -/

/-- **A parse depends on the names of its text only.** For rules without configuration, two contexts that
declare the same of these names give the same match or none, the same progress from every level, and the
same diagnostic. -/
theorem Grammar.parse_depends_on_names {rules : List Rule} {grammar : Grammar}
    (hconfigure : ∀ rule ∈ rules, rule.configure = none) (hbuild : Grammar.build rules = .ok grammar)
    (hagree : context.AgreeOn s.names other) :
    grammar.parse context s = grammar.parse other s ∧
      (∀ start, Parse.levels grammar context start s = Parse.levels grammar other start s) ∧
      ∀ settings, grammar.parseOutcome context settings s = grammar.parseOutcome other settings s := by
  have halike : grammar.Alike s context other := alike_of_agreeOn hagree
    fun level hlevel rule hrule => configure_of_build hbuild hconfigure hlevel hrule
  have htracked : ∀ start, Parse.tracked grammar context start s = Parse.tracked grammar other start s :=
    fun start => congrFun (Parse.trackedFrom_congr halike start) (Progress.start s)
  have hlevels : ∀ start, Parse.levels grammar context start s = Parse.levels grammar other start s := by
    intro start
    rw [Parse.levels_eq_tracked, Parse.levels_eq_tracked, htracked]
  have hparse : grammar.parse context s = grammar.parse other s := by
    rw [Parse.parse_eq_plain, Parse.parse_eq_plain, ← Parse.tracked_map_fst, ← Parse.tracked_map_fst, htracked]
  refine ⟨hparse, hlevels, fun settings => ?_⟩
  rw [Grammar.parseOutcome, Grammar.parseOutcome, hparse, hlevels]

/-- The schema of `a` decides which sum this is. The contexts differ on another name. -/
theorem Grammar.parse_depends_on_names_sum :
    Context.AgreeOn (Text.names (txt "a + 1")) [(txt "b", txt "string"), (txt "a", txt "number")]
        [(txt "a", txt "number")] ∧
      standardGrammar.parse [(txt "b", txt "string"), (txt "a", txt "number")] (txt "a + 1") =
        standardGrammar.parse [(txt "a", txt "number")] (txt "a + 1") := by
  have hagree : Context.AgreeOn (Text.names (txt "a + 1")) [(txt "b", txt "string"), (txt "a", txt "number")]
      [(txt "a", txt "number")] := by decide
  exact ⟨hagree, (parse_depends_on_names (fun _ => configure_of_mem_standardRules) build_standardRules hagree).1⟩

end Mixfix
