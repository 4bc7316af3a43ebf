import Mixfix.Proofs.Parse.Memory

/-!
# Parses end

A step of the recursion asks for nothing but the parses that it calls (`attempt_eq_of_calls`), and no chain of
calls goes on forever. The engine counts nested parses with fuel. `terminates` says that `depth` is enough of it
for each way the engine is run, and that more fuel changes nothing.
-/

set_option autoImplicit false

namespace Mixfix

namespace Parse

open Engine

variable {grammar : Grammar} {context : Context}

/-! ## What a step asks for -/

section

variable {parse : Nat → Text → Except Interruption Found} {index : Nat}

/-- An element matches after the others. -/
theorem matchElements_concat {pattern : List Element} {element : Element} {s : Text}
    {matched : Match (List Node)} {next : Match Node}
    (h : matchElements plainHooks parse context index pattern s = .ok (some matched))
    (hnext : matchElement plainHooks parse context index element.kind matched.rest = .ok (some next)) :
    matchElements plainHooks parse context index (pattern ++ [element]) s =
      .ok (some ⟨matched.value ++ [next.value], next.rest⟩) := by
  induction pattern generalizing s matched with
  | nil =>
    rw [matchElements_nil.mp h] at hnext ⊢
    exact matchElements_cons.mpr ⟨next, ⟨[], next.rest⟩, hnext, matchElements_nil.mpr rfl, rfl⟩
  | cons first pattern ih =>
    obtain ⟨found, others, hfound, hothers, rfl⟩ := matchElements_cons.mp h
    exact matchElements_cons.mpr ⟨found, _, hfound, ih hothers hnext, rfl⟩

/-- The elements of a candidate match in the same way, if the parses that are called for them give the
same. The induction is on the elements that are left, after `before` has matched. -/
theorem matchElements_eq_of_calls {start : Nat} {s : Text} {rule : Rule}
    (hmem : (index, rule) ∈ candidates grammar start)
    (h : ∀ call, Calls grammar context call (start, s) →
      parse call.1 call.2 = plain grammar context call.1 call.2)
    {before pattern : List Element} (hpattern : rule.pattern = before ++ pattern)
    {matched : Match (List Node)}
    (hbefore : matchElements plainHooks (plain grammar context) context index before s =
      .ok (some matched)) :
    matchElements plainHooks parse context index pattern matched.rest =
      matchElements plainHooks (plain grammar context) context index pattern matched.rest := by
  induction pattern generalizing before matched with
  | nil => rfl
  | cons element pattern ih =>
    have helement : matchElement plainHooks parse context index element.kind matched.rest =
        matchElement plainHooks (plain grammar context) context index element.kind matched.rest := by
      cases hkind : element.kind with
      | terminal t => rfl
      | subexpression role constraint =>
        simp only [matchElement]
        rw [h _ (.subexpression hmem hpattern hkind hbefore)]
    simp only [matchElements, helement]
    cases hnext : matchElement plainHooks (plain grammar context) context index element.kind matched.rest with
    | error e => rfl
    | ok found =>
      cases found with
      | none => rfl
      | some next =>
        have hsplit : rule.pattern = (before ++ [element]) ++ pattern := by
          rw [hpattern, List.append_assoc]
          rfl
        have hrest := ih hsplit (matchElements_concat hbefore hnext)
        simp only [ok_bind, hrest]

/-- **A step asks for the parses that it calls and for no others**: it gives the result of the plain
parse, whatever stands in the place of the parses that are not called. -/
theorem attempt_eq_of_calls {start : Nat} {s : Text}
    (h : ∀ call, Calls grammar context call (start, s) →
      parse call.1 call.2 = plain grammar context call.1 call.2) :
    firstSome (fun (index, rule) => matchRule plainHooks parse context index rule s)
      (candidates grammar start) = plain grammar context start s := by
  rw [plain_eq]
  refine firstSome_congr fun candidate hmem => ?_
  obtain ⟨index, rule⟩ := candidate
  simp only [matchRule]
  rw [matchElements_eq_of_calls hmem h (List.nil_append _).symm (matchElements_nil.mpr rfl)]

end

/-! ## Fuel -/

/-- A rule that is matched as a rule of any level does not use its fuel up. -/
theorem rule_ne_endless (hgrammar : grammar.Consuming) (r : Rule) (level : Nat) (s : Text) :
    rule grammar context level r s ≠ .error .endlessRecursion := by
  intro hrun
  have hattempt : attemptRule grammar context level r s = .error .endlessRecursion := by
    rw [← rule_map_fst, hrun]
    rfl
  obtain ⟨_, _, _, _, -, -, hfailure⟩ := attemptRule_eq_error hattempt
  rcases hfailure with ⟨he, -⟩ | ⟨_, _, -, hcall⟩
  · cases he
  · exact plain_ne_endless hgrammar _ _ hcall

/-- **Parses end.** For rules of checked elements, none of which begins with a subexpression of its own
level or of all levels, no chain of parses inside parses goes on forever, and a step asks for nothing but
the parses of such a chain. No run of the engine uses its fuel up, with or without progress and from
whatever level, nor does the match of a single rule. With more fuel the runs give the same. -/
theorem terminates {rules : List Rule} (hdefined : ∀ rule ∈ rules, rule.IsDefined)
    (hbuilt : ∀ rule ∈ rules, rule.Built) (hgrounded : ∀ rule ∈ rules, rule.isGrounded = true)
    (hbuild : Grammar.build rules = .ok grammar) (context : Context) :
    WellFounded (Calls grammar context) ∧
    (∀ (parse : Nat → Text → Except Interruption Found) (start : Nat) (s : Text),
      (∀ call, Calls grammar context call (start, s) →
        parse call.1 call.2 = plain grammar context call.1 call.2) →
      firstSome (fun (index, rule) => matchRule plainHooks parse context index rule s)
        (candidates grammar start) = plain grammar context start s) ∧
    ∀ (start : Nat) (s : Text),
      plain grammar context start s ≠ .error .endlessRecursion ∧
      levels grammar context start s ≠ .error .endlessRecursion ∧
      untracked grammar context start s ≠ .error .endlessRecursion ∧
      (∀ r ∈ rules ++ atomRules, rule grammar context start r s ≠ .error .endlessRecursion) ∧
      ∀ fuel, depth grammar s ≤ fuel →
        withProgress s (parseFrom rememberingHooks grammar context fuel start s) =
          levels grammar context start s ∧
        (parseFrom untrackedHooks grammar context fuel start s (Memory.start s)).map Prod.fst =
          untracked grammar context start s := by
  have hrules : Admissible rules := ⟨hdefined, (Grammar.build_eq_ok.mp hbuild).1, hgrounded⟩
  have hgrammar := hrules.grammar_consuming (fun rule hrule => (hbuilt rule hrule).solid) hbuild
  refine ⟨calls_wellFounded hgrammar context, fun parse start s h => attempt_eq_of_calls h, ?_⟩
  intro start s
  have hends : plain grammar context start s ≠ .error .endlessRecursion :=
    plain_ne_endless hgrammar start s
  refine ⟨hends, fun hrun => ?_, fun hrun => ?_, fun r _ => rule_ne_endless hgrammar r start s,
    fun fuel hfuel => ?_⟩
  · rw [← levels_map_fst, hrun] at hends
    exact hends rfl
  · rw [untracked_eq_plain] at hrun
    exact hends hrun
  · have hlevels : withProgress s (parseFrom rememberingHooks grammar context fuel start s) =
        levels grammar context start s := by
      rw [withProgress_parseFrom (Nat.le_succ_of_le hfuel), levels_eq_tracked]
    refine ⟨hlevels, ?_⟩
    rw [parseFrom_untracked, hlevels, levels_map_fst, untracked_eq_plain]

/-- An operator without a mark: two operands in a row. -/
def applicationRule : Rule where
  name := txt "application"
  pattern := [⟨.subexpression .lhs none, some (txt "function")⟩,
    ⟨.subexpression .rhs none, some (txt "argument")⟩]
  precedence := 1
  resultType := .fixed unknownSchema
  configure := none
  eval := none

/-- The grammar of two operands in a row. -/
def applicationGrammar : Grammar :=
  [⟨some 1, [applicationRule]⟩, atomLevel]

/-- No terminal of the rule reads anything itself. -/
theorem terminates_application :
    (∀ rule ∈ [applicationRule], rule.IsDefined) ∧ (∀ rule ∈ [applicationRule], rule.Built) ∧
      (∀ rule ∈ [applicationRule], rule.isGrounded = true) ∧
      Grammar.build [applicationRule] = .ok applicationGrammar ∧
      WellFounded (Calls applicationGrammar []) ∧
      levels applicationGrammar [] 0 (txt "f (g x) y") ≠ .error .endlessRecursion := by
  have hdefined : ∀ rule ∈ [applicationRule], rule.IsDefined :=
    List.forall_mem_singleton.mpr (Rule.isDefined_of_draft rfl)
  have hbuilt : ∀ rule ∈ [applicationRule], rule.Built :=
    List.forall_mem_singleton.mpr
      (List.forall_mem_cons.mpr ⟨rfl, List.forall_mem_cons.mpr ⟨rfl, List.forall_mem_nil _⟩⟩)
  have hgrounded : ∀ rule ∈ [applicationRule], rule.isGrounded = true :=
    List.forall_mem_singleton.mpr rfl
  have hbuild : Grammar.build [applicationRule] = .ok applicationGrammar := rfl
  have h := terminates hdefined hbuilt hgrounded hbuild []
  exact ⟨hdefined, hbuilt, hgrounded, hbuild, h.1, (h.2.2 0 (txt "f (g x) y")).2.1⟩

end Parse

end Mixfix
