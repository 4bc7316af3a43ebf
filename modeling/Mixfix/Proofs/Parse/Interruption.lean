import Mixfix.Proofs.Parse.Atoms
import Mixfix.Proofs.Parse.Termination
import Mixfix.Proofs.Token.Readable

/-!
# What breaks a parse off

A parse is broken off by a number of too many digits that it reads, or by a parse that it calls
(`plain_eq_error`). As calls come to an end in consuming grammars, there is such a number behind every failure
(`not_readable_of_error`). So a parse of a readable text matches or does not (`exists_found`).

No more can be said of all these grammars: `parse_returns_iff` turns a number that cannot be converted into a
grammar that reads it. `tooManyDigits_of_parenthesis` is an interruption of arithmetic.
-/

set_option autoImplicit false

namespace Mixfix

open Decimal (TooManyDigits)

namespace Parse

open Engine

variable {grammar : Grammar} {context : Context}

/-! ## Readable texts -/

/-- A text whose parse is broken off is not readable. The induction is on calls, and what they read are
ends of the text. -/
theorem not_readable_of_error (hgrammar : grammar.Consuming) {start : Nat} {s : Text} {e : Interruption}
    (h : plain grammar context start s = .error e) : ¬ s.Readable := by
  suffices hcalls : ∀ parse : Nat × Text, plain grammar context parse.1 parse.2 = .error e →
      ¬ parse.2.Readable from hcalls (start, s) h
  intro parse
  induction parse using (calls_wellFounded hgrammar context).induction with
  | h caller ih =>
    intro herror hreadable
    rcases plain_eq_error herror with ⟨-, u, hu, hnumber⟩ | ⟨call, hcall, hbroken⟩
    · obtain ⟨found, hfound⟩ := Scan.exists_number (hreadable.of_suffix hu)
      rw [hfound] at hnumber
      cases hnumber
    · exact ih call hcall hbroken (hreadable.of_suffix hcall.suffix)

/-- **A parse of a readable text returns**: it matches or it does not. -/
theorem exists_found (hgrammar : grammar.Consuming) (context : Context) (start : Nat) {s : Text}
    (h : s.Readable) : ∃ found, plain grammar context start s = .ok found := by
  cases hplain : plain grammar context start s with
  | ok found => exact ⟨found, rfl⟩
  | error e => exact absurd h (not_readable_of_error hgrammar hplain)

/-- The match of a rule on a readable text returns too. -/
theorem exists_attempt (hgrammar : grammar.Consuming) (context : Context) (index : Nat) (rule : Rule)
    {s : Text} (h : s.Readable) : ∃ found, attemptRule grammar context index rule s = .ok found := by
  cases hrun : attemptRule grammar context index rule s with
  | ok found => exact ⟨found, rfl⟩
  | error e =>
    obtain ⟨_, _, _, matched, -, hbefore, hfailure⟩ := attemptRule_eq_error hrun
    have hrest : matched.rest <:+ s := matchElements_stays hbefore
    rcases hfailure with ⟨-, hnumber⟩ | ⟨role, constraint, -, hcall⟩
    · obtain ⟨found, hfound⟩ := Scan.exists_number (h.of_suffix hrest)
      rw [hfound] at hnumber
      cases hnumber
    · exact absurd (h.of_suffix hrest) (not_readable_of_error hgrammar hcall)

/-! ## Interruptions -/

/-- A rule that fails breaks the parse off, if none before it at its level matches. -/
theorem plain_eq_error_of_rule {start : Nat} {level : Level} {s : Text}
    {e : Interruption} (hlevel : grammar[start]? = some level) {before after : List Rule} {rule : Rule}
    (hrules : level.rules = before ++ rule :: after)
    (hnone : ∀ rule ∈ before, attemptRule grammar context start rule s = .ok none)
    (hrule : attemptRule grammar context start rule s = .error e) :
    plain grammar context start s = .error e := by
  have hfirst : firstSome (fun rule => attemptRule grammar context start rule s) level.rules = .error e := by
    rw [hrules, firstSome_append_of_none hnone, firstSome, hrule, error_bind]
  rw [plain_eq_level hlevel, hfirst, error_bind]

theorem plain_eq_error_of_first {start : Nat} {level : Level} {s : Text}
    {e : Interruption} (hlevel : grammar[start]? = some level) {rule : Rule} {after : List Rule}
    (hrules : level.rules = rule :: after) (hrule : attemptRule grammar context start rule s = .error e) :
    plain grammar context start s = .error e := by
  have hsplit : level.rules = [] ++ rule :: after := hrules
  exact plain_eq_error_of_rule hlevel hsplit (List.forall_mem_nil _) hrule

/-- An operand that is broken off breaks its operator off. -/
theorem plain_eq_error_of_operand {start : Nat} {level : Level} {s : Text}
    {e : Interruption} (hlevel : grammar[start]? = some level) {rule : Rule} {after : List Rule}
    (hrules : level.rules = rule :: after) {constraint binding : Option Text} {pattern : List Element}
    (hpattern : rule.pattern = ⟨.subexpression .lhs constraint, binding⟩ :: pattern)
    (h : plain grammar context (start + 1) s = .error e) : plain grammar context start s = .error e := by
  refine plain_eq_error_of_first hlevel hrules ?_
  refine matchRule_eq_error.mpr (matchElements_eq_error.mpr ⟨[], _, pattern, ⟨[], s⟩, hpattern, rfl, ?_⟩)
  exact matchElement_subexpression_eq_error.mpr h

/-- A number that cannot be converted breaks the parse of the atoms off. -/
theorem plain_eq_error_of_number {last : Nat} {s : Text}
    (hlast : grammar[last]? = some atomLevel) (h : Scan.number s = .error .tooManyDigits) :
    plain grammar context last s = .error .tooManyDigits := by
  have hmatch : Terminal.match? context s .number = .error .tooManyDigits :=
    Terminal.match?_eq_error.mpr ⟨rfl, h⟩
  refine plain_eq_error_of_first hlast rfl ?_
  refine matchRule_eq_error.mpr (matchElements_eq_error.mpr ⟨[], _, [], ⟨[], s⟩, rfl, rfl, ?_⟩)
  exact matchElement_terminal_eq_error.mpr ⟨rfl, hmatch⟩

/-- What is in parentheses breaks their parse off. -/
theorem plain_eq_error_of_parentheses {last : Nat} {s t : Text}
    {e : Interruption} (hlast : grammar[last]? = some atomLevel) (hs : s.trimStart = txt "(" ++ t)
    (h : plain grammar context 0 t = .error e) : plain grammar context last s = .error e := by
  obtain ⟨lone, hrules, hpatterns⟩ := atomRules_eq
  refine plain_eq_error_of_rule hlast hrules (fun rule hrule => ?_) ?_
  · obtain ⟨terminal, hterminal, hpattern⟩ := List.mem_map.mp (hpatterns ▸ List.mem_map_of_mem hrule)
    exact (matchRule_lone hpattern.symm).mpr (atomTerminals_refuse_parenthesis hs terminal hterminal)
  · have hopening : matchElements plainHooks (plain grammar context) context last
        [⟨.terminal (.const (txt "(")), none⟩] s = .ok (some ⟨[Terminal.constNode (txt "(")], t⟩) :=
      matchElements_cons.mpr ⟨_, ⟨[], t⟩, matchElement_const_eq_some.mpr ⟨t, hs, rfl⟩,
        matchElements_nil.mpr rfl, rfl⟩
    exact matchRule_eq_error.mpr (matchElements_eq_error.mpr
      ⟨[_], _, _, _, rfl, hopening, matchElement_subexpression_eq_error.mpr h⟩)

/-- A rule that reads a number after a given front of the text. -/
def numberAfter (front : Text) : Rule where
  name := txt "number_after"
  pattern := [⟨.terminal (.const front), none⟩, ⟨.terminal .number, some (txt "number")⟩]
  precedence := 1
  resultType := .fixed (txt "number")
  configure := none
  eval := none

theorem admissible_numberAfter {front : Text} : Admissible [numberAfter front] where
  defined := List.forall_mem_singleton.mpr (Rule.isDefined_of_draft rfl)
  distinct := List.nodup_singleton _
  grounded := List.forall_mem_singleton.mpr rfl

theorem built_numberAfter {front : Text} (h : front ≠ []) : ∀ rule ∈ [numberAfter front], rule.Built := by
  cases front with
  | nil => exact absurd rfl h
  | cons c front =>
    exact List.forall_mem_singleton.mpr
      (List.forall_mem_cons.mpr ⟨rfl, List.forall_mem_cons.mpr ⟨rfl, List.forall_mem_nil _⟩⟩)

/-- A number that cannot be converted breaks some parse off, wherever it stands: that of a rule which
reads the text before it as a constant, or that of the atoms if there are only blanks before it. -/
theorem exists_interruption (front : Text) {rest : Text} {n : Numeral} (hstop : n.StopsAt rest)
    (hreadable : n.isReadable = false) (context : Context) :
    ∃ rules grammar, Admissible rules ∧ (∀ rule ∈ rules, rule.Built) ∧
      (∀ rule ∈ rules, rule.configure = none) ∧ Grammar.build rules = .ok grammar ∧
      grammar.parse context (front ++ (n.text ++ rest)) = .error .tooManyDigits := by
  have hnumber : Scan.number (n.text ++ rest) = .error .tooManyDigits :=
    Scan.number_eq_error.mpr ⟨n, rest, n.trimStart_append rest, hstop, hreadable⟩
  cases hfront : front.trimStart with
  | nil =>
    have hadmissible : Admissible [] :=
      ⟨List.forall_mem_nil _, List.nodup_nil, List.forall_mem_nil _⟩
    have hbuild : Grammar.build [] = .ok [atomLevel] := rfl
    refine ⟨[], [atomLevel], hadmissible, List.forall_mem_nil _, List.forall_mem_nil _, hbuild, ?_⟩
    rw [parse_eq_plain]
    refine plain_eq_error_of_number rfl (Scan.number_eq_error.mpr ⟨n, rest, ?_, hstop, hreadable⟩)
    rw [Text.trimStart_append_of_blank (Text.trimStart_eq_nil_iff.mp hfront), n.trimStart_append]
  | cons c mark =>
    have hadmissible : Admissible [numberAfter (c :: mark)] := admissible_numberAfter
    have hbuild : Grammar.build [numberAfter (c :: mark)] =
        .ok [⟨some 1, [numberAfter (c :: mark)]⟩, atomLevel] := rfl
    refine ⟨[numberAfter (c :: mark)], _, hadmissible, built_numberAfter (List.cons_ne_nil _ _),
      List.forall_mem_singleton.mpr rfl, hbuild, ?_⟩
    rw [parse_eq_plain]
    refine plain_eq_error_of_first rfl rfl ?_
    have hs : Text.trimStart (front ++ (n.text ++ rest)) = c :: mark ++ (n.text ++ rest) :=
      Text.trimStart_append hfront _
    have hmark : matchElements plainHooks (plain [⟨some 1, [numberAfter (c :: mark)]⟩, atomLevel] context)
        context 0 [⟨.terminal (.const (c :: mark)), none⟩] (front ++ (n.text ++ rest)) =
          .ok (some ⟨[Terminal.constNode (c :: mark)], n.text ++ rest⟩) :=
      matchElements_cons.mpr ⟨_, ⟨[], _⟩, matchElement_const_eq_some.mpr ⟨_, hs, rfl⟩,
        matchElements_nil.mpr rfl, rfl⟩
    exact matchRule_eq_error.mpr (matchElements_eq_error.mpr ⟨[_], _, [], _, rfl, hmark,
      matchElement_terminal_eq_error.mpr ⟨rfl, Terminal.match?_eq_error.mpr ⟨rfl, hnumber⟩⟩⟩)

/-- **When parsing returns.** The only terminal that fails is that of a number, where an integer of too many
digits stands after the blanks. The parses of a text return for all admissible rules of checked elements exactly if
no such integer stands anywhere in the text. -/
theorem parse_returns_iff (s : Text) :
    (∀ (context : Context) (t : Terminal) (e : TooManyDigits), t.match? context s = .error e ↔
      t = .number ∧ ∃ (n : Numeral) (rest : Text), s.trimStart = n.text ++ rest ∧ n.StopsAt rest ∧
        n.isReadable = false) ∧
    ((∀ (rules : List Rule) (grammar : Grammar) (context : Context), Admissible rules →
        (∀ rule ∈ rules, rule.Built) → (∀ rule ∈ rules, rule.configure = none) →
        Grammar.build rules = .ok grammar → ∃ found, grammar.parse context s = .ok found) ↔
      s.Readable) := by
  refine ⟨fun context t e => by rw [Terminal.match?_eq_error, Scan.number_eq_error], ?_, ?_⟩
  · intro hreturns n rest hn hstop
    obtain ⟨front, rfl⟩ := hn
    by_contra hreadable
    have hnot : n.isReadable = false := Bool.not_eq_true _ ▸ hreadable
    obtain ⟨rules, grammar, hrules, hbuilt, hconfigure, hbuild, herror⟩ :=
      exists_interruption front hstop hnot []
    obtain ⟨found, hfound⟩ := hreturns rules grammar [] hrules hbuilt hconfigure hbuild
    rw [hfound] at herror
    cases herror
  · intro hreadable rules grammar context hrules hbuilt _ hbuild
    have hgrammar := hrules.grammar_consuming (fun rule hrule => (hbuilt rule hrule).solid) hbuild
    rw [parse_eq_plain]
    exact exists_found hgrammar context 0 hreadable

/-- An open parenthesis before an integer of one digit too many. It is not closed, so there is nothing to
match, but the parse of arithmetic does not come to that. -/
theorem tooManyDigits_of_parenthesis :
    arithmeticGrammar.parse [] (txt "(" ++ List.replicate 4301 (CodePoint.ofChar '1')) =
      .error .tooManyDigits := by
  have hnumber : Scan.number (List.replicate 4301 (CodePoint.ofChar '1')) = .error .tooManyDigits := by
    refine Scan.number_eq_error_of_digits (List.all_eq_true.mpr fun c hc => ?_) ?_
    · rw [List.eq_of_mem_replicate hc]
      decide
    · rw [List.length_replicate]
      decide
  have hlevels : ∀ s, plain arithmeticGrammar [] 2 s = .error .tooManyDigits →
      plain arithmeticGrammar [] 0 s = .error .tooManyDigits := by
    intro s h
    have hmul : plain arithmeticGrammar [] 1 s = .error .tooManyDigits :=
      plain_eq_error_of_operand rfl rfl rfl h
    exact plain_eq_error_of_operand rfl rfl rfl hmul
  rw [parse_eq_plain]
  have hopening := Text.trimStart_cons_of_not_blank (c := '(') (by decide)
  refine hlevels _ (plain_eq_error_of_parentheses rfl (hopening _) ?_)
  exact hlevels _ (plain_eq_error_of_number rfl hnumber)

end Parse

end Mixfix
