import Mixfix.Host.Checker
import Mixfix.Proofs.Descriptor.Primitive
import Mixfix.Proofs.Eval
import Mixfix.Proofs.Outcome
import Mixfix.Proofs.Source
import Mixfix.Session

/-!
# Compiling an expression

An expression is compiled in three steps: its descriptors are, it is parsed, and it is seen whether something
is left over. The first step looks at the cache of the parser, but a faithful cache changes nothing
(`compileAll_fst`), so `compile_fst` tells the whole without it. `compile_spec` says what comes of each step,
with the place of what is left over. Blank text is not parsed, so it does not compile even where an empty constant
matches it (`compile_refuses_of_empty`).
-/

set_option autoImplicit false

namespace Mixfix

namespace Text

/-- Only blank text is nothing without its blanks. -/
theorem isEmpty_trim (s : Text) : s.trim.isEmpty = s.isBlank := by
  cases h : s.trimStart with
  | nil =>
    rw [trimStart_eq_nil_iff.mp h, trim, h]
    rfl
  | cons c rest =>
    have hc := isBlank_of_trimStart_eq_cons h
    have hblank : s.isBlank = false := by
      rw [Bool.eq_false_iff]
      intro hs
      rw [trimStart_eq_nil_iff.mpr hs] at h
      cases h
    have hdrop : (c :: rest).reverse.dropWhile CodePoint.isBlank ≠ [] := by
      intro hnil
      have hall := List.dropWhile_eq_nil_iff.mp hnil c (List.mem_reverse.mpr List.mem_cons_self)
      rw [hc] at hall
      cases hall
    rw [hblank, trim, h, trimEnd, List.isEmpty_eq_false_iff]
    exact fun hnil => hdrop (List.reverse_eq_nil_iff.mp hnil)

end Text

namespace Parser

variable {parser : Parser} {cache : ShapeCache} {context : Context} {s : Text}

/-! ## Descriptors -/

section

variable [Checker]

/-- A descriptor that values can be checked against, or that every value passes. -/
def Compiles (descriptor : Text) : Prop :=
  alwaysPasses (some descriptor) = true ∨ ∃ shape, compileDescriptor descriptor = .ok shape

/-- Compiles a descriptor that does not pass everything. -/
def require (descriptor : Text) : Except CompileError Unit :=
  if alwaysPasses (some descriptor) then .ok ()
  else (compileDescriptor descriptor).map fun _ => ()

theorem require_eq_ok {descriptor : Text} : require descriptor = .ok () ↔ Compiles descriptor := by
  unfold require Compiles
  split
  · rename_i h
    simp [h]
  · rename_i h
    simp [h, map_eq_ok]

theorem require_eq_error {descriptor : Text} {e : CompileError} :
    require descriptor = .error e ↔
      alwaysPasses (some descriptor) = false ∧ compileDescriptor descriptor = .error e := by
  unfold require
  split
  · rename_i h
    simp [h]
  · rename_i h
    cases compileDescriptor descriptor with
    | error e' => simp [h, Except.map]
    | ok shape => simp [h, Except.map]

/-- With a faithful cache the descriptors compile as they do without one, and it stays faithful. -/
theorem compileAll_faithful (h : cache.Faithful) (descriptors : List Text) :
    (compileAll cache descriptors).1 = descriptors.forM require ∧
      ShapeCache.Faithful (compileAll cache descriptors).2 := by
  induction descriptors generalizing cache with
  | nil => exact ⟨rfl, h⟩
  | cons descriptor rest ih =>
    change (compileAll cache (descriptor :: rest)).1 = (require descriptor >>= fun _ => rest.forM require) ∧ _
    unfold compileAll require
    split
    · exact ih h
    · rw [← h.compile_fst descriptor]
      cases hcompile : cache.compile descriptor with
      | error e => exact ⟨rfl, h⟩
      | ok pair => exact ih (h.compile_snd hcompile)

/-! ## The whole -/

/-- What an expression compiles to, told without the cache. -/
theorem compile_fst (h : cache.Faithful) :
    (parser.compile cache context s).1 =
      match (context.map Prod.snd).forM require with
      | .error e => .error (.descriptor e)
      | .ok () => parser.parseExpression context s := by
  rw [← (compileAll_faithful h (context.map Prod.snd)).1]
  unfold compile
  split
  · rename_i heq
    rw [heq]
  · rename_i heq
    rw [heq]

/-- Compiling keeps a cache faithful, also where it fails. -/
theorem faithful_compile (parser : Parser) (h : cache.Faithful) (context : Context) (s : Text) :
    ShapeCache.Faithful (parser.compile cache context s).2 := by
  have hcache := (compileAll_faithful h (context.map Prod.snd)).2
  unfold compile
  split
  · rename_i heq
    rw [heq] at hcache
    exact hcache
  · rename_i heq
    rw [heq] at hcache
    exact hcache

/-- The first descriptor that does not compile is the one that is told of. -/
theorem compile_of_descriptor (h : cache.Faithful) {before after : List Text} {descriptor : Text}
    {e : CompileError} (hcontext : context.map Prod.snd = before ++ descriptor :: after)
    (hbefore : ∀ b ∈ before, Compiles b) (hpasses : alwaysPasses (some descriptor) = false)
    (herror : compileDescriptor descriptor = .error e) :
    (parser.compile cache context s).1 = .error (.descriptor e) := by
  have hfirst : (context.map Prod.snd).forM require = .error e :=
    forM_eq_error.mpr ⟨before, descriptor, after, hcontext, fun b hb => require_eq_ok.mpr (hbefore b hb),
      require_eq_error.mpr ⟨hpasses, herror⟩⟩
  rw [compile_fst h, hfirst]

/-- Where all descriptors compile, the text decides. -/
theorem compile_of_compiles (h : cache.Faithful) (hcontext : ∀ d ∈ context.map Prod.snd, Compiles d) :
    (parser.compile cache context s).1 = parser.parseExpression context s := by
  have hall : (context.map Prod.snd).forM require = .ok () :=
    forM_eq_ok.mpr fun d hd => require_eq_ok.mpr (hcontext d hd)
  rw [compile_fst h, hall]

end

/-! ## What is left over -/

/-- A diagnostic of text that is left over behind a match. It stands where the blanks behind the match are
over, and what was found is all that is left. -/
structure PointsAtRest (s rest : Text) (offset : Nat) (diagnostic : Diagnostic) : Prop where
  kind : diagnostic.kind = .unexpectedToken
  position : diagnostic.position = .ofOffset s offset
  drop : s.drop offset = rest.trimStart
  next : ∃ c, s[offset]? = some c ∧ c.isBlank = false
  message : diagnostic.message = txt "Unexpected token at " ++ diagnostic.position.text ++ txt ": found '" ++
    rest.trim ++ txt "', expected end of input"

theorem leftOver?_eq (settings : Settings) {rest : Text} (h : rest <:+ s) :
    if rest.isBlank || settings.allowTrailing then leftOver? settings s rest = none
    else ∃ diagnostic offset, leftOver? settings s rest = some diagnostic ∧
      PointsAtRest s rest offset diagnostic := by
  unfold leftOver?
  simp only [Text.isEmpty_trim]
  split
  · rfl
  · rename_i hleft
    have hblank : rest.isBlank = false := by
      simp only [Bool.or_eq_true, not_or, Bool.not_eq_true] at hleft
      exact hleft.1
    have hsuffix : rest.trimStart <:+ s := (List.dropWhile_suffix _).trans h
    have hdrop : s.drop (s.length - rest.trimStart.length) = rest.trimStart := Text.drop_trimStart h
    have hoffset : (s.length : Int) - rest.trimStart.length = (s.length - rest.trimStart.length : Nat) := by
      have hle := hsuffix.length_le
      omega
    rw [hoffset]
    refine ⟨_, _, rfl, rfl, rfl, hdrop, ?_, ?_⟩
    · cases hfirst : rest.trimStart with
      | nil =>
        rw [Text.trimStart_eq_nil_iff.mp hfirst] at hblank
        cases hblank
      | cons c left =>
        have hc : s[s.length - rest.trimStart.length]? = some c := by
          rw [← Nat.add_zero (s.length - rest.trimStart.length), ← List.getElem?_drop, hdrop, hfirst]
          rfl
        rw [hfirst] at hc
        exact ⟨c, hc, Text.isBlank_of_trimStart_eq_cons hfirst⟩
    · simp only [Diagnostic.unexpectedToken, Diagnostic.report, Diagnostic.place, List.append_assoc]
      rfl

/-! ## The outcomes -/

/-- A parse that is broken off leaves no outcome either. -/
theorem parseOutcome_of_broken {grammar : Grammar} (hgrammar : grammar.Consuming) (settings : Settings)
    {reason : Interruption} (h : grammar.parse context s = .error reason) :
    grammar.parseOutcome context settings s = .error reason := by
  have hblank : s.isBlank = false := by
    rw [Bool.eq_false_iff]
    intro hs
    rw [Parse.parse_eq_plain, Parse.plain_of_isBlank hgrammar context 0 hs] at h
    cases h
  simp only [Grammar.parseOutcome, hblank, h, Bool.false_eq_true, if_false]
  rfl

/-- A parse that is not broken off has an outcome, which is the same match where there is one. -/
theorem exists_outcome {grammar : Grammar} (hgrammar : grammar.Consuming) (settings : Settings)
    {found : Found} (h : grammar.parse context s = .ok found) :
    ∃ outcome, grammar.parseOutcome context settings s = .ok outcome ∧
      match found with
      | some r => outcome.result = .ok r ∧ r.rest <:+ s
      | none => ∃ diagnostic, outcome.result = .error diagnostic := by
  cases found with
  | some r =>
    have hplain : Parse.plain grammar context 0 s = .ok (some r) := by rw [← Parse.parse_eq_plain, h]
    have hadvances : s.Advances r.rest := Parse.plain_leaves hgrammar hplain r rfl
    exact ⟨_, Grammar.parseOutcome_of_match hadvances.not_isBlank h, rfl, hadvances.suffix⟩
  | none =>
    cases hblank : s.isBlank with
    | true => exact ⟨_, Grammar.parseOutcome_of_isBlank hblank, _, rfl⟩
    | false =>
      obtain ⟨_, -, houtcome⟩ := Grammar.parseOutcome_of_none hblank h
      exact ⟨_, houtcome, _, rfl⟩

/-- An expression whose parse is broken off. -/
theorem parseExpression_of_broken (parser : Parser) (hgrammar : parser.grammar.Consuming) {reason : Interruption}
    (h : parser.grammar.parse context s = .error reason) :
    parser.parseExpression context s = .error (.broken reason) := by
  unfold parseExpression
  rw [parseOutcome_of_broken hgrammar parser.settings h]

/-- **An expression whose parse is not broken off** is its tree where it matches and nothing is left over, or
something may be. What is left over otherwise is pointed at, and where nothing matches the diagnostic is that
of the parse. -/
theorem parseExpression_of_found (parser : Parser) (hgrammar : parser.grammar.Consuming) {found : Found}
    (h : parser.grammar.parse context s = .ok found) :
    ∃ outcome, parser.grammar.parseOutcome context parser.settings s = .ok outcome ∧
      match found with
      | none => ∃ diagnostic, outcome.result = .error diagnostic ∧
          parser.parseExpression context s = .error (.rejected diagnostic)
      | some r =>
        if r.rest.isBlank || parser.settings.allowTrailing then
          parser.parseExpression context s = .ok ⟨r.value, context⟩
        else ∃ diagnostic offset, parser.parseExpression context s = .error (.rejected diagnostic) ∧
          PointsAtRest s r.rest offset diagnostic := by
  obtain ⟨outcome, houtcome, hresult⟩ := exists_outcome hgrammar parser.settings h
  refine ⟨outcome, houtcome, ?_⟩
  unfold parseExpression
  rw [houtcome]
  dsimp only
  cases found with
  | none =>
    obtain ⟨diagnostic, hdiagnostic⟩ := hresult
    exact ⟨diagnostic, hdiagnostic, by rw [hdiagnostic]⟩
  | some r =>
    obtain ⟨hmatch, hsuffix⟩ := hresult
    have hleft := leftOver?_eq parser.settings hsuffix
    simp only [hmatch]
    split at hleft
    · rename_i hallowed
      rw [if_pos hallowed, hleft]
    · rename_i hrefused
      obtain ⟨diagnostic, offset, hsome, hpoints⟩ := hleft
      rw [if_neg hrefused]
      exact ⟨diagnostic, offset, by rw [hsome], hpoints⟩

theorem make_eq_ok {rules : List Rule} {settings : Settings} :
    make rules settings = .ok parser ↔
      ∃ grammar, Grammar.build rules = .ok grammar ∧ parser = ⟨rules, grammar, settings⟩ := by
  unfold make
  rw [bind_eq_ok]
  exact exists_congr fun grammar => and_congr_right fun _ => ⟨fun h => by cases h; rfl, fun h => by rw [h]; rfl⟩

/-- **What compiling comes to**, for rules without an empty constant. The first descriptor that does not compile
is told of, whatever the text is. If there is none, the two parses of the text decide: it compiles to its tree
where it matches and nothing is left over, or something may be. What is left over otherwise is pointed at, and
where nothing matches the diagnostic is that of the parse. -/
theorem compile_spec [Checker] {rules : List Rule} {settings : Settings} (hrules : Admissible rules)
    (hsolid : ∀ rule ∈ rules, rule.Solid) (hparser : make rules settings = .ok parser) (hcache : cache.Faithful)
    (context : Context) :
    (∀ before descriptor after e s, context.map Prod.snd = before ++ descriptor :: after →
      (∀ b ∈ before, Compiles b) → alwaysPasses (some descriptor) = false →
      compileDescriptor descriptor = .error e →
      (parser.compile cache context s).1 = .error (.descriptor e)) ∧
    ((∀ d ∈ context.map Prod.snd, Compiles d) → ∀ s : Text, s.ShortRuns →
      ∃ found outcome, parser.grammar.parse context s = .ok found ∧
        parser.grammar.parseOutcome context settings s = .ok outcome ∧
        match found with
        | none => ∃ diagnostic, outcome.result = .error diagnostic ∧
            (parser.compile cache context s).1 = .error (.rejected diagnostic)
        | some r =>
          if r.rest.isBlank || settings.allowTrailing then
            (parser.compile cache context s).1 = .ok ⟨r.value, context⟩
          else ∃ diagnostic offset, (parser.compile cache context s).1 = .error (.rejected diagnostic) ∧
            PointsAtRest s r.rest offset diagnostic) := by
  obtain ⟨grammar, hbuild, rfl⟩ := make_eq_ok.mp hparser
  constructor
  · intro before descriptor after e s hsplit hbefore hpasses herror
    exact compile_of_descriptor hcache hsplit hbefore hpasses herror
  · intro hcontext s hs
    have hgrammar := hrules.grammar_consuming hsolid hbuild
    obtain ⟨found, hplain⟩ := Parse.exists_found hgrammar context 0 hs.readable
    have hparse : grammar.parse context s = .ok found := by rw [Parse.parse_eq_plain, hplain]
    obtain ⟨outcome, houtcome, hresult⟩ := parseExpression_of_found ⟨rules, grammar, settings⟩ hgrammar hparse
    refine ⟨found, outcome, hparse, houtcome, ?_⟩
    rw [compile_of_compiles hcache hcontext]
    cases found with
    | none => exact hresult
    | some r => exact hresult

/-- A declared number, with a descriptor that does not compile, and with a parenthesis left over. -/
theorem compile_spec_parenthesis :
    Admissible arithmeticRules ∧ (∀ rule ∈ arithmeticRules, rule.Solid) ∧
      make arithmeticRules .standard = .ok ⟨arithmeticRules, arithmeticGrammar, .standard⟩ ∧
      ShapeCache.Faithful [] ∧
      (∃ e, ∀ s, (compile ⟨arithmeticRules, arithmeticGrammar, .standard⟩ []
        [(txt "x", txt "number"), (txt "y", txt "numbers")] s).1 = .error (.descriptor e)) ∧
      ∃ r diagnostic offset,
        arithmeticGrammar.parse [(txt "x", txt "number")] (txt "1 + x )") = .ok (some r) ∧
        (compile ⟨arithmeticRules, arithmeticGrammar, .standard⟩ [] [(txt "x", txt "number")]
          (txt "1 + x )")).1 = .error (.rejected diagnostic) ∧
        PointsAtRest (txt "1 + x )") r.rest offset diagnostic := by
  have hparser : make arithmeticRules .standard = .ok ⟨arithmeticRules, arithmeticGrammar, .standard⟩ :=
    make_eq_ok.mpr ⟨arithmeticGrammar, build_arithmeticRules, rfl⟩
  have hnumber : Compiles (txt "number") :=
    .inr ⟨_, compileDescriptor_eq_ok.mpr ⟨Primitive.read_text .number, rfl⟩⟩
  have hcompiled (context : Context) :=
    compile_spec admissible_arithmeticRules solid_of_mem_arithmeticRules hparser ShapeCache.faithful_nil context
  refine ⟨admissible_arithmeticRules, solid_of_mem_arithmeticRules, hparser, ShapeCache.faithful_nil, ?_, ?_⟩
  · have hnone : (compileDescriptor (txt "numbers")).toOption.isNone = true := by decide +kernel
    cases herror : compileDescriptor (txt "numbers") with
    | ok shape =>
      rw [herror] at hnone
      cases hnone
    | error e =>
      refine ⟨e, fun s => ?_⟩
      exact (hcompiled [(txt "x", txt "number"), (txt "y", txt "numbers")]).1 [txt "number"] (txt "numbers") []
        e s rfl (List.forall_mem_singleton.mpr hnumber) (by decide) herror
  · obtain ⟨found, outcome, hparse, -, hresult⟩ :=
      (hcompiled [(txt "x", txt "number")]).2 (List.forall_mem_singleton.mpr hnumber) (txt "1 + x )")
        (Text.shortRuns_of_length_le (by decide))
    have hleft : (arithmeticGrammar.parse [(txt "x", txt "number")] (txt "1 + x )")).toOption.join.map
        (fun r => r.rest.isBlank) = some false := by
      rw [Parse.parse_eq_plain]
      decide +kernel
    change arithmeticGrammar.parse [(txt "x", txt "number")] (txt "1 + x )") = _ at hparse
    rw [hparse] at hleft
    cases found with
    | none => cases hleft
    | some r =>
      have hblank : r.rest.isBlank = false := Option.some.inj hleft
      dsimp only at hresult
      rw [hblank, if_neg (by decide)] at hresult
      obtain ⟨diagnostic, offset, hcompile, hpoints⟩ := hresult
      exact ⟨r, diagnostic, offset, hparse, hcompile, hpoints⟩

/-- An empty constant matches the empty text and leaves nothing over, but there is nothing to compile. -/
theorem compile_refuses_of_empty :
    Admissible [Grammar.emptyConstantRule] ∧ (∀ rule ∈ [Grammar.emptyConstantRule], rule.configure = none) ∧
      Text.ShortRuns [] ∧
      ∃ parser r diagnostic, make [Grammar.emptyConstantRule] .standard = .ok parser ∧
        parser.grammar.parse [] [] = .ok (some r) ∧ r.rest.isBlank = true ∧
        (parser.compile [] [] []).1 = .error (.rejected diagnostic) := by
  have hparser : make [Grammar.emptyConstantRule] .standard = .ok ⟨[Grammar.emptyConstantRule], _, .standard⟩ :=
    make_eq_ok.mpr ⟨_, Grammar.build_emptyConstantRule, rfl⟩
  refine ⟨Grammar.admissible_emptyConstantRule, List.forall_mem_singleton.mpr rfl,
    Text.shortRuns_of_length_le (Nat.zero_le _), _, _, .emptyInput [] .standard, hparser,
    Grammar.parse_emptyConstantRule, rfl, ?_⟩
  rw [compile_of_compiles ShapeCache.faithful_nil (List.forall_mem_nil _)]
  unfold parseExpression
  rw [Grammar.parseOutcome_of_isBlank rfl]

end Parser

end Mixfix
