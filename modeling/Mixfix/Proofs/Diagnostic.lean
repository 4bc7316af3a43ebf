import Mixfix.Proofs.Outcome
import Mixfix.Proofs.Parse.Reached
import Mixfix.Proofs.Source

/-!
# Where a failed parse points

A parse that matches nothing is reported at one offset. It is the furthest end of the terminals that were
matched, and after the blanks there (`failureOffset_spec`). The line and the column, the message and the
snippet are made from it separately, and `Diagnostic.Marks` says what each of them tells of it.
`parseOutcome_marks` puts the two together.

The settings are the standard ones, whose mark is on one line.
-/

set_option autoImplicit false

namespace Mixfix

/-! ## The offset -/

/-- Only blanks stand between the furthest offset and the one that is reported, and none at this one. -/
structure AfterBlanks (s : Text) (furthest offset : Nat) : Prop where
  furthest_le : furthest ≤ offset
  le_length : offset ≤ s.length
  blanks : Text.isBlank ((s.take offset).drop furthest) = true
  next : ∀ c, s[offset]? = some c → c.isBlank = false

theorem failureOffset_spec {s : Text} {furthest : Nat} (h : furthest ≤ s.length) :
    AfterBlanks s furthest (failureOffset s furthest) := by
  have hdrop : s.drop (failureOffset s furthest) = Text.trimStart (s.drop furthest) :=
    Text.drop_trimStart (List.drop_suffix _ _)
  have hsplit : Text.leadingBlanks (s.drop furthest) ++ Text.trimStart (s.drop furthest) = s.drop furthest :=
    Text.leadingBlanks_append_trimStart _
  have hlength : (Text.leadingBlanks (s.drop furthest)).length +
      (Text.trimStart (s.drop furthest)).length = s.length - furthest := by
    rw [← List.length_append, hsplit, List.length_drop]
  have hoffset : failureOffset s furthest = furthest + (Text.leadingBlanks (s.drop furthest)).length := by
    unfold failureOffset
    omega
  refine ⟨by omega, Nat.sub_le _ _, ?_, fun c hc => Text.isBlank_of_drop_eq_trimStart hdrop hc⟩
  have hblanks : (s.take (failureOffset s furthest)).drop furthest =
      Text.leadingBlanks (s.drop furthest) := by
    have htake : (Text.leadingBlanks (s.drop furthest) ++ Text.trimStart (s.drop furthest)).take
        (failureOffset s furthest - furthest) = Text.leadingBlanks (s.drop furthest) :=
      List.take_left' (by omega)
    rwa [hsplit, ← List.drop_take] at htake
  rw [hblanks]
  exact List.all_takeWhile

/-! ## The report -/

/-- A diagnostic that tells of an offset where nothing matches. Its line is one more than the line feeds
before the offset, and its column one more than what stands behind the last of them. -/
structure Diagnostic.Marks (s : Text) (offset : Nat) (diagnostic : Diagnostic) : Prop where
  kind : diagnostic.kind = .noMatch
  located : diagnostic.position.offset = offset
  place : ∃ lines front : Text, s.take offset = lines ++ front ∧
    (lines = [] ∨ lines.getLast? = some (CodePoint.ofChar '\n')) ∧ CodePoint.ofChar '\n' ∉ front ∧
    diagnostic.position.line = lines.count (CodePoint.ofChar '\n') + 1 ∧
    diagnostic.position.column = front.length + 1
  endOfInput : diagnostic.message = txt "Unexpected end of input" ↔ offset = s.length
  elsewhere : offset < s.length → ∃ preview, diagnostic.message =
    txt "No grammar rule matched at position " ++ diagnostic.position.text ++ preview
  notEmpty : diagnostic.message ≠ txt "Empty or whitespace-only input" ∧
    diagnostic.message ≠ txt "Cannot parse empty or whitespace-only input"
  mark : txt "→" <:+: diagnostic.snippet
  oneLine : diagnostic.snippet.isOneLine = true

/-- A text that begins differently is a different one. -/
theorem Text.append_ne {c : CodePoint} {s t : Text} (rest : Text) (h : t.head? ≠ some c) :
    c :: s ++ rest ≠ t := by
  rintro rfl
  exact h rfl

theorem Diagnostic.noMatch_marks {s : Text} {offset : Nat} (hblank : s.isBlank = false)
    (h : offset ≤ s.length) : (noMatch s offset .standard).Marks s offset := by
  have hs : s ≠ [] := by
    rintro rfl
    cases hblank
  have hmark : Settings.standard.snippetMark.isOneLine = true := by decide
  have hmessage : (noMatch s offset .standard).message =
      if (s.length : Int) ≤ offset then txt "Unexpected end of input"
      else txt "No grammar rule matched at position " ++ (noMatch s offset .standard).position.text ++
        (txt ": \"" ++ ((s.fromOffset offset).trim.take previewLength ++
          if previewLength < (s.fromOffset offset).trim.length then txt "..." else []) ++ txt "\"") := by
    simp only [noMatch, report, place, hblank, Bool.false_eq_true, if_false, List.append_assoc]
  constructor
  · rfl
  · rfl
  · exact SourcePosition.exists_lines h
  · rw [hmessage]
    split
    · exact ⟨fun _ => by omega, fun _ => rfl⟩
    · rw [List.append_assoc]
      exact ⟨fun heq => absurd heq (Text.append_ne _ (by decide)), fun heq => by omega⟩
  · intro hlt
    rw [hmessage, if_neg (by omega)]
    exact ⟨_, rfl⟩
  · rw [hmessage]
    split
    · exact ⟨by decide, by decide⟩
    · rw [List.append_assoc]
      exact ⟨Text.append_ne _ (by decide), Text.append_ne _ (by decide)⟩
  · exact mark_infix_snippet hs hmark
  · exact isOneLine_snippet hs

namespace Grammar

variable {grammar : Grammar} {context : Context} {s : Text} {outcome : Outcome} {diagnostic : Diagnostic}

/-- **A failed parse points behind its furthest terminal**, whatever the grammar. Where a text that is not
blank matches nothing, the offset that is reported comes after the furthest end of the terminals that were
matched, and after the blanks there; and everything in the report tells of this offset. -/
theorem parseOutcome_marks (hblank : s.isBlank = false)
    (houtcome : grammar.parseOutcome context .standard s = .ok outcome)
    (hresult : outcome.result = .error diagnostic) :
    ∃ reached furthest offset,
      Parse.listed grammar context 0 s = .ok (none, reached) ∧ (∀ left ∈ reached, left <:+ s) ∧
      Parse.Furthest s reached furthest ∧ AfterBlanks s furthest offset ∧
      (∀ left ∈ reached, Parse.endOffset s left ≤ offset) ∧ diagnostic.Marks s offset := by
  -- A parse that was broken off, or that matched, has no diagnostic.
  have hnone : grammar.parse context s = .ok none := by
    cases hparse : grammar.parse context s with
    | error e =>
      simp only [parseOutcome, hblank, hparse, Bool.false_eq_true, if_false, error_bind] at houtcome
      cases houtcome
    | ok found =>
      cases found with
      | none => rfl
      | some r =>
        rw [parseOutcome_of_match hblank hparse] at houtcome
        cases houtcome
        cases hresult
  obtain ⟨progress, hlevels, hfailed⟩ := parseOutcome_of_none hblank hnone
  rw [hfailed] at houtcome
  cases houtcome
  cases hresult
  obtain ⟨reached, hlisted, hsuffixes, hfurthest⟩ := Parse.furthest_of_levels hlevels
  have hafter := failureOffset_spec hfurthest.le_length
  exact ⟨reached, progress.furthest, failureOffset s progress.furthest, hlisted, hsuffixes, hfurthest, hafter,
    fun left hleft => Nat.le_trans (hfurthest.bound left hleft) hafter.furthest_le,
    Diagnostic.noMatch_marks hblank hafter.le_length⟩

/-- An open parenthesis and half of a sum. -/
theorem parseOutcome_marks_parenthesis :
    Text.isBlank (txt "(1 + ") = false ∧
      ∃ outcome diagnostic reached furthest offset,
        arithmeticGrammar.parseOutcome [] .standard (txt "(1 + ") = .ok outcome ∧
        outcome.result = .error diagnostic ∧
        Parse.listed arithmeticGrammar [] 0 (txt "(1 + ") = .ok (none, reached) ∧
        Parse.Furthest (txt "(1 + ") reached furthest ∧ AfterBlanks (txt "(1 + ") furthest offset ∧
        diagnostic.Marks (txt "(1 + ") offset := by
  have hblank : Text.isBlank (txt "(1 + ") = false := by decide
  have hnone : arithmeticGrammar.parse [] (txt "(1 + ") = .ok none := by
    rw [Parse.parse_eq_plain]
    have hplain : (Parse.plain arithmeticGrammar [] 0 (txt "(1 + ")).toOption.map Option.isNone = some true := by
      decide +kernel
    cases hrun : Parse.plain arithmeticGrammar [] 0 (txt "(1 + ") with
    | error e =>
      rw [hrun] at hplain
      cases hplain
    | ok found =>
      rw [hrun] at hplain
      cases found with
      | none => rfl
      | some r => cases hplain
  obtain ⟨progress, -, houtcome⟩ := parseOutcome_of_none hblank hnone
  obtain ⟨reached, furthest, offset, hlisted, -, hfurthest, hafter, -, hmarks⟩ :=
    parseOutcome_marks hblank houtcome rfl
  exact ⟨hblank, _, _, reached, furthest, offset, houtcome, rfl, hlisted, hfurthest, hafter, hmarks⟩

end Grammar

end Mixfix
