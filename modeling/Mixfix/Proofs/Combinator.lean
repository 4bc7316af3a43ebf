import Mixfix.Combinator
import Mixfix.Proofs.Parse.Interruption

/-!
# Parsers end

What a parser returns, told without a bound on its loops: `Returns` and the three relations with it have a
derivation where the parser comes to an end, and a repetition goes round as long as its parser matches and reads
something (`Loops`). The parser inside may be anything, also one that matches without reading. But whatever it is
put together from, it leaves an end of the text, so each further round has less to read (`Settles.exists_loops`).

By `exists_returns` a run and its derivation are the same, and there is one on every text without long runs of
digits.
-/

set_option autoImplicit false

namespace Mixfix

open Decimal (TooManyDigits)

namespace Combinator

/-! ## Loops without a bound -/

mutual

/-- What a parser returns on a text. -/
inductive Returns (context : Context) : Combinator → Text → Option (Match Value) → Prop
  | token {t : Terminal} {s : Text} {found : Option (Match Node)} : t.match? context s = .ok found →
      Returns context (.token t) s (found.map fun r => ⟨.node r.value, r.rest⟩)
  | choice {parsers : List Combinator} {s : Text} {found : Option (Match Value)} :
      ReturnsFirst context parsers s found → Returns context (.choice parsers) s found
  | sequence {parsers : List Combinator} {s : Text} {found : Option (Match (List Value))} :
      ReturnsAll context parsers s found →
      Returns context (.sequence parsers) s (found.map fun r => ⟨.list r.value, r.rest⟩)
  | maybe {p : Combinator} {s : Text} {found : Option (Match Value)} : Returns context p s found →
      Returns context (.maybe p) s (some (found.getD ⟨.null, s⟩))
  | many {p : Combinator} {s : Text} {r : Match (List Value)} : Loops context p s r →
      Returns context (.many p) s (some ⟨.list r.value, r.rest⟩)

/-- What the first of some parsers that matches returns. -/
inductive ReturnsFirst (context : Context) : List Combinator → Text → Option (Match Value) → Prop
  | nil {s : Text} : ReturnsFirst context [] s none
  | here {p : Combinator} {parsers : List Combinator} {s : Text} {r : Match Value} :
      Returns context p s (some r) → ReturnsFirst context (p :: parsers) s (some r)
  | later {p : Combinator} {parsers : List Combinator} {s : Text} {found : Option (Match Value)} :
      Returns context p s none → ReturnsFirst context parsers s found →
      ReturnsFirst context (p :: parsers) s found

/-- What parsers one after the other return. -/
inductive ReturnsAll (context : Context) : List Combinator → Text → Option (Match (List Value)) → Prop
  | nil {s : Text} : ReturnsAll context [] s (some ⟨[], s⟩)
  | failed {p : Combinator} {parsers : List Combinator} {s : Text} : Returns context p s none →
      ReturnsAll context (p :: parsers) s none
  | cons {p : Combinator} {parsers : List Combinator} {s : Text} {first : Match Value}
      {found : Option (Match (List Value))} : Returns context p s (some first) →
      ReturnsAll context parsers first.rest found →
      ReturnsAll context (p :: parsers) s
        (found.map fun others => ⟨first.value :: others.value, others.rest⟩)

/-- The rounds of a repetition, up to a failure or a match that reads nothing. -/
inductive Loops (context : Context) : Combinator → Text → Match (List Value) → Prop
  | failed {p : Combinator} {s : Text} : Returns context p s none → Loops context p s ⟨[], s⟩
  | idle {p : Combinator} {s : Text} {r : Match Value} : Returns context p s (some r) → r.rest = s →
      Loops context p s ⟨[], s⟩
  | again {p : Combinator} {s : Text} {first : Match Value} {others : Match (List Value)} :
      Returns context p s (some first) → first.rest ≠ s → Loops context p first.rest others →
      Loops context p s ⟨first.value :: others.value, others.rest⟩

end

/-! ## Results -/

section

variable {α : Type}

/-- A run comes to a result. It is what is returned and nothing else is, and what it leaves is an end of the
text. -/
structure ComesTo (run : Text → Except TooManyDigits (Option (Match α)))
    (returns : Text → Option (Match α) → Prop) (s : Text) (found : Option (Match α)) : Prop where
  runs : run s = .ok found
  returned : returns s found
  unique : ∀ other, returns s other → other = found
  suffix : ∀ r, found = some r → r.rest <:+ s

/-- A run comes to a result on every text without long runs of digits. -/
def Settles (run : Text → Except TooManyDigits (Option (Match α)))
    (returns : Text → Option (Match α) → Prop) : Prop :=
  ∀ s : Text, s.ShortRuns → ∃ found, ComesTo run returns s found

end

variable {context : Context} {p : Combinator} {parsers : List Combinator}

theorem settles_token (t : Terminal) : Settles (run context (.token t)) (Returns context (.token t)) := by
  intro s hs
  cases hmatch : t.match? context s with
  | error e =>
    obtain ⟨-, herror⟩ := Terminal.match?_eq_error.mp hmatch
    obtain ⟨found, hfound⟩ := Scan.exists_number hs.readable
    rw [hfound] at herror
    cases herror
  | ok found =>
    refine ⟨_, by rw [run, hmatch]; rfl, .token hmatch, fun other hother => ?_, fun r hr => ?_⟩
    · cases hother with
      | token hmatch' =>
        rw [hmatch] at hmatch'
        cases hmatch'
        rfl
    · obtain ⟨result, rfl, rfl⟩ := Option.map_eq_some_iff.mp hr
      exact Terminal.match?_suffix hmatch

/-! ### Choices -/

theorem settles_choice (h : Settles (runFirst context parsers) (ReturnsFirst context parsers)) :
    Settles (run context (.choice parsers)) (Returns context (.choice parsers)) := by
  intro s hs
  obtain ⟨found, hrun, hreturns, hunique, hsuffix⟩ := h s hs
  refine ⟨found, by rw [run, hrun], .choice hreturns, fun other hother => ?_, hsuffix⟩
  cases hother with
  | choice hother => exact hunique other hother

theorem settles_first_nil : Settles (runFirst context []) (ReturnsFirst context []) := by
  intro s _
  refine ⟨none, by rw [runFirst], .nil, fun other hother => ?_, nofun⟩
  cases hother
  rfl

theorem settles_first_cons (hp : Settles (run context p) (Returns context p))
    (hparsers : Settles (runFirst context parsers) (ReturnsFirst context parsers)) :
    Settles (runFirst context (p :: parsers)) (ReturnsFirst context (p :: parsers)) := by
  intro s hs
  obtain ⟨found, hrun, hreturns, hunique, hsuffix⟩ := hp s hs
  cases found with
  | some r =>
    refine ⟨some r, by rw [runFirst, hrun]; rfl, .here hreturns, fun other hother => ?_, hsuffix⟩
    cases hother with
    | here hother => exact hunique _ hother
    | later hother _ => cases hunique _ hother
  | none =>
    obtain ⟨found, hrun', hreturns', hunique', hsuffix'⟩ := hparsers s hs
    refine ⟨found, by rw [runFirst, hrun, ← hrun']; rfl, .later hreturns hreturns', fun other hother => ?_,
      hsuffix'⟩
    cases hother with
    | here hother => cases hunique _ hother
    | later _ hother => exact hunique' other hother

/-! ### Sequences -/

theorem settles_sequence (h : Settles (runAll context parsers) (ReturnsAll context parsers)) :
    Settles (run context (.sequence parsers)) (Returns context (.sequence parsers)) := by
  intro s hs
  obtain ⟨found, hrun, hreturns, hunique, hsuffix⟩ := h s hs
  refine ⟨_, by rw [run, hrun]; rfl, .sequence hreturns, fun other hother => ?_, fun r hr => ?_⟩
  · cases hother with
    | sequence hother => rw [hunique _ hother]
  · obtain ⟨result, hresult, rfl⟩ := Option.map_eq_some_iff.mp hr
    exact hsuffix result hresult

theorem settles_all_nil : Settles (runAll context []) (ReturnsAll context []) := by
  intro s _
  refine ⟨some ⟨[], s⟩, by rw [runAll], .nil, fun other hother => ?_, fun r hr => ?_⟩
  · cases hother
    rfl
  · cases hr
    exact List.suffix_rfl

theorem settles_all_cons (hp : Settles (run context p) (Returns context p))
    (hparsers : Settles (runAll context parsers) (ReturnsAll context parsers)) :
    Settles (runAll context (p :: parsers)) (ReturnsAll context (p :: parsers)) := by
  intro s hs
  obtain ⟨found, hrun, hreturns, hunique, hsuffix⟩ := hp s hs
  cases found with
  | none =>
    refine ⟨none, by rw [runAll, hrun]; rfl, .failed hreturns, fun other hother => ?_, nofun⟩
    cases hother with
    | failed _ => rfl
    | cons hother _ => cases hunique _ hother
  | some first =>
    -- The parsers behind it read on in what it leaves, which has no longer runs of digits.
    have hrest : first.rest <:+ s := hsuffix first rfl
    obtain ⟨found, hrun', hreturns', hunique', hsuffix'⟩ := hparsers first.rest (hs.of_suffix hrest)
    refine ⟨_, ?_, .cons hreturns hreturns', fun other hother => ?_, fun r hr => ?_⟩
    · rw [runAll, hrun, ok_bind]
      dsimp only
      rw [hrun', ok_bind]
      cases found with
      | none => rfl
      | some others => rfl
    · cases hother with
      | failed hother => cases hunique _ hother
      | cons hother hothers =>
        cases hunique _ hother
        rw [hunique' _ hothers]
    · obtain ⟨others, hothers, rfl⟩ := Option.map_eq_some_iff.mp hr
      exact (hsuffix' others hothers).trans hrest

/-! ### Parsers that may be missing or repeated -/

theorem settles_maybe (hp : Settles (run context p) (Returns context p)) :
    Settles (run context (.maybe p)) (Returns context (.maybe p)) := by
  intro s hs
  obtain ⟨found, hrun, hreturns, hunique, hsuffix⟩ := hp s hs
  refine ⟨_, by rw [run, hrun]; rfl, .maybe hreturns, fun other hother => ?_, fun r hr => ?_⟩
  · cases hother with
    | maybe hother => rw [hunique _ hother]
  · cases hr
    cases found with
    | none => exact List.suffix_rfl
    | some r => exact hsuffix r rfl

/-- **A loop ends.** A round that goes on leaves a shorter text, so the length of the text bounds the rounds. -/
theorem Settles.exists_loops (hp : Settles (run context p) (Returns context p)) {fuel : Nat} {s : Text}
    (hs : s.ShortRuns) (hfuel : s.length ≤ fuel) :
    ∃ r, repeated (run context p) fuel s = .ok r ∧ Loops context p s r ∧
      (∀ other, Loops context p s other → other = r) ∧ r.rest <:+ s := by
  induction fuel generalizing s with
  | zero =>
    -- Nothing is left to read: whatever the parser makes of the end of the text, the loop stops there.
    obtain rfl := List.eq_nil_of_length_eq_zero (Nat.le_zero.mp hfuel)
    obtain ⟨found, -, hreturns, hunique, hsuffix⟩ := hp [] hs
    have hidle : ∀ r, Returns context p [] (some r) → r.rest = [] := fun r hr =>
      List.suffix_nil.mp (hsuffix r (hunique _ hr).symm)
    refine ⟨⟨[], []⟩, rfl, ?_, fun other hother => ?_, List.suffix_rfl⟩
    · cases found with
      | none => exact .failed hreturns
      | some r => exact .idle hreturns (hidle r hreturns)
    · cases hother with
      | failed _ => rfl
      | idle _ _ => rfl
      | again hother hgoes _ => exact absurd (hidle _ hother) hgoes
  | succ fuel ih =>
    obtain ⟨found, hrun, hreturns, hunique, hsuffix⟩ := hp s hs
    cases found with
    | none =>
      refine ⟨⟨[], s⟩, by rw [repeated, hrun]; rfl, .failed hreturns, fun other hother => ?_, List.suffix_rfl⟩
      cases hother with
      | failed _ => rfl
      | idle _ _ => rfl
      | again hother _ _ => cases hunique _ hother
    | some first =>
      by_cases hidle : first.rest = s
      · refine ⟨⟨[], s⟩, ?_, .idle hreturns hidle, fun other hother => ?_, List.suffix_rfl⟩
        · rw [repeated, hrun, ok_bind]
          exact if_pos hidle
        · cases hother with
          | failed _ => rfl
          | idle _ _ => rfl
          | again hother hgoes _ =>
            cases hunique _ hother
            exact absurd hidle hgoes
      · have hrest : first.rest <:+ s := hsuffix first rfl
        have hshorter : first.rest.length < s.length :=
          Nat.lt_of_le_of_ne hrest.length_le fun hlength => hidle (hrest.eq_of_length hlength)
        obtain ⟨others, hrun', hloops, hunique', hsuffix'⟩ :=
          ih (hs.of_suffix hrest) (show first.rest.length ≤ fuel by omega)
        refine ⟨_, ?_, .again hreturns hidle hloops, fun other hother => ?_, hsuffix'.trans hrest⟩
        · rw [repeated, hrun, ok_bind]
          dsimp only
          rw [if_neg hidle, hrun', ok_bind]
          rfl
        · cases hother with
          | failed hother => cases hunique _ hother
          | idle hother hother' =>
            cases hunique _ hother
            exact absurd hother' hidle
          | again hother _ hothers =>
            cases hunique _ hother
            rw [hunique' _ hothers]

theorem settles_many (hp : Settles (run context p) (Returns context p)) :
    Settles (run context (.many p)) (Returns context (.many p)) := by
  intro s hs
  obtain ⟨r, hrun, hloops, hunique, hsuffix⟩ := hp.exists_loops hs (Nat.le_refl s.length)
  refine ⟨_, by rw [run, hrun]; rfl, .many hloops, fun other hother => ?_, fun r' hr => ?_⟩
  · cases hother with
    | many hother => rw [hunique _ hother]
  · cases hr
    exact hsuffix

/-! ## All parsers -/

mutual

/-- **Every parser settles**, by recursion on what it is put together from. -/
theorem settles (context : Context) : ∀ p : Combinator, Settles (run context p) (Returns context p)
  | .token t => settles_token t
  | .choice parsers => settles_choice (settles_first context parsers)
  | .sequence parsers => settles_sequence (settles_all context parsers)
  | .maybe p => settles_maybe (settles context p)
  | .many p => settles_many (settles context p)

theorem settles_first (context : Context) :
    ∀ parsers : List Combinator, Settles (runFirst context parsers) (ReturnsFirst context parsers)
  | [] => settles_first_nil
  | p :: parsers => settles_first_cons (settles context p) (settles_first context parsers)

theorem settles_all (context : Context) :
    ∀ parsers : List Combinator, Settles (runAll context parsers) (ReturnsAll context parsers)
  | [] => settles_all_nil
  | p :: parsers => settles_all_cons (settles context p) (settles_all context parsers)

end

/-- **Parsers end and read a front of the text.** On a text without long runs of digits every parser returns, with
loops that know no bound, and it returns what its run gives and nothing else. What a match leaves is an end of the
text. -/
theorem exists_returns (context : Context) (p : Combinator) {s : Text} (h : s.ShortRuns) :
    ∃ found, run context p s = .ok found ∧ (∀ other, Returns context p s other ↔ other = found) ∧
      ∀ r, found = some r → r.rest <:+ s := by
  obtain ⟨found, hcomes⟩ := settles context p s h
  refine ⟨found, hcomes.runs, fun other => ⟨hcomes.unique other, ?_⟩, hcomes.suffix⟩
  rintro rfl
  exact hcomes.returned

/-- Loops around a loop, around a parser that always matches, on words between commas. -/
theorem exists_returns_nested :
    let word : Combinator := .sequence [.maybe (.token (.const (txt ","))), .maybe (.token .identifier)]
    let words : Combinator := .many (.many (.choice [word, .token (.const [])]))
    (txt " a, b,, ; c").ShortRuns ∧
      ∃ r, run [] words (txt " a, b,, ; c") = .ok (some r) ∧ r.rest = txt " ; c" ∧
        Returns [] words (txt " a, b,, ; c") (some r) ∧ r.rest <:+ txt " a, b,, ; c" := by
  intro word words
  have hshort : (txt " a, b,, ; c").ShortRuns := Text.shortRuns_of_length_le (by decide)
  obtain ⟨found, hrun, hreturns, hsuffix⟩ := exists_returns [] words hshort
  have hrest : (run [] words (txt " a, b,, ; c")).toOption.join.map Match.rest = some (txt " ; c") := by
    decide +kernel
  rw [hrun] at hrest
  obtain ⟨r, rfl, hr⟩ := Option.map_eq_some_iff.mp hrest
  exact ⟨hshort, r, hrun, hr, (hreturns _).mpr rfl, hsuffix r rfl⟩

end Combinator

end Mixfix
