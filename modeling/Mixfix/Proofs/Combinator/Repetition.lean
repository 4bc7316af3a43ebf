import Mixfix.Proofs.Combinator

/-!
# A repetition reads as much as it can

A repetition stops where its parser fails or reads nothing, and there is nothing left for it to do there: its parser
matches no more of the rest, and the repetition itself gives no value. Up to this place it is the sequence of so many
of its parser as it gives values, and each of them has read something (`Loops.exhausts`).

What the parser does at the end of the loop is told by its derivation there, which has the same result as a run
(`run_of_returns`).
-/

set_option autoImplicit false

namespace Mixfix

namespace Combinator

variable {context : Context} {p : Combinator} {s : Text}

theorem run_of_returns (hs : s.ShortRuns) {found : Option (Match Value)} (h : Returns context p s found) :
    run context p s = .ok found := by
  obtain ⟨result, hcomes⟩ := settles context p s hs
  rw [hcomes.unique found h]
  exact hcomes.runs

theorem suffix_of_returns (hs : s.ShortRuns) {r : Match Value} (h : Returns context p s (some r)) :
    r.rest <:+ s := by
  obtain ⟨result, hcomes⟩ := settles context p s hs
  exact hcomes.suffix r (hcomes.unique _ h).symm

/-- A parser fails on a text, or matches and leaves all of it. -/
def Idles (context : Context) (p : Combinator) (s : Text) : Prop :=
  run context p s = .ok none ∨ ∃ value, run context p s = .ok (some ⟨value, s⟩)

/-- Where its parser has nothing to read, a repetition gives no value. -/
theorem Idles.repeated_eq (h : Idles context p s) (fuel : Nat) :
    repeated (run context p) fuel s = .ok ⟨[], s⟩ := by
  cases fuel with
  | zero => rfl
  | succ fuel =>
    rcases h with hnone | ⟨value, hsome⟩
    · rw [repeated, hnone]
      rfl
    · rw [repeated, hsome, ok_bind]
      exact if_pos rfl

/-- A repetition has read all that it can: its parser has nothing to read in the rest, each value was read from
something, and they are those of so many parsers one after the other. -/
structure Exhausts (context : Context) (p : Combinator) (s : Text) (r : Match (List Value)) : Prop where
  idles : Idles context p r.rest
  length_le : r.value.length + r.rest.length ≤ s.length
  replays : runAll context (List.replicate r.value.length p) s = .ok (some r)

/-- No round is as good as one that reads nothing. -/
theorem Exhausts.stop (h : Idles context p s) : Exhausts context p s ⟨[], s⟩ where
  idles := h
  length_le := by simp
  replays := by
    rw [List.length_nil, List.replicate_zero, runAll]

/-- One more round in front reads something more. -/
theorem Exhausts.again {first : Match Value} {others : Match (List Value)}
    (hfirst : run context p s = .ok (some first)) (hshorter : first.rest.length < s.length)
    (h : Exhausts context p first.rest others) :
    Exhausts context p s ⟨first.value :: others.value, others.rest⟩ where
  idles := h.idles
  length_le := by
    have hlength := h.length_le
    simp only [List.length_cons]
    omega
  replays := by
    rw [List.length_cons, List.replicate_succ, runAll, hfirst, ok_bind]
    dsimp only
    rw [h.replays]
    rfl

/-- **A loop reads all that its parser can.** The induction is on the rounds, of which each leaves less. -/
theorem Loops.exhausts {s : Text} {r : Match (List Value)} (hs : s.ShortRuns) :
    Loops context p s r → Exhausts context p s r
  | .failed hfirst => .stop (.inl (run_of_returns hs hfirst))
  | .idle (r := ⟨value, _⟩) hfirst hidle => by
    subst hidle
    exact .stop (.inr ⟨value, run_of_returns hs hfirst⟩)
  | .again hfirst hgoes hothers => by
    have hrest := suffix_of_returns hs hfirst
    have hshorter := Nat.lt_of_le_of_ne hrest.length_le fun hlength => hgoes (hrest.eq_of_length hlength)
    exact (hothers.exhausts (hs.of_suffix hrest)).again (run_of_returns hs hfirst) hshorter

/-- **A repetition is maximal, and has nothing more to do after itself.** On a text without long runs of digits it
returns. What it leaves its parser fails on, or matches without reading; to repeat again on it gives no value. There
is at most one value for each code point that was read, and so many of the parser in a sequence give the same values
and leave the same. -/
theorem many_exhausts (context : Context) (p : Combinator) {s : Text} (h : s.ShortRuns) :
    ∃ (values : List Value) (rest : Text), run context (.many p) s = .ok (some ⟨.list values, rest⟩) ∧
      (run context p rest = .ok none ∨ ∃ value, run context p rest = .ok (some ⟨value, rest⟩)) ∧
      run context (.many p) rest = .ok (some ⟨.list [], rest⟩) ∧
      values.length + rest.length ≤ s.length ∧
      run context (.sequence (List.replicate values.length p)) s = .ok (some ⟨.list values, rest⟩) := by
  obtain ⟨⟨values, rest⟩, hrun, hloops, -, -⟩ :=
    Settles.exists_loops (settles context p) h (Nat.le_refl s.length)
  have hexhausts := hloops.exhausts h
  refine ⟨values, rest, ?_, hexhausts.idles, ?_, hexhausts.length_le, ?_⟩
  · rw [run, hrun]
    rfl
  · rw [run, hexhausts.idles.repeated_eq]
    rfl
  · rw [run, hexhausts.replays]
    rfl

/-- Words, or else the blanks before what is no word: the blanks are read once more, and then nothing is. -/
theorem many_exhausts_blanks :
    let p : Combinator := .choice [.token .identifier, .token (.const [])]
    let s := txt " a b  ; c"
    s.ShortRuns ∧ ∃ values : List Value, values.length = 3 ∧
      run [] (.many p) s = .ok (some ⟨.list values, txt "; c"⟩) ∧
      (∃ value, run [] p (txt "; c") = .ok (some ⟨value, txt "; c"⟩)) ∧
      run [] (.many p) (txt "; c") = .ok (some ⟨.list [], txt "; c"⟩) ∧
      run [] (.sequence [p, p, p]) s = .ok (some ⟨.list values, txt "; c"⟩) := by
  intro p s
  have hshort : s.ShortRuns := Text.shortRuns_of_length_le (by decide)
  obtain ⟨values, rest, hrun, hidles, hagain, -, hsequence⟩ := many_exhausts [] p hshort
  have hresult : run [] (.many p) s =
      .ok (some ⟨.list [.node (.identifier (txt "a") (.str unknownSchema)),
        .node (.identifier (txt "b") (.str unknownSchema)), .node (Terminal.constNode [])], txt "; c"⟩) := by
    subst p s
    cbv
  have hmatch : (run [] p (txt "; c")).toOption.join.isSome = true := by decide +kernel
  rw [hrun] at hresult
  cases hresult
  refine ⟨hshort, _, rfl, hrun, hidles.resolve_left fun hnone => ?_, hagain, hsequence⟩
  rw [hnone] at hmatch
  cases hmatch

end Combinator

end Mixfix
