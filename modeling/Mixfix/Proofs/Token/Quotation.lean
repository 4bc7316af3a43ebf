import Mixfix.Proofs.Token

/-!
# Where a string ends

A text hides the code point behind it if it ends with a backslash that is not hidden itself
(`Text.hidesNext`). A string goes on to the first place where its mark begins and is not hidden:
`Scan.splitAtMark?_eq_some_endsAt` says this of marks of any length, also of those that overlap themselves, or that
begin inside of a text and go on behind it (`Text.BeginsInside`). A mark that begins with a backslash can open a
string, but it is passed over wherever it could close one.

With the first of the given marks that a text begins with (`Scan.firstMark?`), this is all that a string is
(`Scan.string_eq_some`).
-/

set_option autoImplicit false

namespace Mixfix

namespace Text

/-! ## Hidden places -/

/-- Whether a text hides the code point behind it: it ends with a backslash that is not hidden itself. -/
def hidesNext (s : Text) : Bool :=
  s.foldl (fun hidden (c : CodePoint) => !hidden && c == '\\') false

theorem hidesNext_cons {c : CodePoint} (h : c ≠ '\\') (s : Text) : hidesNext (c :: s) = hidesNext s := by
  rw [hidesNext, List.foldl_cons, beq_false_of_ne h]
  rfl

/-- A backslash and the code point that it hides. -/
theorem hidesNext_hidden (c : CodePoint) (s : Text) : hidesNext ('\\' :: c :: s) = hidesNext s := by
  simp [hidesNext]

/-- A mark begins inside of a text, at a place that is not hidden. It may go on in what follows the text. -/
def BeginsInside (mark s rest : Text) : Prop :=
  ∃ (before : Text) (c : CodePoint) (after : Text),
    s = before ++ c :: after ∧ before.hidesNext = false ∧ mark <+: c :: (after ++ rest)

variable {mark s rest : Text}

theorem not_beginsInside_nil : ¬ BeginsInside mark [] rest := by
  rintro ⟨before, c, after, hs, -, -⟩
  cases before with
  | nil => cases hs
  | cons => cases hs

theorem beginsInside_cons {c : CodePoint} (hc : c ≠ '\\') :
    BeginsInside mark (c :: s) rest ↔ mark <+: c :: (s ++ rest) ∨ BeginsInside mark s rest := by
  constructor
  · rintro ⟨before, d, after, hs, hhides, hmark⟩
    cases before with
    | nil =>
      cases hs
      exact .inl hmark
    | cons b before =>
      obtain ⟨rfl, rfl⟩ := List.cons.inj hs
      rw [hidesNext_cons hc] at hhides
      exact .inr ⟨before, d, after, rfl, hhides, hmark⟩
  · rintro (hmark | ⟨before, d, after, rfl, hhides, hmark⟩)
    · exact ⟨[], c, s, rfl, rfl, hmark⟩
    · exact ⟨c :: before, d, after, rfl, by rwa [hidesNext_cons hc], hmark⟩

/-- No mark begins behind a backslash, at the place that it hides. -/
theorem beginsInside_hidden {c : CodePoint} :
    BeginsInside mark ('\\' :: c :: s) rest ↔ mark <+: '\\' :: c :: (s ++ rest) ∨ BeginsInside mark s rest := by
  constructor
  · rintro ⟨before, d, after, hs, hhides, hmark⟩
    rcases before with - | ⟨b, - | ⟨b', before⟩⟩
    · cases hs
      exact .inl hmark
    · cases hs
      cases hhides
    · cases hs
      rw [hidesNext_hidden] at hhides
      exact .inr ⟨before, d, after, rfl, hhides, hmark⟩
  · rintro (hmark | ⟨before, d, after, rfl, hhides, hmark⟩)
    · exact ⟨[], '\\', c :: s, rfl, rfl, hmark⟩
    · exact ⟨'\\' :: c :: before, d, after, rfl, by rwa [hidesNext_hidden], hmark⟩

/-! ## Ends of texts -/

/-- A text ends at the mark behind it: the mark is not hidden there, and it begins nowhere before. -/
structure EndsAt (mark s rest : Text) : Prop where
  not_hidden : s.hidesNext = false
  not_before : ¬ BeginsInside mark s (mark ++ rest)

theorem endsAt_nil : EndsAt mark [] rest :=
  ⟨rfl, not_beginsInside_nil⟩

theorem endsAt_cons {c : CodePoint} (hc : c ≠ '\\') :
    EndsAt mark (c :: s) rest ↔ ¬ mark <+: c :: (s ++ (mark ++ rest)) ∧ EndsAt mark s rest := by
  constructor
  · rintro ⟨hhides, hbefore⟩
    rw [hidesNext_cons hc] at hhides
    rw [beginsInside_cons hc, not_or] at hbefore
    exact ⟨hbefore.1, hhides, hbefore.2⟩
  · rintro ⟨hmark, hhides, hbefore⟩
    exact ⟨by rwa [hidesNext_cons hc], by rw [beginsInside_cons hc, not_or]; exact ⟨hmark, hbefore⟩⟩

/-- No text ends behind a backslash that is not hidden. -/
theorem not_endsAt_backslash : ¬ EndsAt mark ['\\'] rest := by
  rintro ⟨hhides, -⟩
  cases hhides

/-- A mark that begins with no backslash is not met where a code point is hidden. -/
theorem endsAt_hidden {m c : CodePoint} (hm : m ≠ '\\') :
    EndsAt (m :: mark) ('\\' :: c :: s) rest ↔ EndsAt (m :: mark) s rest := by
  have hmark : ∀ t : Text, ¬ m :: mark <+: '\\' :: t := fun t h => hm (List.cons_prefix_cons.mp h).1
  constructor
  · rintro ⟨hhides, hbefore⟩
    rw [hidesNext_hidden] at hhides
    rw [beginsInside_hidden, not_or] at hbefore
    exact ⟨hhides, hbefore.2⟩
  · rintro ⟨hhides, hbefore⟩
    exact ⟨by rwa [hidesNext_hidden], by rw [beginsInside_hidden, not_or]; exact ⟨hmark _, hbefore⟩⟩

end Text

namespace Scan

open Text

variable {marks : List Text} {mark s raw rest : Text}

/-- What stands before a mark ends at it. The induction is on the units of the text, which are the code points that
are not hidden, a backslash with the one it hides. -/
theorem splitAtMark?_eq_some_endsAt (hne : mark ≠ []) :
    splitAtMark? mark s = some (raw, rest) ↔
      mark.begins (· == '\\') = false ∧ EndsAt mark raw rest ∧ s = raw ++ (mark ++ rest) := by
  obtain ⟨m, mark, rfl⟩ := List.exists_cons_of_ne_nil hne
  rw [begins_cons, beq_eq_false_iff_ne]
  fun_induction splitAtMark? (m :: mark) s generalizing raw rest with
  | case1 => simp
  | case2 =>
    simp only [reduceCtorEq, false_iff]
    rintro ⟨hm, hends, hs⟩
    cases raw with
    | nil => exact hm (List.cons.inj hs).1.symm
    | cons c raw =>
      obtain ⟨rfl, htail⟩ := List.cons.inj hs
      obtain ⟨rfl, -⟩ := List.append_eq_nil_iff.mp htail.symm
      exact not_endsAt_backslash hends
  | case3 e tail ih =>
    rw [Option.map_eq_some_iff]
    constructor
    · rintro ⟨⟨raw', rest'⟩, hread, h⟩
      cases h
      obtain ⟨hm, hends, rfl⟩ := ih.mp hread
      exact ⟨hm, (endsAt_hidden hm).mpr hends, rfl⟩
    · rintro ⟨hm, hends, hs⟩
      rcases raw with - | ⟨c, - | ⟨d, raw⟩⟩
      · exact absurd (List.cons.inj hs).1.symm hm
      · obtain ⟨rfl, -⟩ := List.cons.inj hs
        exact absurd hends not_endsAt_backslash
      · cases hs
        exact ⟨(raw, rest), ih.mpr ⟨hm, (endsAt_hidden hm).mp hends, rfl⟩, rfl⟩
  | case4 c tail hc after ha =>
    rw [after?_eq_some] at ha
    constructor
    · intro h
      cases h
      exact ⟨(List.cons.inj ha).1 ▸ hc, endsAt_nil, ha⟩
    · rintro ⟨-, hends, hs⟩
      cases raw with
      | nil =>
        rw [ha, List.nil_append, List.append_cancel_left_eq] at hs
        rw [hs]
      | cons d raw =>
        obtain ⟨rfl, rfl⟩ := List.cons.inj hs
        exact absurd ⟨after, ha.symm⟩ ((endsAt_cons hc).mp hends).1
  | case5 c tail hc ha ih =>
    have hmark : ¬ m :: mark <+: c :: tail := by
      rintro ⟨after, hafter⟩
      rw [after?_eq_some.mpr hafter.symm] at ha
      cases ha
    rw [Option.map_eq_some_iff]
    constructor
    · rintro ⟨⟨raw', rest'⟩, hread, h⟩
      cases h
      obtain ⟨hm, hends, rfl⟩ := ih.mp hread
      exact ⟨hm, (endsAt_cons hc).mpr ⟨hmark, hends⟩, rfl⟩
    · rintro ⟨hm, hends, hs⟩
      cases raw with
      | nil => exact absurd ⟨rest, hs.symm⟩ hmark
      | cons d raw =>
        obtain ⟨rfl, rfl⟩ := List.cons.inj hs
        exact ⟨(raw, rest), ih.mpr ⟨hm, ((endsAt_cons hc).mp hends).2, rfl⟩, rfl⟩

/-! ## Strings -/

/-- The first of some quotation marks that a text begins with. An empty mark begins no string. -/
def firstMark? (marks : List Text) (s : Text) : Option Text :=
  marks.find? fun mark => mark ≠ [] ∧ mark <+: s

theorem openingMark?_eq_some :
    openingMark? marks s = some (mark, rest) ↔ firstMark? marks s = some mark ∧ s = mark ++ rest := by
  unfold openingMark? firstMark?
  induction marks with
  | nil => simp
  | cons first marks ih =>
    rw [List.findSome?_cons, List.find?_cons]
    by_cases hfirst : first ≠ [] ∧ first <+: s
    · rw [decide_eq_true hfirst]
      obtain ⟨hne, after, rfl⟩ := hfirst
      rw [if_neg (by simpa using hne), after?_append]
      simp only [Option.map_some, Option.some.injEq, Prod.mk.injEq]
      refine and_congr_right fun hmark => ?_
      rw [hmark, List.append_cancel_left_eq]
    · rw [decide_eq_false hfirst]
      have hnone : (if first.isEmpty then none else (after? first s).map fun rest => (first, rest)) = none := by
        split
        · rfl
        · rename_i hne
          refine Option.map_eq_none_iff.mpr (Option.eq_none_iff_forall_ne_some.mpr fun after ha => hfirst ?_)
          exact ⟨by simpa using hne, after, (after?_eq_some.mp ha).symm⟩
      rw [hnone]
      exact ih

/-- **A string** stands between the first of the marks that it can begin with and the place where it ends. -/
theorem string_eq_some {token : Token} :
    string marks s = some token ↔
      ∃ mark raw rest : Text, firstMark? marks s.trimStart = some mark ∧ mark.begins (· == '\\') = false ∧
        EndsAt mark raw rest ∧ s.trimStart = mark ++ (raw ++ (mark ++ rest)) ∧
        token = ⟨.string, raw, .str raw.decodeEscapes, rest⟩ := by
  constructor
  · intro h
    obtain ⟨⟨mark, body⟩, hopen, h⟩ := Option.bind_eq_some_iff.mp h
    obtain ⟨⟨raw, rest⟩, hsplit, h⟩ := Option.bind_eq_some_iff.mp h
    cases h
    obtain ⟨-, hne, -⟩ := openingMark?_append hopen
    obtain ⟨hfirst, hs⟩ := openingMark?_eq_some.mp hopen
    obtain ⟨hbegins, hends, rfl⟩ := (splitAtMark?_eq_some_endsAt hne).mp hsplit
    exact ⟨mark, raw, rest, hfirst, hbegins, hends, hs, rfl⟩
  · rintro ⟨mark, raw, rest, hfirst, hbegins, hends, hs, rfl⟩
    have hopen := openingMark?_eq_some.mpr ⟨hfirst, hs⟩
    obtain ⟨-, hne, -⟩ := openingMark?_append hopen
    have hsplit := (splitAtMark?_eq_some_endsAt hne).mpr ⟨hbegins, hends, rfl⟩
    exact Option.bind_eq_some_iff.mpr ⟨_, hopen, Option.bind_eq_some_iff.mpr ⟨_, hsplit, rfl⟩⟩

end Scan

end Mixfix
