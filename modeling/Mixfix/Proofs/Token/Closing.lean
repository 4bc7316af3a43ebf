import Mixfix.Proofs.Token.Balanced

/-!
# Tokens before a closing parenthesis

No token begins or goes on with a closing parenthesis, so a terminal makes the same of a text and of the text with
a parenthesis behind it, and leaves that behind what it left (`Terminal.match?_closing`). It refuses both or
neither, and it fails on both or on neither. This holds also where the text ends in the middle of something: in a
string that is not closed, behind a backslash, or behind a point, which is swallowed in both.
-/

set_option autoImplicit false

namespace Mixfix

/-- A token in a text that goes on. -/
def Token.append (token : Token) (tail : Text) : Token :=
  { token with rest := token.rest ++ tail }

/-- A match in a text that goes on. -/
def Match.append {α : Type} (r : Match α) (tail : Text) : Match α :=
  ⟨r.value, r.rest ++ tail⟩

/-! ## Fronts -/

namespace Text

/-- A closing parenthesis is no blank. -/
theorem trimStart_closing (s : Text) : (s ++ txt ")").trimStart = s.trimStart ++ txt ")" := by
  cases hs : s.trimStart with
  | nil => exact trimStart_append_of_blank (trimStart_eq_nil_iff.mp hs) (txt ")")
  | cons c front => exact trimStart_append hs (txt ")")

/-- A run that no closing parenthesis goes on with ends before one. -/
theorem takeRun_closing {p : CodePoint → Bool} (h : p ')' = false) (s : Text) :
    takeRun p (s ++ txt ")") = ((takeRun p s).1, (takeRun p s).2 ++ txt ")") := by
  have hclosing : (txt ")").begins p = false := h
  exact takeRun_before hclosing s

/-- A front without closing parentheses is not completed by one. -/
theorem after?_closing {start : Text} (h : CodePoint.ofChar ')' ∉ start) (s : Text) :
    after? start (s ++ txt ")") = (after? start s).map (· ++ txt ")") := by
  induction start generalizing s with
  | nil => rfl
  | cons a start ih =>
    obtain ⟨hne, hstart⟩ := List.ne_and_not_mem_of_not_mem_cons h
    cases s with
    | nil => exact if_neg (Ne.symm hne)
    | cons b s =>
      simp only [List.cons_append, after?, ih hstart]
      split
      · rfl
      · rfl

end Text

namespace Scan

/-! ## Numbers -/

theorem isDigit_closing : CodePoint.isDigit ')' = false := by decide

theorem fraction?_closing (s : Text) :
    fraction? (s ++ txt ")") = (fraction? s).map fun found => (found.1, found.2 ++ txt ")") := by
  rcases s with - | ⟨p, - | ⟨d, rest⟩⟩
  · rfl
  · show (if p = '.' && CodePoint.isDigit ')' then _ else none) = none
    rw [isDigit_closing, Bool.and_false]
    rfl
  · have hrun := Text.takeRun_closing isDigit_closing (d :: rest)
    simp only [List.cons_append] at hrun ⊢
    simp only [fraction?, hrun]
    split
    · rfl
    · rfl

theorem swallowPoint_closing (s : Text) : swallowPoint (s ++ txt ")") = swallowPoint s ++ txt ")" := by
  unfold swallowPoint
  rw [fraction?_closing, Option.isSome_map]
  split
  · rfl
  · cases s with
    | nil => rfl
    | cons c s =>
      simp only [List.cons_append]
      split
      · rfl
      · rfl

theorem unsignedNumber?_closing (s : Text) :
    unsignedNumber? (s ++ txt ")") =
      (unsignedNumber? s).map fun found => (found.1, found.2.1, found.2.2 ++ txt ")") := by
  unfold unsignedNumber?
  rw [Text.takeRun_closing isDigit_closing]
  obtain ⟨whole, rest⟩ := Text.takeRun CodePoint.isDigit s
  cases whole with
  | nil => rfl
  | cons d whole =>
    simp only [fraction?_closing]
    cases fraction? rest with
    | none => simp only [Option.map_none, Option.map_some, swallowPoint_closing]
    | some found => simp only [Option.map_some, swallowPoint_closing]

theorem signedNumber?_closing (s : Text) :
    signedNumber? (s ++ txt ")") =
      (signedNumber? s).map fun found => (found.1, found.2.1, found.2.2 ++ txt ")") := by
  cases s with
  | nil => rfl
  | cons c s =>
    have hunsigned := unsignedNumber?_closing (c :: s)
    rw [List.cons_append] at hunsigned ⊢
    simp only [signedNumber?, hunsigned, unsignedNumber?_closing s]
    split
    · simp only [Option.map_map, Function.comp_def]
    · rfl

theorem number_closing (s : Text) :
    number (s ++ txt ")") = (number s).map (Option.map (·.append (txt ")"))) := by
  unfold number
  rw [Text.trimStart_closing, signedNumber?_closing]
  cases signedNumber? s.trimStart with
  | none => rfl
  | some found =>
    obtain ⟨raw, fractional, rest⟩ := found
    simp only [Option.map_some]
    cases numberValue raw fractional with
    | error e => rfl
    | ok value => rfl

/-! ## Strings -/

theorem openingMark?_closing {marks : List Text} (h : ∀ mark ∈ marks, CodePoint.ofChar ')' ∉ mark) (s : Text) :
    openingMark? marks (s ++ txt ")") =
      (openingMark? marks s).map fun found => (found.1, found.2 ++ txt ")") := by
  induction marks with
  | nil => rfl
  | cons mark marks ih =>
    obtain ⟨hmark, hmarks⟩ := List.forall_mem_cons.mp h
    have hrest := ih hmarks
    unfold openingMark? at hrest ⊢
    rw [List.findSome?_cons, List.findSome?_cons, hrest, Text.after?_closing hmark]
    cases mark with
    | nil => rfl
    | cons c mark =>
      cases Text.after? (c :: mark) s with
      | none => rfl
      | some rest => rfl

/-- A parenthesis does not close a string, nor does it end one behind a backslash. -/
theorem splitAtMark?_closing {mark : Text} (hne : mark ≠ []) (h : CodePoint.ofChar ')' ∉ mark) (s : Text) :
    splitAtMark? mark (s ++ txt ")") =
      (splitAtMark? mark s).map fun found => (found.1, found.2 ++ txt ")") := by
  have hafter := fun s => Text.after?_closing h s
  fun_induction splitAtMark? mark s with
  | case1 =>
    have hnone : Text.after? mark [CodePoint.ofChar ')'] = none := by
      have hnil : Text.after? mark [] = none := by
        cases mark with
        | nil => exact absurd rfl hne
        | cons => rfl
      have hempty := hafter []
      rwa [hnil] at hempty
    have hnot : CodePoint.ofChar ')' ≠ '\\' := by decide
    show splitAtMark? mark [CodePoint.ofChar ')'] = none
    unfold splitAtMark?
    rw [if_neg hnot, hnone]
    rfl
  | case2 => rfl
  | case3 e tail ih =>
    rw [List.cons_append, List.cons_append]
    conv_lhs => unfold splitAtMark?
    rw [if_pos rfl]
    simp only [ih, Option.map_map, Function.comp_def]
  | case4 c tail hc after ha =>
    have hclosing := hafter (c :: tail)
    rw [ha, List.cons_append] at hclosing
    rw [List.cons_append]
    unfold splitAtMark?
    rw [if_neg hc, hclosing]
    rfl
  | case5 c tail hc ha ih =>
    have hclosing := hafter (c :: tail)
    rw [ha, List.cons_append] at hclosing
    rw [List.cons_append]
    conv_lhs => unfold splitAtMark?
    rw [if_neg hc, hclosing]
    simp only [Option.map_none, ih, Option.map_map, Function.comp_def]

theorem string_closing (s : Text) :
    string stringMarks (s ++ txt ")") = (string stringMarks s).map (·.append (txt ")")) := by
  have hmarks : ∀ mark ∈ stringMarks, CodePoint.ofChar ')' ∉ mark := by decide
  unfold string
  rw [Text.trimStart_closing, openingMark?_closing hmarks]
  cases hopen : openingMark? stringMarks s.trimStart with
  | none => rfl
  | some found =>
    obtain ⟨mark, body⟩ := found
    obtain ⟨hmem, hne, -⟩ := openingMark?_append hopen
    simp only [Option.map_some, Option.bind_eq_bind, Option.bind_some, splitAtMark?_closing hne (hmarks mark hmem)]
    cases splitAtMark? mark body with
    | none => rfl
    | some found => rfl

/-! ## Words and constants -/

theorem identifier_closing (s : Text) :
    identifier (s ++ txt ")") = (identifier s).map (·.append (txt ")")) := by
  unfold identifier
  rw [Text.trimStart_closing]
  cases s.trimStart with
  | nil => rfl
  | cons c rest =>
    have hword : CodePoint.continuesIdentifier ')' = false := by decide
    have hrun := Text.takeRun_closing hword (c :: rest)
    rw [List.cons_append] at hrun ⊢
    simp only [hrun]
    split
    · rfl
    · rfl

theorem const_closing {value : Text} (h : CodePoint.ofChar ')' ∉ value) (s : Text) :
    const value (s ++ txt ")") = (const value s).map (·.append (txt ")")) := by
  simp only [const, Text.trimStart_closing, Text.after?_closing h, Option.map_map, Function.comp_def, Token.append]

/-- A closing parenthesis is read in its own place, unless only blanks stand there. -/
theorem const_closing_of_not_blank {s : Text} (h : s.isBlank = false) :
    const (txt ")") (s ++ txt ")") = (const (txt ")") s).map (·.append (txt ")")) := by
  simp only [const, Text.trimStart_closing]
  cases hs : s.trimStart with
  | nil =>
    rw [Text.trimStart_eq_nil_iff.mp hs] at h
    cases h
  | cons c front =>
    have hfront : ∀ rest : Text, Text.after? (txt ")") (c :: rest) =
        if CodePoint.ofChar ')' = c then some rest else none := fun _ => rfl
    rw [List.cons_append, hfront, hfront]
    split
    · rfl
    · rfl

theorem keyword_closing (k : Keyword) (s : Text) :
    keyword k (s ++ txt ")") = (keyword k s).map (·.append (txt ")")) := by
  have hword : CodePoint.ofChar ')' ∉ k.text := by cases k <;> decide
  unfold keyword afterWord?
  rw [Text.trimStart_closing, Text.after?_closing hword]
  cases Text.after? k.text s.trimStart with
  | none => rfl
  | some rest =>
    cases rest with
    | nil => rfl
    | cons c rest =>
      simp only [Option.map_some, List.cons_append]
      split
      · rfl
      · rfl

end Scan

/-- No parenthesis is in a plain constant. -/
theorem CodePoint.closing_notMem {value : Text} (h : value.all CodePoint.isPlain = true) :
    CodePoint.ofChar ')' ∉ value :=
  fun hmem => absurd (List.all_eq_true.mp h _ hmem) (by decide)

namespace Terminal

/-- A constant that does the same before a tail makes the same node there. -/
theorem match?_const_append {value s tail : Text} (context : Context)
    (h : Scan.const value (s ++ tail) = (Scan.const value s).map (·.append tail)) :
    match? context (s ++ tail) (.const value) =
      (match? context s (.const value)).map (Option.map (·.append tail)) := by
  rw [match?, match?, h]
  cases Scan.const value s <;> rfl

/-- **A closing parenthesis behind a text** is left by a terminal, and changes nothing else. -/
theorem match?_closing {t : Terminal} (ht : t.isPlain = true) (context : Context) (s : Text) :
    t.match? context (s ++ txt ")") = (t.match? context s).map (Option.map (·.append (txt ")"))) := by
  cases t with
  | number =>
    rw [match?, match?, Scan.number_closing]
    cases Scan.number s with
    | error e => rfl
    | ok found => cases found <;> rfl
  | string marks =>
    have hmarks : marks = stringMarks := by simpa [isPlain] using ht
    subst hmarks
    rw [match?, match?, Scan.string_closing]
    cases Scan.string stringMarks s <;> rfl
  | identifier =>
    rw [match?, match?, Scan.identifier_closing]
    cases Scan.identifier s <;> rfl
  | const value => exact match?_const_append context (Scan.const_closing (CodePoint.closing_notMem ht) s)
  | null =>
    rw [match?, match?, Scan.keyword_closing]
    cases Scan.keyword .null s <;> rfl
  | boolean =>
    rw [match?, match?, Scan.keyword_closing, Scan.keyword_closing]
    cases Scan.keyword .true s <;> cases Scan.keyword .false s <;> rfl
  | undefined =>
    rw [match?, match?, Scan.keyword_closing]
    cases Scan.keyword .undefined s <;> rfl

end Terminal

end Mixfix
