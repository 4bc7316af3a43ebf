import Mixfix.Proofs.Host.Yaml.Apostrophes
import Mixfix.Proofs.Host.Yaml.Plain
import Mixfix.Proofs.Host.Yaml.QuotationMarks
import Mixfix.Host.Yaml.Lexeme

/-!
# Scalars as they are written

A text is written plain, between apostrophes or between quotation marks, and read with its breaks folded
(`ScalarText`).
-/

set_option autoImplicit false

namespace Mixfix.Yaml

variable {c : CodePoint} {s t : Text} {indent : Nat} {isPlain : Bool}

/-- A scalar as it is written, and what it is read as. The flag says that it is plain. -/
inductive ScalarText (indent : Nat) : Bool → Text → Text → Prop
  | plain {t s : Text} : PlainText indent t s → ScalarText indent true t s
  | apostrophes {t s : Text} : Apostrophized indent t s → ScalarText indent false (txt "'" ++ (t ++ txt "'")) s
  | quotationMarks {t s : Text} : Marked indent t s → ScalarText indent false (txt "\"" ++ (t ++ txt "\"")) s

theorem ScalarText.written (h : ScalarText indent isPlain t s) : ∀ c ∈ t, isPlainPoint c = true := by
  have henclosed : ∀ {mark t : Text}, mark.all isPlainPoint = true → (∀ c ∈ t, isPlainPoint c = true) →
      ∀ c ∈ mark ++ (t ++ mark), isPlainPoint c = true := by
    intro mark t hmark ht c hc
    simp only [List.mem_append] at hc
    rcases hc with hc | hc | hc
    · exact List.all_eq_true.mp hmark c hc
    · exact ht c hc
    · exact List.all_eq_true.mp hmark c hc
  cases h with
  | plain h => exact h.written
  | apostrophes h => exact henclosed rfl h.written
  | quotationMarks h => exact henclosed rfl h.written

/-- A text that is written plain looks like a text, and is not empty. -/
theorem plain_of_textStyle {asKey : Bool} (h : textStyle asKey s = .plain) :
    looks s = .text ∧ plainAllowed s = true ∧ s ≠ [] := by
  unfold textStyle at h
  dsimp only at h
  split at h
  · rename_i hplain
    simp only [Bool.and_eq_true, beq_iff_eq] at hplain
    refine ⟨hplain.1.1, hplain.1.2, ?_⟩
    rintro rfl
    cases hplain.1.1
  · split at h <;> cases h

theorem apostrophesAllowed_of_textStyle {asKey : Bool} (h : textStyle asKey s = .apostrophes) :
    apostrophesAllowed s = true := by
  unfold textStyle at h
  dsimp only at h
  split at h
  · cases h
  · split at h
    · rename_i hallowed
      exact (Bool.and_eq_true_iff.mp hallowed).1
    · cases h

theorem not_apostrophesAllowed_of_textStyle {asKey : Bool} (h : textStyle asKey s = .quotationMarks)
    (hline : (asKey && s.any isBreak) = false) : apostrophesAllowed s = false := by
  unfold textStyle at h
  dsimp only at h
  split at h
  · cases h
  · split at h
    · cases h
    · rename_i hnot
      rwa [hline, Bool.not_false, Bool.and_true, Bool.not_eq_true] at hnot

/-- What is written plain has no breaks. -/
theorem foldLines_of_plainAllowed (hne : s ≠ []) (h : plainAllowed s = true) : foldLines s = s := by
  apply foldLines_of_line
  obtain ⟨c, s, rfl⟩ := List.exists_cons_of_ne_nil hne
  obtain ⟨last, hlast⟩ := Option.ne_none_iff_exists'.mp (List.getLast?_eq_none_iff.not.mpr hne)
  unfold plainAllowed at h
  rw [List.head?_cons, hlast] at h
  simp only [Bool.and_eq_true, Bool.not_eq_true'] at h
  exact h.1.1.2

/-- **A text is written as a scalar**, if it has room. -/
theorem exists_scalarText (h : HasRoom indent s) (hpos : 0 < indent) (w : Writer) :
    ∃ t, ScalarText indent (textStyle false s == .plain) t (foldLines s) ∧
      w.Wrote (w.separator ++ t) (w.text false indent s) := by
  unfold Writer.text
  cases hstyle : textStyle false s with
  | plain =>
    obtain ⟨-, hallowed, hne⟩ := plain_of_textStyle hstyle
    obtain ⟨t, ht, -, hwrote⟩ := exists_plainText hne hallowed true indent w
    rw [foldLines_of_plainAllowed hne hallowed]
    exact ⟨t, .plain ht, hwrote⟩
  | apostrophes =>
    have hallowed := apostrophesAllowed_of_textStyle hstyle
    obtain ⟨t, ht, -, hwrote⟩ := exists_apostrophes hallowed true hpos w
    rw [foldLines, if_pos hallowed]
    exact ⟨_, .apostrophes ht, hwrote⟩
  | quotationMarks =>
    have hnot := not_apostrophesAllowed_of_textStyle hstyle rfl
    obtain ⟨t, ht, -, hwrote⟩ :=
      exists_quotationMarks true (fun _ => h.resolve_right (Bool.eq_false_iff.mp hnot)) w
    rw [foldLines, hnot, if_neg Bool.false_ne_true]
    exact ⟨_, .quotationMarks ht, hwrote⟩

/-- A text between two marks is on a line, if it is. -/
theorem enclosed_line {mark : Text} (hmark : mark.any isBreak = false) (ht : ∀ c ∈ t, isBreak c = false) :
    ∀ c ∈ mark ++ (t ++ mark), isBreak c = false := by
  have hmark : ∀ c ∈ mark, isBreak c = false := fun c hc => Bool.eq_false_iff.mpr (List.any_eq_false.mp hmark c hc)
  intro c hc
  simp only [List.mem_append] at hc
  rcases hc with hc | hc | hc
  · exact hmark c hc
  · exact ht c hc
  · exact hmark c hc

/-- **A key that can stand with its value is written on a line**, and its colon is within reach. -/
theorem exists_keyText {key : Text} (hsimple : Writer.isSimpleKey key = true) (h : isKeyable key = true)
    (hpos : 0 < indent) (w : Writer) :
    ∃ t, ScalarText indent (textStyle true key == .plain) t key ∧ (∀ c ∈ t, isBreak c = false) ∧ t.length ≤ keyReach ∧
      w.Wrote (w.separator ++ t) (w.text true indent key) := by
  simp only [Writer.isSimpleKey, Bool.and_eq_true, Bool.not_eq_true'] at hsimple
  obtain ⟨⟨-, hbreaks⟩, hlength⟩ := hsimple
  have hlength : key.length ≤ 122 := of_decide_eq_true hlength
  have hline : ∀ c ∈ key, isBreak c = false := fun c hc => Bool.eq_false_iff.mpr (List.any_eq_false.mp hbreaks c hc)
  have hreach : keyReach = 1024 := rfl
  unfold Writer.text
  cases hstyle : textStyle true key with
  | plain =>
    obtain ⟨-, hallowed, hne⟩ := plain_of_textStyle hstyle
    obtain ⟨t, ht, hsame, hwrote⟩ := exists_plainText hne hallowed false indent w
    obtain rfl := hsame rfl
    exact ⟨_, .plain ht, hline, by omega, hwrote⟩
  | apostrophes =>
    have hallowed := apostrophesAllowed_of_textStyle hstyle
    obtain ⟨t, ht, hsame, hwrote⟩ := exists_apostrophes hallowed false hpos w
    obtain ⟨htline, htlength⟩ := hsame rfl hline
    have hkey : foldBreaks false key = key := by
      have hfolded := foldLines_of_line hbreaks
      rwa [foldLines, if_pos hallowed] at hfolded
    rw [hkey] at ht
    have hmarks : (txt "'" ++ (t ++ txt "'")).length = t.length + 1 + 1 := by
      rw [List.length_append, List.length_append]
      exact Nat.add_comm 1 (t.length + 1)
    exact ⟨_, .apostrophes ht, enclosed_line rfl htline, by omega, hwrote⟩
  | quotationMarks =>
    have hnot := not_apostrophesAllowed_of_textStyle hstyle hbreaks
    rw [isKeyable, hnot, Bool.false_or, Bool.and_eq_true, decide_eq_true_eq] at h
    have hshort : key.length ≤ 100 := h.2
    have hwidth := length_flatMap_shown_le key
    obtain ⟨t, ht, hsame, hwrote⟩ := exists_quotationMarks false (fun hfold => absurd hfold Bool.false_ne_true) w
    obtain rfl := hsame rfl
    have htline : ∀ c ∈ key.flatMap shown, isBreak c = false := by
      intro c hc
      obtain ⟨d, -, hd⟩ := List.mem_flatMap.mp hc
      exact shown_line d c hd
    have hmarks : (txt "\"" ++ (key.flatMap shown ++ txt "\"")).length = (key.flatMap shown).length + 1 + 1 := by
      rw [List.length_append, List.length_append]
      exact Nat.add_comm 1 ((key.flatMap shown).length + 1)
    exact ⟨_, .quotationMarks ht, enclosed_line rfl htline, by omega, hwrote⟩

end Mixfix.Yaml
