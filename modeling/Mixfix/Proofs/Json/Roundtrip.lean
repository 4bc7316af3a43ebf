import Mixfix.Proofs.Json
import Mixfix.Proofs.Json.Double

/-!
# JSON, there and back

What a JSON text tells apart (`Value.Lossless`) is written and read back (`Json.read_write`), on one line or with
any indentation.

A text that is written stands among others, with white space around it. So the reader is followed at any place
and with any rest of the text (`Json.ReadsAs`). The white space before and after a value does not matter to it.
-/

set_option autoImplicit false

namespace Mixfix

/-- Data that a JSON text tells apart: integers that are not too long, doubles that are numbers or infinite, and
maps whose names differ. -/
inductive Value.Lossless : Value → Prop
  | null : Lossless .null
  | bool (b : Bool) : Lossless (.bool b)
  | int {n : Int} : Decimal.digitCount (Decimal.ofInt n) ≤ Decimal.digitLimit → Lossless (.int n)
  | float {x : Float} : Binary64.form x ≠ .nan → Lossless (.float x)
  | str (s : Text) : Lossless (.str s)
  | list {items : List Value} : (∀ v ∈ items, Lossless v) → Lossless (.list items)
  | map {entries : List (Text × Value)} : (Entries.names entries).Nodup → (∀ entry ∈ entries, Lossless entry.2) →
      Lossless (.map entries)

namespace Json

variable {s t rest left gap : Text} {v : Value} {fuel : Nat}

/-! ## White space -/

/-- White space throughout. -/
def IsSpaces (gap : Text) : Prop :=
  gap.all isSpace = true

theorem skipSpace_append_of_spaces (h : IsSpaces gap) (s : Text) : skipSpace (gap ++ s) = skipSpace s := by
  induction gap with
  | nil => rfl
  | cons c gap ih =>
    rw [IsSpaces, List.all_cons, Bool.and_eq_true] at h
    rw [← ih h.2]
    exact List.dropWhile_cons_of_pos h.1

theorem skipSpace_cons {c : CodePoint} (h : isSpace c = false) (s : Text) : skipSpace (c :: s) = c :: s :=
  List.dropWhile_cons_of_neg (Bool.eq_false_iff.mp h)

theorem skipSpace_append (h : skipSpace s ≠ []) (t : Text) : skipSpace (s ++ t) = skipSpace s ++ t := by
  have hempty : (s.dropWhile isSpace).isEmpty = false := by
    rw [List.isEmpty_eq_false_iff]
    exact h
  unfold skipSpace
  rw [List.dropWhile_append, hempty, if_neg Bool.false_ne_true]

/-- White space is neither in a number nor at the front of a scalar. -/
theorem not_scalar_of_isSpace {c : CodePoint} (h : isSpace c = true) :
    continuesNumber c = false ∧ beginsScalar c = false := by
  simp only [isSpace, Bool.or_eq_true, beq_iff_eq] at h
  rcases h with ((rfl | rfl) | rfl) | rfl <;> exact ⟨rfl, rfl⟩

/-- White space is no part of a number. -/
theorem ends_of_spaces (h : IsSpaces gap) (hrest : Ends rest) : Ends (gap ++ rest) := by
  cases gap with
  | nil => exact hrest
  | cons c gap =>
    rw [IsSpaces, List.all_cons, Bool.and_eq_true] at h
    exact (not_scalar_of_isSpace h.1).1

/-! ## Reading at any place -/

/-- A text is read as a value wherever it stands. White space before it is skipped, and some may be left behind
it. -/
def ReadsAs (t : Text) (v : Value) : Prop :=
  ∀ (fuel : Nat) (rest : Text), 2 * t.length ≤ fuel → Ends rest →
    ∃ left, IsSpaces left ∧ readValue fuel (skipSpace (t ++ rest)) = .ok (v, left ++ rest)

theorem skipSpace_of_scalar (h : scalar s = .ok (v, left)) : skipSpace s = s := by
  have hbegins := begins_of_scalar h
  cases s with
  | nil => rfl
  | cons c s =>
    apply skipSpace_cons
    apply Bool.eq_false_iff.mpr
    intro hspace
    exact Bool.false_ne_true ((not_scalar_of_isSpace hspace).2.symm.trans hbegins)

theorem readsAs_of_scalar (h : scalar t = .ok (v, [])) : ReadsAs t v := by
  intro fuel rest hfuel hrest
  have hskip := skipSpace_of_scalar h
  have hne : t ≠ [] := by
    rintro rfl
    cases h
  have hlength := List.length_pos_iff.mpr hne
  obtain ⟨fuel, rfl⟩ := Nat.exists_eq_add_one_of_ne_zero (show fuel ≠ 0 by omega)
  refine ⟨[], rfl, ?_⟩
  rw [skipSpace_append (hskip.symm ▸ hne), hskip]
  exact readValue_of_scalar (scalar_append hrest h) fuel

/-! ## Strings -/

theorem quote_append (s rest : Text) :
    quote false s ++ rest =
      CodePoint.ofChar '"' :: (s.flatMap (quotedPoint false) ++ CodePoint.ofChar '"' :: rest) := by
  unfold quote
  rw [List.append_assoc, List.append_assoc]
  rfl

/-- The rest of a text has enough fuel to read a string at its front. -/
theorem stringRest_of_quote (s rest : Text) :
    stringRest ((s.flatMap (quotedPoint false) ++ CodePoint.ofChar '"' :: rest).length + 1)
      (s.flatMap (quotedPoint false) ++ CodePoint.ofChar '"' :: rest) = .ok (s, rest) := by
  have hlength := length_le_length_quoted s
  apply stringRest_quote
  rw [List.length_append]
  omega

/-- **A text is read as itself** from its form as a string. -/
theorem readsAs_quote (s : Text) : ReadsAs (quote false s) (.str s) := by
  intro fuel rest hfuel _
  have hlength : 0 < (quote false s).length := Nat.succ_pos _
  obtain ⟨fuel, rfl⟩ := Nat.exists_eq_add_one_of_ne_zero (show fuel ≠ 0 by omega)
  refine ⟨[], rfl, ?_⟩
  rw [quote_append, skipSpace_cons (by decide)]
  unfold readValue
  rw [if_pos rfl, stringRest_of_quote]
  rfl

/-! ## Lists -/

/-- What is read does not begin with a bracket that closes. -/
theorem exists_of_readValue (h : readValue fuel s = .ok (v, left)) :
    ∃ c tail, s = c :: tail ∧ c ≠ CodePoint.ofChar ']' := by
  cases fuel with
  | zero => cases h
  | succ fuel =>
    cases s with
    | nil => cases h
    | cons c s =>
      refine ⟨c, s, rfl, ?_⟩
      rintro rfl
      cases h

/-- The fuel for some texts with commas between them is enough for the first, and one less for the others. -/
theorem fuel_of_join {blank first second : Text} {texts : List Text}
    (h : 2 * (Text.join (CodePoint.ofChar ',' :: blank) (first :: second :: texts) ++ gap).length + 2 ≤ fuel + 1) :
    2 * first.length ≤ fuel ∧
      2 * (Text.join (CodePoint.ofChar ',' :: blank) (second :: texts) ++ gap).length + 2 ≤ fuel := by
  rw [Text.join_cons _ _ (List.cons_ne_nil second texts)] at h
  simp only [List.length_append, List.length_cons] at h ⊢
  omega

/-- Items that read as some values are read as their list, with commas between them and white space at will. -/
theorem readItems_join {blank : Text} (hblank : IsSpaces blank) (hgap : IsSpaces gap) {texts : List Text}
    {values : List Value} (h : List.Forall₂ ReadsAs texts values) (hne : texts ≠ [])
    (hfuel : 2 * (Text.join (CodePoint.ofChar ',' :: blank) texts ++ gap).length + 2 ≤ fuel) (rest : Text) :
    readItems fuel (skipSpace (Text.join (CodePoint.ofChar ',' :: blank) texts ++
      (gap ++ CodePoint.ofChar ']' :: rest))) = .ok (values, rest) := by
  induction h generalizing fuel with
  | nil => exact absurd rfl hne
  | @cons text value texts values hvalue hrest ih =>
    obtain ⟨fuel, rfl⟩ := Nat.exists_eq_add_one_of_ne_zero (show fuel ≠ 0 by omega)
    cases hrest with
    | nil =>
      have hclosing : Ends (gap ++ CodePoint.ofChar ']' :: rest) := ends_of_spaces hgap rfl
      change 2 * (text ++ gap).length + 2 ≤ fuel + 1 at hfuel
      rw [List.length_append] at hfuel
      obtain ⟨left, hleft, hread⟩ := hvalue fuel _ (by omega) hclosing
      change readItems (fuel + 1) (skipSpace (text ++ _)) = _
      unfold readItems
      rw [hread, ok_bind]
      dsimp only
      rw [skipSpace_append_of_spaces hleft, skipSpace_append_of_spaces hgap, skipSpace_cons (by decide)]
      rfl
    | @cons second value' texts' values' =>
      obtain ⟨hfirst, hothers⟩ := fuel_of_join hfuel
      have hmore := ih (List.cons_ne_nil second texts') hothers
      rw [Text.join_cons _ _ (List.cons_ne_nil second texts')]
      generalize Text.join (CodePoint.ofChar ',' :: blank) (second :: texts') = joined at hmore ⊢
      have hsplit : text ++ (CodePoint.ofChar ',' :: blank ++ joined) ++ (gap ++ CodePoint.ofChar ']' :: rest) =
          text ++ CodePoint.ofChar ',' :: (blank ++ (joined ++ (gap ++ CodePoint.ofChar ']' :: rest))) := by
        simp only [List.append_assoc, List.cons_append]
      obtain ⟨left, hleft, hread⟩ := hvalue fuel
        (CodePoint.ofChar ',' :: (blank ++ (joined ++ (gap ++ CodePoint.ofChar ']' :: rest)))) hfirst rfl
      rw [hsplit]
      unfold readItems
      rw [hread, ok_bind]
      dsimp only
      rw [skipSpace_append_of_spaces hleft, skipSpace_cons (by decide)]
      dsimp only
      rw [if_neg (by decide), if_pos rfl, skipSpace_append_of_spaces hblank, hmore]
      rfl

/-! ## Maps -/

/-- An entry as it stands in a text. -/
def EntryReadsAs (t : Text) (entry : Text × Value) : Prop :=
  ∃ written, t = quote false entry.1 ++ (txt ": " ++ written) ∧ ReadsAs written entry.2

/-- The name of an entry is read, and its value after the colon. -/
theorem readEntries_name (fuel : Nat) (name after : Text) :
    readEntries (fuel + 1) (quote false name ++ (txt ": " ++ after)) = (do
      let (value, rest) ← readValue fuel (skipSpace after)
      match skipSpace rest with
      | [] => throw .malformed
      | d :: rest =>
        if d = '\x7d' then return ([(name, value)], rest)
        else if d = ',' then
          let (entries, rest) ← readEntries fuel (skipSpace rest)
          return ((name, value) :: entries, rest)
        else throw .malformed) := by
  rw [quote_append]
  conv_lhs => unfold readEntries
  rw [if_neg (not_not_intro rfl), stringRest_of_quote]
  rfl

theorem skipSpace_quote (name after : Text) : skipSpace (quote false name ++ after) = quote false name ++ after := by
  rw [quote_append]
  exact skipSpace_cons (by decide) _

/-- Entries that read as some are read as them, with commas between them and white space at will. -/
theorem readEntries_join {blank : Text} (hblank : IsSpaces blank) (hgap : IsSpaces gap) {texts : List Text}
    {entries : List (Text × Value)} (h : List.Forall₂ EntryReadsAs texts entries) (hne : texts ≠ [])
    (hfuel : 2 * (Text.join (CodePoint.ofChar ',' :: blank) texts ++ gap).length + 2 ≤ fuel) (rest : Text) :
    readEntries fuel (skipSpace (Text.join (CodePoint.ofChar ',' :: blank) texts ++
      (gap ++ CodePoint.ofChar '\x7d' :: rest))) = .ok (entries, rest) := by
  induction h generalizing fuel with
  | nil => exact absurd rfl hne
  | @cons text entry texts entries hentry hrest ih =>
    obtain ⟨name, value⟩ := entry
    obtain ⟨written, rfl, hvalue⟩ := hentry
    obtain ⟨fuel, rfl⟩ := Nat.exists_eq_add_one_of_ne_zero (show fuel ≠ 0 by omega)
    cases hrest with
    | nil =>
      have hclosing : Ends (gap ++ CodePoint.ofChar '\x7d' :: rest) := ends_of_spaces hgap rfl
      change 2 * (quote false name ++ (txt ": " ++ written) ++ gap).length + 2 ≤ fuel + 1 at hfuel
      simp only [List.length_append] at hfuel
      obtain ⟨left, hleft, hread⟩ := hvalue fuel _ (by omega) hclosing
      change readEntries (fuel + 1) (skipSpace (quote false name ++ (txt ": " ++ written) ++ _)) = _
      rw [List.append_assoc, List.append_assoc, skipSpace_quote, readEntries_name, hread, ok_bind]
      dsimp only
      rw [skipSpace_append_of_spaces hleft, skipSpace_append_of_spaces hgap, skipSpace_cons (by decide)]
      rfl
    | @cons second entry' texts' entries' =>
      obtain ⟨hfirst, hothers⟩ := fuel_of_join hfuel
      simp only [List.length_append] at hfirst
      have hmore := ih (List.cons_ne_nil second texts') hothers
      rw [Text.join_cons _ _ (List.cons_ne_nil second texts')]
      generalize Text.join (CodePoint.ofChar ',' :: blank) (second :: texts') = joined at hmore ⊢
      have hsplit : quote false name ++ (txt ": " ++ written) ++ (CodePoint.ofChar ',' :: blank ++ joined) ++
            (gap ++ CodePoint.ofChar '\x7d' :: rest) =
          quote false name ++ (txt ": " ++ (written ++
            CodePoint.ofChar ',' :: (blank ++ (joined ++ (gap ++ CodePoint.ofChar '\x7d' :: rest))))) := by
        simp only [List.append_assoc, List.cons_append]
      obtain ⟨left, hleft, hread⟩ := hvalue fuel
        (CodePoint.ofChar ',' :: (blank ++ (joined ++ (gap ++ CodePoint.ofChar '\x7d' :: rest)))) (by omega) rfl
      rw [hsplit, skipSpace_quote, readEntries_name, hread, ok_bind]
      dsimp only
      rw [skipSpace_append_of_spaces hleft, skipSpace_cons (by decide)]
      dsimp only
      rw [if_neg (by decide), if_pos rfl, skipSpace_append_of_spaces hblank, hmore]
      rfl

/-! ## Layouts -/

theorem isSpaces_lineStart (layout : Layout) (depth : Nat) : IsSpaces (layout.lineStart depth) := by
  unfold Layout.lineStart
  cases layout.indent with
  | none => rfl
  | some step =>
    apply List.all_eq_true.mpr
    intro c hc
    rcases List.mem_cons.mp hc with rfl | hc
    · rfl
    · obtain ⟨-, rfl⟩ := List.mem_replicate.mp hc
      rfl

/-- What stands between two items is a comma with white space after it. -/
theorem exists_separator (layout : Layout) (depth : Nat) :
    ∃ blank, IsSpaces blank ∧ layout.separator depth = CodePoint.ofChar ',' :: blank := by
  have hspaces := isSpaces_lineStart layout depth
  unfold Layout.separator
  cases layout.indent with
  | none => exact ⟨[CodePoint.ofChar ' '], rfl, rfl⟩
  | some step => exact ⟨layout.lineStart depth, hspaces, rfl⟩

/-- The text of a bracket with something in it: what is in it follows after white space, and leaves fuel for the
bracket. -/
theorem exists_bracketed (layout : Layout) (depth : Nat) {opening closing : String} {o c : CodePoint}
    (hopening : txt opening = [o]) (hclosing : txt closing = [c]) {texts : List Text} (hne : texts ≠ [])
    (hfuel : 2 * (layout.bracketed depth opening closing texts).length ≤ fuel) (rest : Text) :
    ∃ inner blank gap fuel', fuel = fuel' + 1 ∧ IsSpaces blank ∧ IsSpaces gap ∧
      2 * (Text.join (CodePoint.ofChar ',' :: blank) texts ++ gap).length + 2 ≤ fuel' ∧
      layout.bracketed depth opening closing texts ++ rest = o :: inner ∧
      skipSpace inner = skipSpace (Text.join (CodePoint.ofChar ',' :: blank) texts ++ (gap ++ c :: rest)) := by
  obtain ⟨blank, hblank, hseparator⟩ := exists_separator layout (depth + 1)
  have hbrackets : layout.bracketed depth opening closing texts =
      o :: (layout.lineStart (depth + 1) ++ (Text.join (CodePoint.ofChar ',' :: blank) texts ++
        (layout.lineStart depth ++ [c]))) := by
    unfold Layout.bracketed
    rw [if_neg (by simpa using hne), hseparator, hopening, hclosing]
    simp
  rw [hbrackets] at hfuel ⊢
  simp only [List.length_cons, List.length_append, List.length_nil] at hfuel
  obtain ⟨fuel, rfl⟩ := Nat.exists_eq_add_one_of_ne_zero (show fuel ≠ 0 by omega)
  refine ⟨layout.lineStart (depth + 1) ++ (Text.join (CodePoint.ofChar ',' :: blank) texts ++
    (layout.lineStart depth ++ c :: rest)), blank, layout.lineStart depth, fuel, rfl, hblank,
    isSpaces_lineStart layout depth, ?_, ?_, skipSpace_append_of_spaces (isSpaces_lineStart layout (depth + 1)) _⟩
  · rw [List.length_append]
    omega
  · simp only [List.cons_append, List.append_assoc, List.nil_append]

/-- Items do not begin with the bracket that closes their list. -/
theorem exists_of_readItems {values : List Value} (h : readItems fuel s = .ok (values, left)) :
    ∃ c tail, s = c :: tail ∧ c ≠ CodePoint.ofChar ']' := by
  cases fuel with
  | zero => cases h
  | succ fuel =>
    obtain ⟨⟨value, after⟩, hvalue, -⟩ := bind_eq_ok.mp h
    exact exists_of_readValue hvalue

/-- Entries begin with the mark of a string. -/
theorem exists_of_readEntries {entries : List (Text × Value)} (h : readEntries fuel s = .ok (entries, left)) :
    ∃ tail, s = CodePoint.ofChar '"' :: tail := by
  cases fuel with
  | zero => cases h
  | succ fuel =>
    cases s with
    | nil => cases h
    | cons q s =>
      by_cases hquote : q = CodePoint.ofChar '"'
      · exact ⟨s, hquote ▸ rfl⟩
      · unfold readEntries at h
        rw [if_pos hquote] at h
        cases h

theorem readsAs_list {layout : Layout} {depth : Nat} {texts : List Text} {items : List Value}
    (h : List.Forall₂ ReadsAs texts items) : ReadsAs (layout.bracketed depth "[" "]" texts) (.list items) := by
  intro fuel rest hfuel _
  refine ⟨[], rfl, ?_⟩
  by_cases hne : texts = []
  · subst hne
    cases h
    change 4 ≤ fuel at hfuel
    obtain ⟨fuel, rfl⟩ := Nat.exists_eq_add_one_of_ne_zero (show fuel ≠ 0 by omega)
    rfl
  · have hopening : txt "[" = [CodePoint.ofChar '['] := rfl
    have hclosing : txt "]" = [CodePoint.ofChar ']'] := rfl
    obtain ⟨inner, blank, gap, fuel, rfl, hblank, hgap, hfuel, htext, hskip⟩ :=
      exists_bracketed layout depth hopening hclosing hne hfuel rest
    have hitems := readItems_join hblank hgap h hne hfuel rest
    obtain ⟨c, tail, htail, hc⟩ := exists_of_readItems hitems
    rw [htail] at hskip hitems
    rw [htext, skipSpace_cons (by decide)]
    unfold readValue
    rw [if_neg (by decide), if_pos rfl, hskip]
    dsimp only
    rw [if_neg hc, hitems]
    rfl

theorem readsAs_map {layout : Layout} {depth : Nat} {texts : List Text} {entries : List (Text × Value)}
    (hnodup : (Entries.names entries).Nodup) (h : List.Forall₂ EntryReadsAs texts entries) :
    ReadsAs (layout.bracketed depth "\x7b" "\x7d" texts) (.map entries) := by
  intro fuel rest hfuel _
  refine ⟨[], rfl, ?_⟩
  by_cases hne : texts = []
  · subst hne
    cases h
    change 4 ≤ fuel at hfuel
    obtain ⟨fuel, rfl⟩ := Nat.exists_eq_add_one_of_ne_zero (show fuel ≠ 0 by omega)
    rfl
  · have hopening : txt "\x7b" = [CodePoint.ofChar '\x7b'] := rfl
    have hclosing : txt "\x7d" = [CodePoint.ofChar '\x7d'] := rfl
    obtain ⟨inner, blank, gap, fuel, rfl, hblank, hgap, hfuel, htext, hskip⟩ :=
      exists_bracketed layout depth hopening hclosing hne hfuel rest
    have hentries := readEntries_join hblank hgap h hne hfuel rest
    obtain ⟨tail, htail⟩ := exists_of_readEntries hentries
    rw [htail] at hskip hentries
    rw [htext, skipSpace_cons (by decide)]
    unfold readValue
    rw [if_neg (by decide), if_neg (by decide), if_pos rfl, hskip]
    dsimp only
    rw [if_neg (by decide), hentries, ok_bind, Entries.ofList_of_nodup hnodup]
    rfl

/-! ## Values -/

section

variable {layout : Layout} {depth : Nat}

theorem writeItems_of_forall₂ {items : List Value} {texts : List Text}
    (h : List.Forall₂ (fun v t => writeAt layout depth v = .ok t) items texts) :
    writeItems layout depth items = .ok texts := by
  induction h with
  | nil => rfl
  | cons hfirst _ ih =>
    rw [writeItems, hfirst, ok_bind, ih]
    rfl

/-- An entry in its place. -/
def WritesEntry (layout : Layout) (depth : Nat) (entry : Text × Value) (t : Text) : Prop :=
  ∃ written, writeAt layout depth entry.2 = .ok written ∧ t = quote layout.ascii entry.1 ++ txt ": " ++ written

theorem writeEntries_of_forall₂ {entries : List (Text × Value)} {texts : List Text}
    (h : List.Forall₂ (WritesEntry layout depth) entries texts) : writeEntries layout depth entries = .ok texts := by
  induction h with
  | nil => rfl
  | cons hfirst _ ih =>
    obtain ⟨written, hwritten, rfl⟩ := hfirst
    rw [writeEntries, hwritten, ok_bind, ih]
    rfl

/-- **What a JSON text tells apart is written**, and its text is read as it wherever it stands. -/
theorem exists_writeAt (hascii : layout.ascii = false) (h : v.Lossless) (depth : Nat) :
    ∃ t, writeAt layout depth v = .ok t ∧ ReadsAs t v := by
  induction h generalizing depth with
  | null => exact ⟨txt "null", rfl, readsAs_of_scalar rfl⟩
  | bool b =>
    cases b with
    | true => exact ⟨txt "true", rfl, readsAs_of_scalar rfl⟩
    | false => exact ⟨txt "false", rfl, readsAs_of_scalar rfl⟩
  | @int n hshort =>
    have hwrite : Decimal.writeInt n = .ok (Decimal.ofInt n) := if_pos hshort
    refine ⟨Decimal.ofInt n, ?_, readsAs_of_scalar (scalar_ofInt hshort)⟩
    rw [writeAt, writeInteger, hwrite]
  | @float x hx => exact ⟨writeDouble x, rfl, readsAs_of_scalar (scalar_writeDouble hx)⟩
  | str s =>
    refine ⟨quote false s, ?_, readsAs_quote s⟩
    rw [writeAt, hascii]
  | @list items _ ih =>
    obtain ⟨texts, htexts⟩ := exists_forall₂ fun v hv => ih v hv (depth + 1)
    refine ⟨layout.bracketed depth "[" "]" texts, ?_, readsAs_list (htexts.flip.imp fun _ _ h => h.2)⟩
    rw [writeAt, writeItems_of_forall₂ (htexts.imp fun _ _ h => h.1)]
    rfl
  | @map entries hnodup _ ih =>
    have hentries : ∀ entry ∈ entries,
        ∃ t, WritesEntry layout (depth + 1) entry t ∧ EntryReadsAs t entry := by
      intro entry hentry
      obtain ⟨written, hwritten, hreads⟩ := ih entry hentry (depth + 1)
      refine ⟨_, ⟨written, hwritten, rfl⟩, written, ?_, hreads⟩
      rw [hascii, List.append_assoc]
    obtain ⟨texts, htexts⟩ := exists_forall₂ hentries
    refine ⟨layout.bracketed depth "\x7b" "\x7d" texts, ?_, readsAs_map hnodup (htexts.flip.imp fun _ _ h => h.2)⟩
    rw [writeAt, writeEntries_of_forall₂ (htexts.imp fun _ _ h => h.1)]
    rfl

end

/-- **JSON loses nothing** of what it tells apart, however it is laid out. -/
theorem read_write {layout : Layout} (hascii : layout.ascii = false) (h : v.Lossless) :
    ∃ s, write layout v = .ok s ∧ read s = .ok v := by
  obtain ⟨s, hwrite, hreads⟩ := exists_writeAt hascii h 0
  refine ⟨s, hwrite, ?_⟩
  obtain ⟨left, hleft, hread⟩ := hreads (2 * s.length + 2) [] (Nat.le_add_right _ 2) rfl
  have hnone : skipSpace left = [] := by
    have hskip := skipSpace_append_of_spaces hleft []
    rwa [List.append_nil] at hskip
  rw [List.append_nil, List.append_nil] at hread
  unfold read
  rw [hread, ok_bind]
  dsimp only
  rw [hnone]
  rfl

end Json

end Mixfix
