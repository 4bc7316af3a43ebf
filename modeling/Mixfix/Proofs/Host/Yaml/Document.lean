import Mixfix.Proofs.Host.Yaml.Block
import Mixfix.Host.Yaml.Node

/-!
# Documents, there and back

A document is written as entries whose lexemes are read as the nodes that it is made of (`Tree.Fits.readsBack`). The
lexemes are chosen before the text: they do not depend on where the writer is, but the line breaks do.
-/

set_option autoImplicit false

namespace Mixfix.Yaml

variable {s : Text} {m : Nat} {isPlain : Bool} {ls : List Lexeme} {content key value : Content}
  {entries : List (Content × Content)}

/-! ## Nodes -/

/-- Some lexemes are read as a node outside of brackets, whatever follows. -/
structure ReadsNode (ls : List Lexeme) (content : Content) : Prop where
  start : ∃ l ls', ls = l :: ls' ∧ endsEntry l = false
  reads : ∀ {handles : Entries Text} {position : Position} {rest : List Lexeme} {fuel : Nat}, position ≠ .bracket →
    4 * ls.length ≤ fuel → node handles position fuel ⟨ls ++ rest, []⟩ = .ok (content, ⟨rest, []⟩)

/-- Some lexemes are read as the entries of a map in block layout. -/
def ReadsMap (ls : List Lexeme) (entries : List (Content × Content)) : Prop :=
  ∀ handles rest fuel, 4 * ls.length < fuel →
    blockEntries handles fuel ⟨ls ++ .blockEnd :: rest, []⟩ = .ok (entries, ⟨rest, []⟩)

/-- What a scalar is if nothing is said about it. -/
def scalarContent (isPlain : Bool) (s : Text) : Content :=
  .scalar (Claim.none.ofScalar isPlain s) s

theorem readsNode_scalar (isPlain : Bool) (s : Text) : ReadsNode [.scalar isPlain s] (scalarContent isPlain s) := by
  refine ⟨⟨_, _, rfl, rfl⟩, ?_⟩
  intro handles position rest fuel _ hfuel
  obtain ⟨fuel, rfl⟩ : ∃ n, fuel = n + 2 := ⟨fuel - 2, by simp only [List.length_singleton] at hfuel; omega⟩
  cases position <;> rfl

section

variable {handles : Entries Text} {position : Position} {fuel : Nat}

theorem node_blockMap (fuel : Nat) (ls : List Lexeme) :
    node handles position (fuel + 1) ⟨.blockMap :: ls, []⟩ = (do
      let (node, rest) ← bare handles position ⟨none, none⟩ .none fuel ⟨.blockMap :: ls, []⟩
      return (node, ← rest.anchor none node)) := rfl

theorem bare_blockMap (h : position ≠ .bracket) (fuel : Nat) (ls : List Lexeme) :
    bare handles position ⟨none, none⟩ .none (fuel + 1) ⟨.blockMap :: ls, []⟩ = (do
      let (entries, rest) ← blockEntries handles fuel ⟨ls, []⟩
      return (.map .map entries, rest)) := by
  cases position with
  | bracket => exact absurd rfl h
  | item => rfl
  | entry => rfl

theorem blockEntries_key (fuel : Nat) (ls : List Lexeme) :
    blockEntries handles (fuel + 1) ⟨.key :: ls, []⟩ = (do
      let (key, rest) ← nodeUnless handles .entry endsEntry fuel ⟨ls, []⟩
      let (value, rest) ← valueUnless handles .entry endsEntry fuel rest
      let (entries, rest) ← blockEntries handles fuel rest
      return ((key, value) :: entries, rest)) := rfl

theorem valueUnless_value (fuel : Nat) (ls : List Lexeme) :
    valueUnless handles .entry endsEntry (fuel + 2) ⟨.value :: ls, []⟩ =
      if Rest.meets endsEntry ⟨ls, []⟩ then .ok (.missing, ⟨ls, []⟩) else node handles .entry fuel ⟨ls, []⟩ := rfl

end

/-- A map is read from its lexemes. -/
theorem ReadsMap.readsNode (h : ReadsMap ls entries) : ReadsNode (mapLexemes ls) (.map .map entries) := by
  refine ⟨⟨_, _, rfl, rfl⟩, ?_⟩
  intro handles position rest fuel hposition hfuel
  simp only [mapLexemes, List.length_cons, List.length_append] at hfuel
  obtain ⟨fuel, rfl⟩ : ∃ n, fuel = n + 2 := ⟨fuel - 2, by omega⟩
  have hread : blockEntries handles fuel ⟨ls ++ .blockEnd :: rest, []⟩ = .ok (entries, ⟨rest, []⟩) := h _ _ _ (by omega)
  have hlexemes : mapLexemes ls ++ rest = .blockMap :: (ls ++ .blockEnd :: rest) := by
    rw [mapLexemes, List.cons_append, List.append_assoc]
    rfl
  rw [hlexemes, node_blockMap, bare_blockMap hposition, hread]
  rfl

theorem ReadsMap.nil : ReadsMap [] [] := by
  intro handles rest fuel hfuel
  obtain ⟨fuel, rfl⟩ := Nat.exists_eq_add_one_of_ne_zero (Nat.ne_zero_of_lt hfuel)
  rfl

/-- An entry is read before the others. -/
theorem ReadsMap.cons {s : Text} {ls' : List Lexeme} (isPlain : Bool) (hvalue : ReadsNode ls value)
    (h : ReadsMap ls' entries) :
    ReadsMap (entryLexemes isPlain s ls ++ ls') ((scalarContent isPlain s, value) :: entries) := by
  intro handles rest fuel hfuel
  simp only [entryLexemes, List.cons_append, List.append_assoc, List.length_cons, List.length_append] at hfuel ⊢
  obtain ⟨fuel, rfl⟩ : ∃ n, fuel = n + 3 := ⟨fuel - 3, by omega⟩
  let tail := ls' ++ .blockEnd :: rest
  have hkey : nodeUnless handles .entry endsEntry (fuel + 2) ⟨.scalar isPlain s :: .value :: (ls ++ tail), []⟩ =
      .ok (scalarContent isPlain s, ⟨.value :: (ls ++ tail), []⟩) :=
    (readsNode_scalar isPlain s).reads (by decide) (show 4 * 1 ≤ fuel + 1 by omega)
  have hread :
      valueUnless handles .entry endsEntry (fuel + 2) ⟨.value :: (ls ++ tail), []⟩ = .ok (value, ⟨tail, []⟩) := by
    have hnode : node handles .entry fuel ⟨ls ++ tail, []⟩ = .ok (value, ⟨tail, []⟩) :=
      hvalue.reads (by decide) (by omega)
    have hmeets : Rest.meets endsEntry ⟨ls ++ tail, []⟩ = false := by
      obtain ⟨l, ls, rfl, hl⟩ := hvalue.start
      exact hl
    rw [valueUnless_value, hmeets, if_neg Bool.false_ne_true, hnode]
  have hentries : blockEntries handles (fuel + 2) ⟨tail, []⟩ = .ok (entries, ⟨rest, []⟩) := h _ _ _ (by omega)
  rw [blockEntries_key, hkey, ok_bind]
  dsimp only
  rw [hread, ok_bind]
  dsimp only
  rw [hentries]
  rfl

/-! ## Trees -/

mutual
/-- What a document is read as. -/
def Tree.content : Tree → Content
  | .plain s => .plain s
  | .text s => .scalar (.scalar .text) (foldLines s)
  | .list items => .list .list (itemContents items)
  | .map entries => .map .map (entryContents entries)

/-- What each item is read as. -/
def itemContents : List Tree → List Content
  | [] => []
  | item :: rest => item.content :: itemContents rest

/-- What the key and the value of each entry are read as. -/
def entryContents : List (Text × Tree) → List (Content × Content)
  | [] => []
  | (key, value) :: rest => (.scalar (.scalar .text) key, value.content) :: entryContents rest
end

/-- A document of scalars and maps that fits, as a value in a map at a column. -/
inductive Tree.Fits : Nat → Tree → Prop
  | plain {m : Nat} {s : Text} : s ≠ [] → plainAllowed s = true → Fits m (.plain s)
  | text {m : Nat} {s : Text} : HasRoom (m + 2) s → Fits m (.text s)
  | map {m : Nat} {entries : List (Text × Tree)} : entries ≠ [] →
      (∀ entry ∈ entries, isKeyable entry.1 = true ∧ HasRoom (m + 4) entry.1) →
      (∀ entry ∈ entries, Fits (m + 2) entry.2) → Fits m (.map entries)

/-- A text is no plain scalar that looks like something else. -/
theorem scalarContent_text (asKey : Bool) (s : Text) :
    scalarContent (textStyle asKey s == .plain) (foldLines s) = .scalar (.scalar .text) (foldLines s) := by
  cases hstyle : textStyle asKey s with
  | plain =>
    obtain ⟨hlooks, hallowed, hne⟩ := plain_of_textStyle hstyle
    rw [foldLines_of_plainAllowed hne hallowed]
    change Content.scalar (.scalar (looks s)) s = _
    rw [hlooks]
  | apostrophes => rfl
  | quotationMarks => rfl

/-- The writer has put the colon of an entry of a map at a column. The flag says that the colon stands at the front of
its line, and not after a key. -/
structure Writer.AfterColon (m : Nat) (inFront : Bool) (w : Writer) : Prop where
  spaced : w.spaced = false
  fresh : w.fresh = inFront
  column : inFront = true → w.column = m + 1

/-- Whether a key is written plain. -/
def isPlainKey (key : Text) : Bool :=
  textStyle (Writer.isSimpleKey key) key == .plain

/-- A key is written, after a gap, such that it begins an entry. -/
def Writer.BeginsEntry (m : Nat) (key gap : Text) (w : Writer) : Prop :=
  ∃ inFront front, (w.key m key).AfterColon m inFront ∧ (w.key m key).reversed = (gap ++ front).reverse ++ w.reversed ∧
    ∀ t ls, ReadsValue m inFront t ls → ReadsEntries m (front ++ t) (entryLexemes (isPlainKey key) key ls)

section

variable {key gap : Text} {w : Writer}

/-- A key on the line with its value. -/
theorem beginsEntry_simple (hsimple : Writer.isSimpleKey key = true) (h : isKeyable key = true)
    (hgap : w.indentTo m = ⟨gap.reverse ++ w.reversed, m, true, true⟩) : w.BeginsEntry m key gap := by
  obtain ⟨t, ht, hline, hreach, hwrote⟩ := exists_keyText hsimple h (Nat.succ_pos (m + 1)) (w.indentTo m)
  have hkey : w.key m key = ((w.indentTo m).text true (m + 2) key).mark ":" false false false := if_pos hsimple
  have hseparator : (w.indentTo m).separator = [] := by
    rw [hgap]
    rfl
  unfold Writer.BeginsEntry isPlainKey
  rw [hsimple]
  refine ⟨false, t ++ txt ":", ⟨?_, ?_, nofun⟩, ?_, ?_⟩
  · rw [hkey]
    rfl
  · rw [hkey]
    exact Bool.and_false _
  · rw [hkey, Writer.mark_reversed_close, hwrote.reversed, hseparator, hgap]
    simp only [List.reverse_append, List.append_assoc, List.nil_append]
  · intro t' ls hvalue
    rw [List.append_assoc]
    exact .simple ht hline hreach hvalue

/-- A key after a question mark, with the colon on the next line. -/
theorem beginsEntry_marked (hsimple : Writer.isSimpleKey key = false) (h : isKeyable key = true)
    (hroom : HasRoom (m + 2) key) (hgap : w.indentTo m = ⟨gap.reverse ++ w.reversed, m, true, true⟩) :
    w.BeginsEntry m key gap := by
  have hnot : ¬Writer.isSimpleKey key = true := Bool.eq_false_iff.mp hsimple
  let question := (w.indentTo m).mark "?" true false true
  obtain ⟨t, ht, hwrote⟩ := exists_scalarText hroom (Nat.succ_pos (m + 1)) question
  rw [foldLines_of_isKeyable h] at ht
  have hkey : w.key m key = ((question.text false (m + 2) key).indentTo m).mark ":" true false true := if_neg hnot
  have hquestion : question = ⟨CodePoint.ofChar '?' :: (gap.reverse ++ w.reversed), m + 1, false, true⟩ := by
    change (w.indentTo m).mark "?" true false true = _
    rw [hgap]
    rfl
  have hindent : (question.text false (m + 2) key).indentTo m =
      ⟨(lineStart m).reverse ++ (question.text false (m + 2) key).reversed, m, true, true⟩ :=
    Writer.indentTo_break (.inl hwrote.fresh)
  have hreversed : ((question.text false (m + 2) key).indentTo m).reversed =
      (gap ++ CodePoint.ofChar '?' :: CodePoint.ofChar ' ' :: (t ++ lineStart m)).reverse ++ w.reversed := by
    have hseparator : question.separator = txt " " := by
      rw [hquestion]
      rfl
    rw [hindent, hwrote.reversed, hseparator, hquestion]
    simp only [List.reverse_append, List.reverse_cons, List.append_assoc]
    rfl
  unfold Writer.BeginsEntry isPlainKey
  rw [hsimple]
  refine ⟨true, CodePoint.ofChar '?' :: CodePoint.ofChar ' ' :: (t ++ (lineStart m ++ txt ":")), ⟨?_, ?_, ?_⟩, ?_, ?_⟩
  · rw [hkey]
    rfl
  · rw [hkey, hindent]
    rfl
  · intro _
    rw [hkey, hindent]
    rfl
  · have hseparator : ((question.text false (m + 2) key).indentTo m).separator = [] := by
      rw [hindent]
      rfl
    rw [hkey, Writer.mark_reversed, hseparator, hreversed]
    simp only [List.reverse_append, List.reverse_cons, List.append_assoc, List.nil_append]
  · intro t' ls hvalue
    have hreads := ReadsEntries.marked ht hvalue
    simp only [List.cons_append, List.append_assoc]
    exact hreads

/-- **A key that can be read back begins an entry.** -/
theorem beginsEntry (h : isKeyable key = true) (hroom : HasRoom (m + 2) key)
    (hgap : w.indentTo m = ⟨gap.reverse ++ w.reversed, m, true, true⟩) : w.BeginsEntry m key gap := by
  cases hsimple : Writer.isSimpleKey key with
  | true => exact beginsEntry_simple hsimple h hgap
  | false => exact beginsEntry_marked hsimple h hroom hgap

end

/-- What is put after a colon is read as a document. -/
def Tree.ReadsBack (m : Nat) (tree : Tree) : Prop :=
  ∃ ls, ReadsNode ls tree.content ∧ ∀ (inFront : Bool) (w : Writer), w.AfterColon m inFront →
    ∃ t, ReadsValue m inFront t ls ∧ w.Wrote t (w.tree m true tree)

/-- **The entries of a map are written**, after a gap that leads to their column, such that they are read as what they
are. -/
theorem exists_entriesText {entries : List (Text × Tree)} (hne : entries ≠ [])
    (hkeys : ∀ entry ∈ entries, isKeyable entry.1 = true ∧ HasRoom (m + 2) entry.1)
    (hvalues : ∀ entry ∈ entries, entry.2.ReadsBack m) :
    ∃ ls, ReadsMap ls (entryContents entries) ∧ ∀ (w : Writer) (gap : Text),
      w.indentTo m = ⟨gap.reverse ++ w.reversed, m, true, true⟩ →
      ∃ t, ReadsEntries m t ls ∧ w.Wrote (gap ++ t) (Writer.mapEntries m entries w) := by
  induction entries with
  | nil => exact absurd rfl hne
  | cons entry entries ih =>
    obtain ⟨key, value⟩ := entry
    obtain ⟨⟨hkey, hroom⟩, hkeys⟩ := List.forall_mem_cons.mp hkeys
    obtain ⟨⟨ls, hls, hvalue⟩, hvalues⟩ := List.forall_mem_cons.mp hvalues
    have hcons : ∀ {ls' : List Lexeme}, ReadsMap ls' (entryContents entries) →
        ReadsMap (entryLexemes (isPlainKey key) key ls ++ ls') (entryContents ((key, value) :: entries)) := by
      intro ls' hls'
      have hmap := hls'.cons (s := key) (isPlainKey key) hls
      have htext := scalarContent_text (Writer.isSimpleKey key) key
      rw [foldLines_of_isKeyable hkey] at htext
      rwa [isPlainKey, htext] at hmap
    -- an entry is written the same way whether others follow it or not
    have hentry : ∀ {w : Writer} {gap : Text}, w.indentTo m = ⟨gap.reverse ++ w.reversed, m, true, true⟩ →
        ∃ t, ReadsEntries m t (entryLexemes (isPlainKey key) key ls) ∧
          w.Wrote (gap ++ t) ((w.key m key).tree m true value) := by
      intro w gap hgap
      obtain ⟨inFront, front, hcolon, hreversed, hreads⟩ := beginsEntry hkey hroom hgap
      obtain ⟨t, ht, hwrote⟩ := hvalue inFront (w.key m key) hcolon
      refine ⟨front ++ t, hreads t ls ht, ?_⟩
      rw [← List.append_assoc]
      exact hwrote.prepend hreversed
    cases hentries : entries with
    | nil =>
      subst hentries
      refine ⟨_, hcons .nil, fun w gap hgap => ?_⟩
      rw [List.append_nil]
      exact hentry hgap
    | cons entry' entries' =>
      rw [← hentries]
      obtain ⟨ls', hls', hrest⟩ := ih (by rw [hentries]; exact List.cons_ne_nil _ _) hkeys hvalues
      refine ⟨_, hcons hls', fun w gap hgap => ?_⟩
      obtain ⟨t, ht, hwrote⟩ := hentry hgap
      obtain ⟨t', ht', hwrote'⟩ := hrest ((w.key m key).tree m true value) (lineStart m)
        (Writer.indentTo_break (.inl hwrote.fresh))
      refine ⟨t ++ (lineStart m ++ t'), ht.append ht', ?_⟩
      rw [← List.append_assoc]
      exact hwrote'.prepend hwrote.reversed

/-- **A document that fits is written** such that it is read as what it is, with its texts folded. -/
theorem Tree.Fits.readsBack {tree : Tree} (h : tree.Fits m) : tree.ReadsBack m := by
  induction h with
  | @plain m s hne hallowed =>
    refine ⟨[.scalar true s], readsNode_scalar true s, fun inFront w hw => ?_⟩
    obtain ⟨t, ht, -, hwrote⟩ := exists_plainText hne hallowed true (m + 2) w
    have hseparator : w.separator = txt " " := by rw [Writer.separator, hw.spaced, if_neg Bool.false_ne_true]
    rw [hseparator] at hwrote
    exact ⟨_, .scalar (.plain ht) inFront, hwrote⟩
  | @text m s hroom =>
    have hls := readsNode_scalar (textStyle false s == .plain) (foldLines s)
    rw [scalarContent_text] at hls
    refine ⟨_, hls, fun inFront w hw => ?_⟩
    obtain ⟨t, ht, hwrote⟩ := exists_scalarText hroom (Nat.succ_pos (m + 1)) w
    have hseparator : w.separator = txt " " := by rw [Writer.separator, hw.spaced, if_neg Bool.false_ne_true]
    rw [hseparator] at hwrote
    exact ⟨_, .scalar ht inFront, hwrote⟩
  | @map m entries hne hkeys _ ih =>
    obtain ⟨ls, hls, hwritten⟩ := exists_entriesText hne hkeys ih
    refine ⟨mapLexemes ls, hls.readsNode, fun inFront w hw => ?_⟩
    have htree : w.tree m true (.map entries) = Writer.mapEntries (m + 2) entries w := by
      obtain ⟨entry, entries, rfl⟩ := List.exists_cons_of_ne_nil hne
      rfl
    rw [htree]
    cases inFront with
    | false =>
      obtain ⟨t, ht, hwrote⟩ := hwritten w (lineStart (m + 2)) (Writer.indentTo_break (.inl hw.fresh))
      exact ⟨_, .lines ht, hwrote⟩
    | true =>
      have hcolumn := hw.column rfl
      have hindent : w.indentTo (m + 2) = ⟨spaces (m + 2 - w.column) ++ w.reversed, m + 2, true, true⟩ :=
        Writer.indentTo_fresh hw.fresh (by omega)
      rw [hcolumn, show m + 2 - (m + 1) = 1 by omega] at hindent
      obtain ⟨t, ht, hwrote⟩ := hwritten w (txt " ") hindent
      exact ⟨_, .line ht, hwrote⟩

end Mixfix.Yaml
