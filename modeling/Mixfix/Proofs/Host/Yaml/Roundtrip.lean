import Mixfix.Proofs.Entries
import Mixfix.Proofs.Json.Roundtrip
import Mixfix.Proofs.Host.Yaml.Document
import Mixfix.Proofs.Host.Yaml.Number
import Mixfix.Host.Yaml.Reader

/-!
# YAML, there and back

A map that fits into a document is read back from the text that is written for it, with its texts folded
(`Yaml.folds`).
-/

set_option autoImplicit false

namespace Mixfix.Yaml

variable {s : Text} {v : Value} {m : Nat} {entries : List (Text × Value)}

/-! ## Scalars -/

/-- A value that is written plain, and read as what it looks like. -/
structure Spelled (s : Text) (v : Value) : Prop where
  ne_nil : s ≠ []
  allowed : plainAllowed s = true
  value : scalarValue (.scalar (looks s)) s = .ok v

theorem spelled_null : Spelled (txt "null") .null :=
  ⟨List.cons_ne_nil _ _, rfl, rfl⟩

theorem spelled_bool (b : Bool) : Spelled (if b then txt "true" else txt "false") (.bool b) := by
  cases b <;> exact ⟨List.cons_ne_nil _ _, rfl, rfl⟩

theorem spelled_int {n : Int} (h : Decimal.digitCount (Decimal.ofInt n) ≤ Decimal.digitLimit) :
    Spelled (Decimal.ofInt n) (.int n) := by
  have hunsigned := isUnsigned_ofNat n.natAbs
  refine ⟨?_, ?_, ?_⟩
  · rw [ofInt_eq_signed]
    exact hunsigned.signed_ne_nil _
  · rw [ofInt_eq_signed]
    exact plainAllowed_signed hunsigned
  · rw [looks_ofInt, scalarValue, intOf_ofInt h]
    rfl

theorem spelled_float {x : Float} (h : Binary64.form x ≠ .nan) : Spelled (doubleStyle.write x) (.float x) := by
  have hnumber := Binary64.isNaN_eq_false h
  have hvalue :
      ∀ {s : Text}, looks s = .float → floatOf s = .ok x → scalarValue (.scalar (looks s)) s = .ok (.float x) := by
    intro s hlooks hread
    rw [hlooks, scalarValue, hread, ok_bind, hnumber]
    rfl
  cases hform : Binary64.form x with
  | nan => exact absurd hform h
  | infinite negative =>
    have hx := Binary64.eq_of_form_infinite hform
    unfold Binary64.Style.write
    rw [hform]
    cases negative with
    | true => exact ⟨List.cons_ne_nil _ _, rfl, hvalue rfl (hx ▸ rfl)⟩
    | false => exact ⟨List.cons_ne_nil _ _, rfl, hvalue rfl (hx ▸ rfl)⟩
  | finite negative mantissa exponent =>
    obtain ⟨n, hn, hfits, hx⟩ := Binary64.exists_write (show doubleStyle.wholeFraction = true from rfl) hform
    have hsigned : doubleStyle.write x = signed negative n.text := hn
    have hread := floatOf_text hfits negative
    rw [hx] at hread
    rw [hsigned]
    exact ⟨(isUnsigned_text hfits).signed_ne_nil negative, plainAllowed_signed (isUnsigned_text hfits),
      hvalue (looks_text hfits negative) hread⟩

/-! ## Maps -/

/-- Entries with texts as keys, as they are read. -/
def textPairs (entries : List (Text × Value)) : Pairs :=
  entries.map fun entry => (.str entry.1, entry.2)

theorem putPair_textPairs (key : Text) (value : Value) (entries : List (Text × Value)) :
    putPair (.str key) value (textPairs entries) = textPairs (Entries.put key value entries) := by
  induction entries with
  | nil => rfl
  | cons entry entries ih =>
    obtain ⟨first, old⟩ := entry
    have hequal : (Value.str first).equal true (.str key) = (first == key) := by
      rw [Value.equal]
    change (if (Value.str first).equal true (.str key) then (Value.str first, value) :: textPairs entries
      else (Value.str first, old) :: putPair (.str key) value (textPairs entries)) = _
    rw [hequal, Entries.put]
    by_cases hkey : first = key
    · rw [if_pos hkey, if_pos (beq_iff_eq.mpr hkey), hkey]
      rfl
    · rw [if_neg hkey, if_neg (beq_iff_eq.not.mpr hkey), ih]
      rfl

/-- Entries of distinct names are the map that is read of them. -/
theorem mapOf_textPairs (h : (Entries.names entries).Nodup) : mapOf (textPairs entries) = .map entries := by
  have hput : ∀ base added : List (Text × Value),
      (textPairs added).foldl (fun made pair => putPair pair.1 pair.2 made) (textPairs base) =
        textPairs (Entries.putAll base added) := by
    intro base added
    induction added generalizing base with
    | nil => rfl
    | cons entry added ih =>
      change (textPairs added).foldl _ (putPair (.str entry.1) entry.2 (textPairs base)) = _
      rw [putPair_textPairs, ih]
      rfl
  have hdistinct : (textPairs entries).foldl (fun made pair => putPair pair.1 pair.2 made) [] = textPairs entries :=
    (hput [] entries).trans (congrArg textPairs (Entries.ofList_of_nodup h))
  have hnames : (textPairs entries).map (fun pair => (keyName pair.1, pair.2)) = entries := by
    rw [textPairs, List.map_map]
    exact List.map_id _
  unfold mapOf
  dsimp only
  rw [hdistinct, hnames, Entries.ofList_of_nodup h]

/-! ## Values -/

/-- A value has a document that fits and says what the value is, with its texts folded. -/
structure Stands (m : Nat) (v : Value) (tree : Tree) : Prop where
  made : Tree.ofValue v = .ok tree
  fits : tree.Fits m
  value : tree.content.value = .ok v.folded

theorem Spelled.stands (h : Spelled s v) (hmade : Tree.ofValue v = .ok (.plain s)) (hsame : v.folded = v) :
    Stands m v (.plain s) :=
  ⟨hmade, .plain h.ne_nil h.allowed, hsame.symm ▸ h.value⟩

/-- The entries of a map have documents that fit and say what the entries are, with their texts folded. -/
structure EntriesStand (m : Nat) (entries : List (Text × Value)) (trees : List (Text × Tree)) : Prop where
  made : entryTrees entries = .ok trees
  names : trees.map Prod.fst = Entries.names entries
  fits : ∀ entry ∈ trees, entry.2.Fits m
  parts : entryParts (entryContents trees) = .ok ⟨[], textPairs (foldedEntries entries)⟩

theorem exists_entriesStand (h : ∀ entry ∈ entries, ∃ tree, Stands m entry.2 tree) :
    ∃ trees, EntriesStand m entries trees := by
  induction entries with
  | nil => exact ⟨[], rfl, rfl, nofun, rfl⟩
  | cons entry entries ih =>
    obtain ⟨key, v⟩ := entry
    obtain ⟨⟨tree, htree⟩, h⟩ := List.forall_mem_cons.mp h
    obtain ⟨trees, htrees⟩ := ih h
    refine ⟨(key, tree) :: trees, ?_, congrArg (key :: ·) htrees.names, ?_, ?_⟩
    · rw [entryTrees, htree.made, ok_bind, htrees.made]
      rfl
    · exact List.forall_mem_cons.mpr ⟨htree.fits, htrees.fits⟩
    · have htext : (Content.scalar (.scalar .text) key).tag = .scalar .text := rfl
      have hread : (Content.scalar (.scalar .text) key).value = .ok (.str key) := rfl
      rw [entryContents, entryParts, htext, if_neg nofun, if_neg nofun, hread, ok_bind]
      change (do
        let first ← tree.content.value
        let parts ← entryParts (entryContents trees)
        return { parts with own := (Value.str key, first) :: parts.own : Parts }) = _
      rw [htree.value, ok_bind, htrees.parts]
      rfl

/-- The names of the entries are read back. -/
theorem EntriesStand.keys {column : Nat} {trees : List (Text × Tree)} (h : EntriesStand m entries trees)
    (hnames : ∀ name ∈ Entries.names entries, isKeyable name = true ∧ HasRoom column name) :
    ∀ entry ∈ trees, isKeyable entry.1 = true ∧ HasRoom column entry.1 :=
  fun _ hentry => hnames _ (h.names ▸ List.mem_map_of_mem hentry)

theorem EntriesStand.ne_nil {trees : List (Text × Tree)} (h : EntriesStand m entries trees) (hne : entries ≠ []) :
    trees ≠ [] := by
  rintro rfl
  exact hne (List.map_eq_nil_iff.mp h.names.symm)

/-- The entries are read as the map of them. -/
theorem EntriesStand.value {trees : List (Text × Tree)} (h : EntriesStand m entries trees)
    (hnodup : (Entries.names entries).Nodup) :
    (Content.map .map (entryContents trees)).value = .ok (.map (foldedEntries entries)) := by
  rw [Content.value]
  rw [h.parts, ok_bind]
  exact congrArg Except.ok (mapOf_textPairs (by rwa [names_foldedEntries]))

/-- **A value that fits has a document** that fits and says what the value is, with its texts folded. -/
theorem exists_stands {column : Nat} (h : Fits column v) (hcolumn : column = m + 2) : ∃ tree, Stands m v tree := by
  induction h generalizing m with
  | null => exact ⟨_, spelled_null.stands rfl rfl⟩
  | bool b => exact ⟨_, (spelled_bool b).stands rfl rfl⟩
  | @int column n hshort =>
    have hwrite : Decimal.writeInt n = .ok (Decimal.ofInt n) := if_pos hshort
    refine ⟨_, (spelled_int hshort).stands ?_ rfl⟩
    rw [Tree.ofValue, hwrite]
  | @float column x hx => exact ⟨_, (spelled_float hx).stands rfl rfl⟩
  | @str column s hroom => exact ⟨.text s, rfl, .text (hcolumn ▸ hroom), rfl⟩
  | @map column entries hne hnodup hnames _ ih =>
    subst hcolumn
    obtain ⟨trees, htrees⟩ := exists_entriesStand fun entry hentry => ih entry hentry rfl
    refine ⟨.map trees, ?_, .map (htrees.ne_nil hne) (htrees.keys hnames) htrees.fits, htrees.value hnodup⟩
    rw [Tree.ofValue, htrees.made]
    rfl

/-! ## Texts -/

theorem isForbidden_of_isPlainPoint {c : CodePoint} (h : isPlainPoint c = true) : isForbidden c = false := by
  rw [isPlainPoint_iff] at h
  simp only [isForbidden, Bool.not_eq_false', Bool.or_eq_true, Bool.and_eq_true, beq_iff_eq, decide_eq_true_eq]
  omega

/-- The entries of the outermost map are the lexemes of their lines. -/
theorem lexemes_of_readsEntries {t : Text} {ls : List Lexeme} (h : ReadsEntries 0 t ls) :
    lexemes (t ++ lineStart 0) = mapLexemes ls ++ [.finish] := by
  have hwritten : ∀ c ∈ t ++ lineStart 0, isPlainPoint c = true := by
    intro c hc
    rcases List.mem_append.mp hc with hc | hc
    · exact h.written c hc
    · exact isPlainPoint_of_mem_lineStart hc
  have hallowed : (t ++ lineStart 0).any isForbidden = false := by
    rw [List.any_eq_false]
    intro c hc
    rw [isForbidden_of_isPlainPoint (hwritten c hc)]
    exact Bool.false_ne_true
  have htoken := atToken_append h.start (lineStart 0)
  have hstart : Scan.start (t ++ lineStart 0) = Scan.outside (Cursor.place [] (t ++ lineStart 0)) [] [] none true := by
    obtain ⟨c, t, rfl, -⟩ := h.start
    have hmark : isByteOrderMark c = false := not_isByteOrderMark (h.written c List.mem_cons_self)
    unfold Scan.start
    rw [List.cons_append]
    dsimp only
    rw [hmark, if_neg Bool.false_ne_true, Cursor.start_eq]
    rfl
  have hat : Scan.ReadsAt (Scan.outside (Cursor.place [] (t ++ lineStart 0)) [] [] none true) []
      (t ++ (lineStart 0 ++ [])) [] [] none true := by
    rw [List.append_nil]
    exact Scan.readsAt_here htoken rfl
  have hend : Cursor.AtToken [] := by rintro c ⟨⟩
  obtain ⟨σ', ⟨steps, hsteps, hrun⟩, hat'⟩ := h.reads (Nat.le_refl 0) hend rfl (.first (by decide)) hat
  change steps + σ'.cursor.rest.length ≤ (t ++ lineStart 0).length at hsteps
  obtain ⟨fuel, hfuel⟩ : ∃ fuel, (t ++ lineStart 0).length + 1 = steps + (fuel + 1) :=
    ⟨(t ++ lineStart 0).length - steps, by omega⟩
  unfold lexemes
  rw [hallowed, if_neg Bool.false_ne_true, hstart, hfuel, hrun, hat'.finish]
  simp only [mapLexemes, List.reverse_cons, List.reverse_append, List.reverse_reverse, List.reverse_nil,
    List.nil_append, List.cons_append, List.append_assoc]

/-- A document that is one map. -/
theorem document?_mapLexemes {ls : List Lexeme} {contents : List (Content × Content)} (h : ReadsMap ls contents) :
    document? (mapLexemes ls ++ [.finish]) = .ok (some (.map .map contents)) := by
  let all := mapLexemes ls ++ [.finish]
  have hfuel : 4 * (mapLexemes ls).length ≤ 4 * all.length + 3 := by
    rw [List.length_append]
    omega
  have hnode : node standardHandles .item (4 * all.length + 3) ⟨all, []⟩ = .ok (.map .map contents, ⟨[.finish], []⟩) :=
    h.readsNode.reads nofun hfuel
  have hunless : nodeUnless standardHandles .item (fun _ => false) (nodeFuel all) ⟨all, []⟩ =
      .ok (.map .map contents, ⟨[.finish], []⟩) := hnode
  change (documentOf standardHandles (fun _ => false) all >>= fun node => pure (some node)) = _
  unfold documentOf
  rw [hunless]
  rfl

/-! ## There and back -/

/-- **The codec of the program folds texts**, and loses nothing else. -/
theorem folds : Codec.Folds where
  load_dump := by
    intro entries h
    cases h with
    | map hne hnodup hnames hvalues =>
      obtain ⟨trees, htrees⟩ := exists_entriesStand fun entry hentry => exists_stands (hvalues entry hentry) rfl
      have htrees_ne := htrees.ne_nil hne
      have hback : ∀ entry ∈ trees, entry.2.ReadsBack 0 := fun entry hentry => (htrees.fits entry hentry).readsBack
      obtain ⟨ls, hmap, hwritten⟩ := exists_entriesText htrees_ne (htrees.keys hnames) hback
      obtain ⟨t, hreads, hwrote⟩ := hwritten .start [] rfl
      refine ⟨t ++ lineStart 0, ?_, ?_⟩
      · let written := Writer.mapEntries 0 trees .start
        have hend : written.indentTo 0 = ⟨(lineStart 0).reverse ++ written.reversed, 0, true, true⟩ :=
          Writer.indentTo_break (.inl hwrote.fresh)
        change write entries = _
        unfold write
        rw [htrees.made, ok_bind, List.isEmpty_eq_false_iff.mpr htrees_ne, if_neg Bool.false_ne_true]
        change Except.ok (written.indentTo 0).reversed.reverse = _
        rw [hend, hwrote.reversed]
        simp only [Writer.start, List.nil_append, List.append_nil, List.reverse_append, List.reverse_reverse]
      · change read (t ++ lineStart 0) = _
        unfold read
        rw [lexemes_of_readsEntries hreads, document?_mapLexemes hmap, ok_bind]
        exact htrees.value hnodup

end Mixfix.Yaml
