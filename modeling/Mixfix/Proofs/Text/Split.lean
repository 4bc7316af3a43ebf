import Mixfix.Proofs.Text

/-!
# Parts of texts

`Text.split` cuts a text at each occurrence of a separator, and to join the parts gives the text again
(`Text.join_split`). `Text.members` are the parts between bars, as unions of schemas are written. Words
without bars are the members of their union (`Text.members_join`), and the members of a union of such unions
are those of each (`Text.members_join_unions`). A union that has no bar is one of a single word
(`Text.eq_singleton_of_join`).
-/

set_option autoImplicit false

namespace Mixfix

namespace Text

/-- The parts of a text between the occurrences of a separator, the first `skip` code points left out.
Occurrences are looked for from the front, and none begins within another one. -/
def splitFrom (separator : Text) : Nat → Text → List Text
  | _, [] => [[]]
  | skip + 1, _ :: rest => splitFrom separator skip rest
  | 0, c :: rest =>
    if separator.isPrefixOf (c :: rest) then [] :: splitFrom separator (separator.length - 1) rest
    else (splitFrom separator 0 rest).modifyHead (c :: ·)

/-- The parts of a text between the occurrences of a separator. -/
def split (separator s : Text) : List Text :=
  splitFrom separator 0 s

variable {separator : Text}

theorem splitFrom_ne_nil (skip : Nat) (s : Text) : splitFrom separator skip s ≠ [] := by
  induction s generalizing skip with
  | nil => exact List.cons_ne_nil _ _
  | cons c s ih =>
    cases skip with
    | succ skip => exact ih skip
    | zero =>
      unfold splitFrom
      split
      · exact List.cons_ne_nil _ _
      · intro h
        exact ih 0 (List.modifyHead_eq_nil_iff.mp h)

/-- What is left out does not change the parts of what follows. -/
theorem splitFrom_append (s t : Text) : splitFrom separator s.length (s ++ t) = splitFrom separator 0 t := by
  induction s with
  | nil => rfl
  | cons c s ih => exact ih

/-- A text that begins with the separator has an empty first part. -/
theorem split_append_separator (hne : separator ≠ []) (t : Text) :
    split separator (separator ++ t) = [] :: split separator t := by
  cases separator with
  | nil => exact absurd rfl hne
  | cons c tail =>
    have hprefix : (c :: tail).isPrefixOf (c :: (tail ++ t)) = true :=
      List.isPrefixOf_iff_prefix.mpr (List.prefix_append (c :: tail) t)
    rw [split, List.cons_append, splitFrom, if_pos hprefix]
    exact congrArg ([] :: ·) (splitFrom_append tail t)

/-- A code point where the separator does not begin belongs to the first part. -/
theorem split_cons {c : CodePoint} {s : Text} (h : ¬ separator <+: c :: s) :
    split separator (c :: s) = (split separator s).modifyHead (c :: ·) := by
  rw [split, splitFrom, if_neg (List.isPrefixOf_iff_prefix.not.mpr h)]
  rfl

theorem join_modifyHead (c : CodePoint) {parts : List Text} (h : parts ≠ []) :
    join separator (parts.modifyHead (c :: ·)) = c :: join separator parts := by
  match parts, h with
  | [s], _ => rfl
  | s :: t :: rest, _ => rfl

/-- **To join the parts of a text gives it again.** -/
theorem join_split (hne : separator ≠ []) (s : Text) : join separator (split separator s) = s := by
  suffices h : ∀ skip, join separator (splitFrom separator skip s) = s.drop skip from h 0
  induction s with
  | nil =>
    intro skip
    rw [List.drop_nil]
    rfl
  | cons c s ih =>
    intro skip
    cases skip with
    | succ skip => exact ih skip
    | zero =>
      unfold splitFrom
      split
      · rename_i hprefix
        obtain ⟨b, tail, rfl⟩ := List.exists_cons_of_ne_nil hne
        obtain ⟨t, ht⟩ := List.isPrefixOf_iff_prefix.mp hprefix
        obtain ⟨rfl, rfl⟩ := List.cons.inj ht
        rw [join_cons _ _ (splitFrom_ne_nil _ _), ih, List.length_cons, Nat.add_sub_cancel]
        exact congrArg (b :: tail ++ ·) List.drop_left
      · rw [join_modifyHead c (splitFrom_ne_nil _ _), ih]
        rfl

/-! ## Members of unions -/

/-- The members of a union of schemas. -/
def members (schema : Text) : List Text :=
  split (txt " | ") schema

/-- No bar is read before the end of a text that has none. -/
theorem not_bar_prefix {word : Text} (hne : word ≠ []) (hbar : CodePoint.ofChar '|' ∉ word) (t : Text) :
    ¬ txt " | " <+: word ++ (txt " | " ++ t) := by
  rintro ⟨u, hu⟩
  match word, hne with
  | [c], _ =>
    have hspace : CodePoint.ofChar '|' = CodePoint.ofChar ' ' := (List.cons.inj (List.cons.inj hu).2).1
    exact absurd hspace (by decide)
  | c :: d :: word, _ =>
    have hd : CodePoint.ofChar '|' = d := (List.cons.inj (List.cons.inj hu).2).1
    exact hbar (hd ▸ List.mem_cons_of_mem c List.mem_cons_self)

theorem members_of_not_mem {word : Text} (hbar : CodePoint.ofChar '|' ∉ word) : members word = [word] := by
  induction word with
  | nil => rfl
  | cons c word ih =>
    have hprefix : ¬ txt " | " <+: c :: word := by
      rintro ⟨u, hu⟩
      exact hbar (hu ▸ List.mem_append_left u (by decide))
    have htail := ih fun hmem => hbar (List.mem_cons_of_mem c hmem)
    calc members (c :: word) = (members word).modifyHead (c :: ·) := split_cons hprefix
      _ = [c :: word] := by rw [htail]; rfl

theorem members_append {word : Text} (hbar : CodePoint.ofChar '|' ∉ word) (t : Text) :
    members (word ++ (txt " | " ++ t)) = word :: members t := by
  induction word with
  | nil => exact split_append_separator (by decide) t
  | cons c word ih =>
    have hprefix := not_bar_prefix (List.cons_ne_nil c word) hbar t
    have htail := ih fun hmem => hbar (List.mem_cons_of_mem c hmem)
    calc members (c :: (word ++ (txt " | " ++ t)))
        = (members (word ++ (txt " | " ++ t))).modifyHead (c :: ·) := split_cons hprefix
      _ = (c :: word) :: members t := by rw [htail]; rfl

/-- **Words without bars are the members of their union.** -/
theorem members_join {words : List Text} (hne : words ≠ [])
    (hbar : ∀ word ∈ words, CodePoint.ofChar '|' ∉ word) : members (join (txt " | ") words) = words := by
  induction words with
  | nil => exact absurd rfl hne
  | cons word words ih =>
    obtain ⟨hword, hwords⟩ := List.forall_mem_cons.mp hbar
    cases words with
    | nil => exact members_of_not_mem hword
    | cons next words =>
      rw [join_cons _ _ (List.cons_ne_nil next words), members_append hword,
        ih (List.cons_ne_nil next words) hwords]

/-- A union without bars has one member only. -/
theorem eq_singleton_of_join {words : List Text} {s : Text} (hne : words ≠ [])
    (hjoin : join (txt " | ") words = s) (hbar : CodePoint.ofChar '|' ∉ s) : words = [s] := by
  match words, hne with
  | [word], _ => rw [← hjoin, join]
  | word :: next :: words, _ =>
    rw [join_cons _ _ (List.cons_ne_nil next words)] at hjoin
    refine absurd (hjoin ▸ ?_) hbar
    exact List.mem_append_right _ (List.mem_append_left _ (by decide))

/-- A union of unions, as `join` writes them, is one of all their members. -/
theorem join_map_join {unions : List (List Text)} (hne : unions ≠ []) (hunion : ∀ words ∈ unions, words ≠ []) :
    join (txt " | ") (unions.map (join (txt " | "))) = join (txt " | ") unions.flatten := by
  induction unions with
  | nil => exact absurd rfl hne
  | cons words unions ih =>
    obtain ⟨hwords, hunions⟩ := List.forall_mem_cons.mp hunion
    cases unions with
    | nil => simp [join]
    | cons next unions =>
      have hflatten : (next :: unions).flatten ≠ [] := by
        rw [List.flatten_cons]
        exact List.append_ne_nil_of_left_ne_nil (hunions next List.mem_cons_self) _
      have hmap : (next :: unions).map (join (txt " | ")) ≠ [] := List.cons_ne_nil _ _
      rw [List.map_cons, join_cons _ _ hmap, ih (List.cons_ne_nil next unions) hunions]
      exact (join_append _ hwords hflatten).symm

/-- **The members of a union of unions** are those of each, one after the other. -/
theorem members_join_unions {schemas : List Text} (hne : schemas ≠ [])
    (hbar : ∀ schema ∈ schemas, ∀ word ∈ schema.members, CodePoint.ofChar '|' ∉ word) :
    members (join (txt " | ") schemas) = schemas.flatMap members := by
  have hschemas : schemas = (schemas.map members).map (join (txt " | ")) := by
    rw [List.map_map]
    exact (List.map_id'' (join_split (by decide)) schemas).symm
  have hunion : ∀ words ∈ schemas.map members, words ≠ [] := by
    intro words hwords
    obtain ⟨schema, -, rfl⟩ := List.mem_map.mp hwords
    exact splitFrom_ne_nil 0 schema
  have hmembers : schemas.flatMap members ≠ [] := by
    obtain ⟨schema, schemas, rfl⟩ := List.exists_cons_of_ne_nil hne
    exact List.append_ne_nil_of_left_ne_nil (splitFrom_ne_nil 0 schema) _
  conv_lhs => rw [hschemas, join_map_join (by simpa using hne) hunion]
  refine members_join hmembers fun word hword => ?_
  obtain ⟨schema, hschema, hword⟩ := List.mem_flatMap.mp hword
  exact hbar schema hschema word hword

end Text

end Mixfix
