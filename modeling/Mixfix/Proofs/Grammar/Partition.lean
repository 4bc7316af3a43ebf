import Mathlib.Data.List.Induction
import Mathlib.Data.List.Sort
import Mixfix.Proofs.Grammar.Builtin
import Mixfix.Proofs.Grammar.Extension

/-!
# A grammar partitions its rules

`Partitions rules grammar` says which levels a rule list has: one for each precedence of its rules, in ascending
order, that holds all rules of the precedence as the list has them, and the atoms at the end. Only one grammar is of
this kind (`Partitions.eq`), and it is the one that is built (`build_eq_ok_iff`), unless a name comes again. Then the
first rule that repeats a name is the one that is reported (`build_eq_error`).

So no rule is lost or comes twice, and where the rules of other precedences stand between them makes no difference.
-/

set_option autoImplicit false

namespace Mixfix

/-! ## The first text that comes again -/

theorem firstRepeated?_go_eq_some {seen names : List Text} {name : Text} :
    firstRepeated?.go seen names = some name ↔
      ∃ before after, names = before ++ name :: after ∧ before.Nodup ∧ (∀ n ∈ before, n ∉ seen) ∧
        (name ∈ before ∨ name ∈ seen) := by
  induction names generalizing seen with
  | nil => simp [firstRepeated?.go]
  | cons first names ih =>
    by_cases hfirst : first ∈ seen
    · have hgo : firstRepeated?.go seen (first :: names) = some first := by
        simp [firstRepeated?.go, hfirst]
      rw [hgo, Option.some.injEq]
      constructor
      · rintro rfl
        exact ⟨[], names, rfl, List.nodup_nil, List.forall_mem_nil _, .inr hfirst⟩
      · rintro ⟨before, after, hsplit, -, hfresh, -⟩
        cases before with
        | nil => exact (List.cons.inj hsplit).1
        | cons b before =>
          obtain ⟨rfl, -⟩ := List.cons.inj hsplit
          exact absurd hfirst (hfresh first List.mem_cons_self)
    · have hgo : firstRepeated?.go seen (first :: names) = firstRepeated?.go (first :: seen) names := by
        simp [firstRepeated?.go, hfirst]
      rw [hgo, ih]
      constructor
      · rintro ⟨before, after, rfl, hnodup, hfresh, hagain⟩
        refine ⟨first :: before, after, rfl, List.nodup_cons.mpr ⟨fun hmem => ?_, hnodup⟩, ?_, ?_⟩
        · exact hfresh first hmem List.mem_cons_self
        · exact List.forall_mem_cons.mpr
            ⟨hfirst, fun n hn hseen => hfresh n hn (List.mem_cons_of_mem _ hseen)⟩
        · rcases hagain with hmem | hmem
          · exact .inl (List.mem_cons_of_mem _ hmem)
          · rw [List.mem_cons] at hmem ⊢
            tauto
      · rintro ⟨before, after, hsplit, hnodup, hfresh, hagain⟩
        cases before with
        | nil =>
          obtain ⟨rfl, -⟩ := List.cons.inj hsplit
          exact absurd hagain (by simpa using hfirst)
        | cons b before =>
          obtain ⟨rfl, rfl⟩ := List.cons.inj hsplit
          obtain ⟨hb, hnodup⟩ := List.nodup_cons.mp hnodup
          refine ⟨before, after, rfl, hnodup, fun n hn => ?_, ?_⟩
          · rw [List.mem_cons, not_or]
            exact ⟨fun heq => hb (heq ▸ hn), hfresh n (List.mem_cons_of_mem _ hn)⟩
          · rw [List.mem_cons] at hagain ⊢
            tauto

/-- The first repeated text is the one after the longest front without repetition, and stands in it. -/
theorem firstRepeated?_eq_some {names : List Text} {name : Text} :
    firstRepeated? names = some name ↔
      ∃ before after, names = before ++ name :: after ∧ before.Nodup ∧ name ∈ before := by
  simp [firstRepeated?, firstRepeated?_go_eq_some]

namespace Grammar

/-! ## Rules of one precedence -/

/-- The rules of a precedence, in the order of the list. -/
def ofPrecedence (precedence : Int) (rules : List Rule) : List Rule :=
  rules.filter fun rule => rule.precedence == precedence

section

variable {precedence : Int} {rule : Rule} {rules others : List Rule}

theorem mem_ofPrecedence : rule ∈ ofPrecedence precedence rules ↔ rule ∈ rules ∧ rule.precedence = precedence := by
  rw [ofPrecedence, List.mem_filter, beq_iff_eq]

@[simp] theorem ofPrecedence_append :
    ofPrecedence precedence (rules ++ others) = ofPrecedence precedence rules ++ ofPrecedence precedence others :=
  List.filter_append ..

theorem ofPrecedence_eq_self (h : ∀ rule ∈ rules, rule.precedence = precedence) :
    ofPrecedence precedence rules = rules :=
  List.filter_eq_self.mpr fun rule hrule => beq_iff_eq.mpr (h rule hrule)

theorem ofPrecedence_eq_nil (h : ∀ rule ∈ rules, rule.precedence ≠ precedence) :
    ofPrecedence precedence rules = [] :=
  List.filter_eq_nil_iff.mpr fun rule hrule heq => h rule hrule (beq_iff_eq.mp heq)

/-- A rule can go to the other side of rules that have other precedences. -/
theorem ofPrecedence_move (h : ∀ other ∈ others, rule.precedence ≠ other.precedence) :
    ofPrecedence precedence ([rule] ++ others) = ofPrecedence precedence (others ++ [rule]) := by
  rw [ofPrecedence_append, ofPrecedence_append]
  by_cases hrule : rule.precedence = precedence
  · rw [ofPrecedence_eq_nil fun other hother heq => h other hother (hrule.trans heq.symm), List.append_nil,
      List.nil_append]
  · have hnone : ofPrecedence precedence [rule] = [] := ofPrecedence_eq_nil (by simpa using hrule)
    rw [hnone, List.append_nil, List.nil_append]

/-- Lists that have the same rules of each precedence have the same rules. -/
theorem perm_of_ofPrecedence (h : ∀ p, ofPrecedence p others = ofPrecedence p rules) : others.Perm rules := by
  classical
  refine List.perm_iff_count.mpr fun rule => ?_
  have hcount : ∀ list : List Rule, (ofPrecedence rule.precedence list).count rule = list.count rule :=
    fun list => List.count_filter (by exact beq_self_eq_true rule.precedence)
  rw [← hcount others, h, hcount]

end

/-! ## Ranks keep the order of the list -/

section

variable {ranks : Ranks} {rule : Rule}

/-- The rules behind the first rank bind tighter than it. -/
theorem Ranks.Ordered.lt_of_mem {entry : Int × List Rule} (h : Ranks.Ordered (entry :: ranks))
    (hrule : rule ∈ ranks.flatMap Prod.snd) : entry.1 < rule.precedence := by
  obtain ⟨later, hlater, hmem⟩ := List.mem_flatMap.mp hrule
  rw [h.tail.precedence later hlater rule hmem]
  exact (List.pairwise_cons.mp h.ascending).1 later hlater

/-- The rules of a rank bind as it says. -/
theorem Ranks.Ordered.eq_of_mem {entry : Int × List Rule} (h : Ranks.Ordered (entry :: ranks))
    (hrule : rule ∈ entry.2) : rule.precedence = entry.1 :=
  h.precedence entry List.mem_cons_self rule hrule

/-- A rule goes behind all others of its precedence. -/
theorem Ranks.Ordered.ofPrecedence_insertRule (h : Ranks.Ordered ranks) (rule : Rule) (p : Int) :
    ofPrecedence p ((Grammar.insertRule rule ranks).flatMap Prod.snd) =
      ofPrecedence p (ranks.flatMap Prod.snd ++ [rule]) := by
  induction ranks with
  | nil => rfl
  | cons entry ranks ih =>
    rcases Int.lt_trichotomy rule.precedence entry.1 with hlt | heq | hgt
    · rw [insertRule_cons_of_lt hlt]
      refine ofPrecedence_move fun other hother => ?_
      rcases List.mem_append.mp hother with hother | hother
      · rw [h.eq_of_mem hother]
        exact Int.ne_of_lt hlt
      · exact Int.ne_of_lt (Int.lt_trans hlt (h.lt_of_mem hother))
    · have hmove : ofPrecedence p ([rule] ++ ranks.flatMap Prod.snd) =
          ofPrecedence p (ranks.flatMap Prod.snd ++ [rule]) :=
        ofPrecedence_move fun other hother => Int.ne_of_lt (heq ▸ h.lt_of_mem hother)
      rw [insertRule_cons_of_eq heq]
      simp only [List.flatMap_cons, List.append_assoc, ofPrecedence_append] at hmove ⊢
      rw [hmove]
    · have hrest := ih h.tail
      rw [insertRule_cons_of_gt hgt]
      simp only [List.flatMap_cons, List.append_assoc, ofPrecedence_append] at hrest ⊢
      rw [hrest]

/-- A rank holds all rules of its precedence. -/
theorem Ranks.Ordered.snd_eq (h : Ranks.Ordered ranks) {entry : Int × List Rule} (hentry : entry ∈ ranks) :
    entry.2 = ofPrecedence entry.1 (ranks.flatMap Prod.snd) := by
  induction ranks with
  | nil => cases hentry
  | cons first ranks ih =>
    rw [List.flatMap_cons, ofPrecedence_append]
    rcases List.mem_cons.mp hentry with rfl | hentry
    · rw [ofPrecedence_eq_self fun rule hrule => h.eq_of_mem hrule,
        ofPrecedence_eq_nil fun rule hrule => (Int.ne_of_lt (h.lt_of_mem hrule)).symm, List.append_nil]
    · have hlt : first.1 < entry.1 := (List.pairwise_cons.mp h.ascending).1 entry hentry
      rw [ofPrecedence_eq_nil fun rule hrule => by rw [h.eq_of_mem hrule]; exact Int.ne_of_lt hlt, List.nil_append]
      exact ih h.tail hentry

/-- No rank is empty once a rule is put in. -/
theorem snd_ne_nil_of_mem_insertRule (h : ∀ entry ∈ ranks, entry.2 ≠ []) :
    ∀ entry ∈ insertRule rule ranks, entry.2 ≠ [] := by
  induction ranks with
  | nil => simp [insertRule]
  | cons first ranks ih =>
    obtain ⟨hfirst, hranks⟩ := List.forall_mem_cons.mp h
    rcases Int.lt_trichotomy rule.precedence first.1 with hlt | heq | hgt
    · rw [insertRule_cons_of_lt hlt]
      exact List.forall_mem_cons.mpr ⟨List.cons_ne_nil _ _, h⟩
    · rw [insertRule_cons_of_eq heq]
      exact List.forall_mem_cons.mpr ⟨List.append_ne_nil_of_left_ne_nil hfirst _, hranks⟩
    · rw [insertRule_cons_of_gt hgt]
      exact List.forall_mem_cons.mpr ⟨hfirst, ih hranks⟩

theorem ofPrecedence_rank (rules : List Rule) (p : Int) :
    ofPrecedence p ((rank rules).flatMap Prod.snd) = ofPrecedence p rules := by
  induction rules using List.reverseRecOn with
  | nil => rfl
  | append_singleton rules rule ih =>
    rw [rank_append_singleton, (rank_spec rules).1.ofPrecedence_insertRule, ofPrecedence_append, ih,
      ofPrecedence_append]

theorem snd_ne_nil_of_mem_rank (rules : List Rule) : ∀ entry ∈ rank rules, entry.2 ≠ [] := by
  induction rules using List.reverseRecOn with
  | nil => exact List.forall_mem_nil _
  | append_singleton rules rule ih =>
    rw [rank_append_singleton]
    exact snd_ne_nil_of_mem_insertRule ih

/-- **A rank holds the rules of its precedence in the order of the list**, and there is one at least. -/
theorem snd_of_mem_rank {rules : List Rule} {entry : Int × List Rule} (hentry : entry ∈ rank rules) :
    entry.2 = ofPrecedence entry.1 rules ∧ entry.2 ≠ [] := by
  refine ⟨?_, snd_ne_nil_of_mem_rank rules entry hentry⟩
  rw [(rank_spec rules).1.snd_eq hentry, ofPrecedence_rank]

end

/-! ## The levels of a rule list -/

/-- The levels of a grammar are those of a rule list. -/
structure Partitions (rules : List Rule) (grammar : Grammar) : Prop where
  /-- The precedences ascend before the last level, which is the only one that has none. -/
  ascending : ∃ precedences : List Int, precedences.Pairwise (· < ·) ∧
    grammar.map Level.precedence = precedences.map some ++ [none]
  /-- The last level is that of the atoms. -/
  last : grammar.getLast? = some atomLevel
  /-- A level of a precedence holds the rules of this precedence in the order of the list, and is not empty. -/
  level : ∀ level ∈ grammar, ∀ p, level.precedence = some p → level.rules = ofPrecedence p rules ∧ level.rules ≠ []
  /-- Every rule has a level of its precedence. -/
  covers : ∀ rule ∈ rules, ∃ level ∈ grammar, level.precedence = some rule.precedence

section

variable {rules others : List Rule} {grammar other : Grammar}

theorem partitions_rank (rules : List Rule) : Partitions rules ((rank rules).map rankLevel ++ [atomLevel]) where
  ascending := by
    refine ⟨(rank rules).map Prod.fst, List.pairwise_map.mpr (rank_spec rules).1.ascending, ?_⟩
    simp [rankLevel, atomLevel, Function.comp_def]
  last := List.getLast?_concat
  level := by
    intro level hlevel p hp
    rcases List.mem_append.mp hlevel with hlevel | hlevel
    · obtain ⟨entry, hentry, rfl⟩ := List.mem_map.mp hlevel
      cases hp
      exact snd_of_mem_rank hentry
    · rw [List.mem_singleton.mp hlevel] at hp
      cases hp
  covers := by
    intro rule hrule
    obtain ⟨entry, hentry, hmem⟩ := List.mem_flatMap.mp (((rank_spec rules).2 rule).mpr hrule)
    refine ⟨rankLevel entry, List.mem_append_left _ (List.mem_map_of_mem hentry), ?_⟩
    rw [(rank_spec rules).1.precedence entry hentry rule hmem, rankLevel]

/-- There is a level of each precedence that a rule has, and of no other. -/
theorem Partitions.mem_precedence (h : Partitions rules grammar) {p : Int} :
    some p ∈ grammar.map Level.precedence ↔ ∃ rule ∈ rules, rule.precedence = p := by
  rw [List.mem_map]
  constructor
  · rintro ⟨level, hlevel, hp⟩
    obtain ⟨hrules, hne⟩ := h.level level hlevel p hp
    obtain ⟨rule, hrule⟩ := List.exists_mem_of_ne_nil _ hne
    exact ⟨rule, mem_ofPrecedence.mp (hrules ▸ hrule)⟩
  · rintro ⟨rule, hrule, rfl⟩
    exact h.covers rule hrule

/-- The level of a precedence, and the atoms where there is none. -/
def levelOf (rules : List Rule) : Option Int → Level
  | some p => ⟨some p, ofPrecedence p rules⟩
  | none => atomLevel

/-- A level is told by its precedence. -/
theorem Partitions.eq_levelOf (h : Partitions rules grammar) :
    grammar = (grammar.map Level.precedence).map (levelOf rules) := by
  obtain ⟨precedences, -, hmap⟩ := h.ascending
  obtain ⟨levels, tail, rfl, hlevels, htail⟩ := List.map_eq_append_iff.mp hmap
  obtain ⟨final, rfl, -⟩ := List.map_eq_singleton_iff.mp htail
  have hfinal : final = atomLevel := by simpa using h.last
  have hlevel : ∀ level ∈ levels ++ [final], levelOf rules level.precedence = level := by
    intro level hlevel
    cases hp : level.precedence with
    | some p =>
      rw [levelOf, ← (h.level level hlevel p hp).1, ← hp]
    | none =>
      rcases List.mem_append.mp hlevel with hlevel | hlevel
      · have hmem := List.mem_map_of_mem (f := Level.precedence) hlevel
        rw [hlevels, hp] at hmem
        simp at hmem
      · rw [List.mem_singleton.mp hlevel, hfinal, levelOf]
  rw [List.map_map]
  exact ((List.map_congr_left hlevel).trans (List.map_id _)).symm

/-- **A rule list has one grammar.** -/
theorem Partitions.eq (h : Partitions rules grammar) (hother : Partitions rules other) : grammar = other := by
  obtain ⟨precedences, hascending, hmap⟩ := h.ascending
  obtain ⟨precedences', hascending', hmap'⟩ := hother.ascending
  have hmem : ∀ p, p ∈ precedences ↔ p ∈ precedences' := by
    intro p
    have hiff := h.mem_precedence.trans (hother.mem_precedence (p := p)).symm
    rw [hmap, hmap'] at hiff
    simpa using hiff
  rw [h.eq_levelOf, hother.eq_levelOf, hmap, hmap', hascending.eq_of_mem_iff hascending' hmem]

/-- Rule lists that have the same rules of each precedence have the same levels. -/
theorem Partitions.congr (h : Partitions rules grammar) (heq : ∀ p, ofPrecedence p others = ofPrecedence p rules) :
    Partitions others grammar where
  ascending := h.ascending
  last := h.last
  level := by
    intro level hlevel p hp
    rw [heq]
    exact h.level level hlevel p hp
  covers := fun rule hrule => h.covers rule ((perm_of_ofPrecedence heq).mem_iff.mp hrule)

/-! ## Building -/

/-- A grammar is built of rules of distinct names, and it is the one of the list. -/
theorem build_eq_ok_iff : build rules = .ok grammar ↔ (rules.map Rule.name).Nodup ∧ Partitions rules grammar := by
  rw [build_eq_ok]
  refine and_congr_right fun _ => ⟨?_, fun h => h.eq (partitions_rank rules)⟩
  rintro rfl
  exact partitions_rank rules

/-- The rule that is reported is the first one whose name is that of a rule before it. -/
theorem build_eq_error {error : DefinitionError} :
    build rules = .error error ↔
      ∃ before rule after, rules = before ++ rule :: after ∧ (before.map Rule.name).Nodup ∧
        rule.name ∈ before.map Rule.name ∧ error = ⟨.repeatedRule, rule.name⟩ := by
  have hbuild : build rules = .error error ↔
      ∃ name, firstRepeated? (rules.map Rule.name) = some name ∧ error = ⟨.repeatedRule, some name⟩ := by
    unfold build
    cases firstRepeated? (rules.map Rule.name) with
    | none => simp
    | some name => simp [eq_comm]
  rw [hbuild]
  constructor
  · rintro ⟨name, hname, rfl⟩
    obtain ⟨before, after, hsplit, hnodup, hmem⟩ := firstRepeated?_eq_some.mp hname
    obtain ⟨front, rest, rfl, rfl, hrest⟩ := List.map_eq_append_iff.mp hsplit
    obtain ⟨rule, back, rfl, rfl, -⟩ := List.map_eq_cons_iff.mp hrest
    exact ⟨front, rule, back, rfl, hnodup, hmem, rfl⟩
  · rintro ⟨before, rule, after, rfl, hnodup, hmem, rfl⟩
    refine ⟨rule.name, firstRepeated?_eq_some.mpr ⟨before.map Rule.name, after.map Rule.name, ?_, hnodup, hmem⟩, rfl⟩
    rw [List.map_append, List.map_cons]

/-- **A grammar partitions its rules, and keeps their order.** It is not built where two rules have one name, and the
rule that is reported is the first with a name from before. Else it has a level for each precedence, in ascending
order, that holds the rules of the precedence as the list has them, and the atoms at the end. So rule lists with the
same rules in the same order for each precedence are built into the same grammar. -/
theorem build_partitions (rules : List Rule) :
    ((∃ error, build rules = .error error) ↔ ¬ (rules.map Rule.name).Nodup) ∧
      (∀ error, build rules = .error error ↔
        ∃ before rule after, rules = before ++ rule :: after ∧ (before.map Rule.name).Nodup ∧
          rule.name ∈ before.map Rule.name ∧ error = ⟨.repeatedRule, rule.name⟩) ∧
      (∀ grammar, build rules = .ok grammar ↔ (rules.map Rule.name).Nodup ∧ Partitions rules grammar) ∧
      ∀ others, (∀ p, ofPrecedence p others = ofPrecedence p rules) →
        ∀ grammar, build others = .ok grammar ↔ build rules = .ok grammar := by
  refine ⟨?_, fun error => build_eq_error, fun grammar => build_eq_ok_iff, fun others heq grammar => ?_⟩
  · cases hbuild : build rules with
    | error error =>
      have hrepeated : ¬ (rules.map Rule.name).Nodup := fun hnodup =>
        nomatch hbuild.symm.trans (build_eq_ok_iff.mpr ⟨hnodup, partitions_rank rules⟩)
      simp [hrepeated]
    | ok grammar => simp [(build_eq_ok_iff.mp hbuild).1]
  · have hnames : (others.map Rule.name).Nodup ↔ (rules.map Rule.name).Nodup :=
      ((perm_of_ofPrecedence heq).map Rule.name).nodup_iff
    rw [build_eq_ok_iff, build_eq_ok_iff, hnames]
    exact and_congr_right fun _ => ⟨fun h => h.congr fun p => (heq p).symm, fun h => h.congr heq⟩

/-- The rules of arithmetic in another order, with those of products between those of sums. -/
theorem build_partitions_interleaved :
    let interleaved := [2, 0, 3, 1, 4].filterMap (arithmeticRules[·]?)
    interleaved.map Rule.name = [txt "mul", txt "add", txt "div", txt "sub", txt "mod"] ∧
      (∀ p, ofPrecedence p interleaved = ofPrecedence p arithmeticRules) ∧
      build interleaved = .ok arithmeticGrammar := by
  intro interleaved
  have heq : ∀ p, ofPrecedence p interleaved = ofPrecedence p arithmeticRules := by
    intro p
    by_cases hsum : p = 1
    · subst hsum
      rfl
    · by_cases hproduct : p = 2
      · subst hproduct
        rfl
      · have hother : ∀ rule ∈ interleaved ++ arithmeticRules, rule.precedence = 1 ∨ rule.precedence = 2 := by
          decide
        have hnil := ofPrecedence_eq_nil fun rule hrule (h : rule.precedence = p) =>
          (hother rule hrule).elim (fun h' => hsum (h.symm.trans h')) fun h' => hproduct (h.symm.trans h')
        rw [ofPrecedence_append, List.append_eq_nil_iff] at hnil
        rw [hnil.1, hnil.2]
  exact ⟨by decide, heq, ((build_partitions arithmeticRules).2.2.2 interleaved heq _).mpr build_arithmeticRules⟩

end

end Grammar

end Mixfix
