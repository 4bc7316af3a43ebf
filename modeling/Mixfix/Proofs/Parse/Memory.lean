import Mixfix.Proofs.Grammar.Builtin
import Mixfix.Proofs.Parse.Tracking
import Std.Data.HashMap.Lemmas

/-!
# Remembering makes no difference

A remembering run keeps the result of a parse by its level and the length of its text. The length is
enough, since every text that one run parses is an end of the source, and ends of one length are the same
(`Memory.Sound`). A result that is looked up is not parsed again, so nothing is recorded for it; but the
terminals of that parse were recorded when it was run, and to record them again changes nothing
(`Progress.Covers`).

Since it looks results up, a remembering run can come to an end with fuel that a tracking run uses up. The two
are therefore compared twice. Whatever its fuel, a remembering run follows the tracking parse unless it uses the
fuel up (`parseFrom_recalls`), and it does not use up fuel that a tracking run comes to an end with
(`parseFrom_keeps`). With the fuel of a parse they are the same.

`levels_eq_tracked` and `untracked_eq_plain` say this for the runs that the program uses, of all grammars.
`memory_transparent` collects it for admissible rules of checked elements, where these runs come to an end.
-/

set_option autoImplicit false

namespace Mixfix

open Engine

namespace Parse

variable {grammar : Grammar} {context : Context} {source : Text}

/-! ## Remembering runs -/

/-- Each result that is remembered for a length is that of the tracking parse of the end of the source
of this length, and its terminals are covered. -/
def Memory.Sound (grammar : Grammar) (context : Context) (source : Text) (memory : Memory) : Prop :=
  ∀ start s found, s <:+ source → memory.results[(start, s.length)]? = some found →
    ∃ reached, memory.progress.Covers reached ∧
      Logs (.ok (found, reached)) (trackedFrom grammar context start s)

theorem Memory.sound_start (s : Text) : (Memory.start s).Sound grammar context source := by
  intro start t found _ hfound
  simp [Memory.start] at hfound

/-- Ends of a text that are equally long are the same. -/
theorem eq_of_suffix_of_length_eq {s t : Text} (hs : s <:+ source) (ht : t <:+ source)
    (h : s.length = t.length) : s = t :=
  (List.suffix_of_suffix_length_le hs ht (Nat.le_of_eq h)).eq_of_length h

/-- To remember what a tracking parse gave keeps a memory sound. -/
theorem Memory.Sound.insert {memory : Memory} (h : memory.Sound grammar context source) {start : Nat}
    {s : Text} (hs : s <:+ source) {found : Found} {reached : List Text}
    (hcovers : memory.progress.Covers reached)
    (hlogs : Logs (.ok (found, reached)) (trackedFrom grammar context start s)) :
    Memory.Sound grammar context source
      { memory with results := memory.results.insert (start, s.length) found } := by
  intro start' t found' ht hfound
  simp only [Std.HashMap.getElem?_insert, beq_iff_eq, Prod.mk.injEq] at hfound
  split at hfound
  · rename_i hkey
    obtain ⟨rfl, hlength⟩ := hkey
    cases hfound
    rw [← eq_of_suffix_of_length_eq hs ht hlength]
    exact ⟨reached, hcovers, hlogs⟩
  · exact h start' t found' ht hfound

theorem Memory.Sound.record {memory : Memory} (h : memory.Sound grammar context source)
    (left : Text) :
    Memory.Sound grammar context source
      { memory with progress := memory.progress.record left } := by
  intro start s found hs hfound
  obtain ⟨reached, hcovers, hlogs⟩ := h start s found hs hfound
  exact ⟨reached, hcovers.record left, hlogs⟩

/-- The end of a remembering run follows that of a tracking run: the same failure, or the same result
with the same progress and a sound memory. -/
inductive Follows (grammar : Grammar) (context : Context) (source : Text) {α : Type} (Q : α → Prop) :
    Except Interruption (α × Progress) → Except Interruption (α × Memory) → Prop
  | error (e : Interruption) : Follows grammar context source Q (.error e) (.error e)
  | ok {a : α} {progress : Progress} {memory : Memory} : Q a → memory.progress = progress →
      memory.Sound grammar context source →
      Follows grammar context source Q (.ok (a, progress)) (.ok (a, memory))

/-- What a remembering run and the tracking run that it follows give is the same. -/
theorem Follows.withProgress {α : Type} {Q : α → Prop} {x : Except Interruption (α × Progress)}
    {y : Except Interruption (α × Memory)} (h : Follows grammar context source Q x y) :
    (y >>= fun p => pure (p.1, p.2.progress)) = x := by
  cases h with
  | error e => rfl
  | ok _ hprogress _ =>
    subst hprogress
    rfl

/-- Which of a tracking and a remembering run may use its fuel up where the other does not. -/
inductive Spender
  | neither
  | tracking
  | remembering

/-- The run that may do so has used its fuel up. -/
def Spender.Spent {α : Type} (spender : Spender) (x : Except Interruption (α × Progress))
    (y : Except Interruption (α × Memory)) : Prop :=
  match spender with
  | .neither => False
  | .tracking => x = .error .endlessRecursion
  | .remembering => y = .error .endlessRecursion

/-- A run that has used its fuel up does not go on. -/
theorem Spender.Spent.bind {α β : Type} {spender : Spender} {x : Except Interruption (α × Progress)}
    {y : Except Interruption (α × Memory)} (h : spender.Spent x y)
    (f : α × Progress → Except Interruption (β × Progress))
    (g : α × Memory → Except Interruption (β × Memory)) : spender.Spent (x >>= f) (y >>= g) := by
  cases spender with
  | neither => exact h
  | tracking => exact congrArg (· >>= f) h
  | remembering => exact congrArg (· >>= g) h

/-- From a sound memory a remembering run does what a tracking run does from its progress, unless fuel is
used up. -/
def Recalls (spender : Spender) (grammar : Grammar) (context : Context) (source : Text) {α : Type}
    (Q : α → Prop) (x : StateT Progress (Except Interruption) α)
    (y : StateT Memory (Except Interruption) α) : Prop :=
  ∀ memory : Memory, memory.Sound grammar context source →
    spender.Spent (x memory.progress) (y memory) ∨
      Follows grammar context source Q (x memory.progress) (y memory)

variable {spender : Spender}

theorem Recalls.bind {α β : Type} {Q : α → Prop} {Q' : β → Prop}
    {x : StateT Progress (Except Interruption) α} {y : StateT Memory (Except Interruption) α}
    {f : α → StateT Progress (Except Interruption) β} {g : α → StateT Memory (Except Interruption) β}
    (h : Recalls spender grammar context source Q x y)
    (hfg : ∀ a, Q a → Recalls spender grammar context source Q' (f a) (g a)) :
    Recalls spender grammar context source Q' (x >>= f) (y >>= g) := by
  intro memory hmemory
  have hstep := h memory hmemory
  show spender.Spent (x memory.progress >>= fun p => f p.1 p.2) (y memory >>= fun p => g p.1 p.2) ∨
    Follows grammar context source Q' (x memory.progress >>= fun p => f p.1 p.2)
      (y memory >>= fun p => g p.1 p.2)
  generalize x memory.progress = u, y memory = v at hstep ⊢
  rcases hstep with hspent | hfollows
  · exact .inl (hspent.bind _ _)
  · cases hfollows with
    | error e => exact .inr (.error e)
    | ok ha hprogress hmemory' =>
      subst hprogress
      exact hfg _ ha _ hmemory'

/-- A run that follows unless either of the two has used its fuel up follows. -/
theorem Recalls.neither {α : Type} {Q : α → Prop} {x : StateT Progress (Except Interruption) α}
    {y : StateT Memory (Except Interruption) α} (htracking : Recalls .tracking grammar context source Q x y)
    (hremembering : Recalls .remembering grammar context source Q x y) :
    Recalls .neither grammar context source Q x y := by
  intro memory hmemory
  right
  rcases htracking memory hmemory with hx | hfollows
  · rcases hremembering memory hmemory with hy | hfollows
    · rw [show x memory.progress = _ from hx, show y memory = _ from hy]
      exact .error .endlessRecursion
    · exact hfollows
  · exact hfollows

/-- A result that is there is looked up. -/
theorem remember_of_found {start : Nat} {s : Text} {memory : Memory} {found : Found}
    (h : memory.results[(start, s.length)]? = some found)
    (y : StateT Memory (Except Interruption) Found) :
    rememberingHooks.remember start s y memory = .ok (found, memory) := by
  simp only [rememberingHooks, get, getThe, MonadStateOf.get, StateT.get, bind, StateT.bind, Except.bind,
    pure, Except.pure]
  rw [h]
  rfl

/-- A result that is not there is computed and put in. -/
theorem remember_of_not_found {start : Nat} {s : Text} {memory : Memory}
    (h : memory.results[(start, s.length)]? = none)
    (y : StateT Memory (Except Interruption) Found) :
    rememberingHooks.remember start s y memory = (do
      let (found, memory') ← y memory
      return (found, { memory' with results := memory'.results.insert (start, s.length) found })) := by
  simp only [rememberingHooks, get, getThe, MonadStateOf.get, StateT.get, bind, StateT.bind, Except.bind,
    pure, Except.pure]
  rw [h]
  rfl

/-- **A remembered result stands for its parse.** A look-up finds the result of the tracking parse of
the text itself, whose terminals are covered. A result that is not there is parsed and put in. -/
theorem recalls_remember {start : Nat} {s : Text} {y : StateT Memory (Except Interruption) Found}
    (hs : s <:+ source)
    (h : Recalls spender grammar context source (Stays s) (trackedFrom grammar context start s) y) :
    Recalls spender grammar context source (Stays s) (trackedFrom grammar context start s)
      (rememberingHooks.remember start s y) := by
  intro memory hmemory
  cases hfound : memory.results[(start, s.length)]? with
  | some found =>
    obtain ⟨reached, hcovers, hlogs⟩ := hmemory start s found hs hfound
    have htracked := hlogs memory.progress
    rw [htracked, remember_of_found hfound]
    have hplain : plain grammar context start s = .ok found := by
      rw [← (trackedFrom_forgets start s).2 memory.progress, htracked]
      rfl
    exact .inr (.ok (plain_stays hplain) hcovers.recordAll_eq.symm hmemory)
  | none =>
    have hstep := h memory hmemory
    rw [remember_of_not_found hfound]
    obtain ⟨_, outcome, -, -, hlogs⟩ := trackedFrom_logged grammar context start s
    rw [hlogs] at hstep ⊢
    generalize y memory = v at hstep ⊢
    rcases hstep with hspent | hfollows
    · left
      cases spender with
      | neither => exact hspent
      | tracking => exact hspent
      | remembering => exact congrArg (· >>= _) hspent
    · right
      cases outcome with
      | error e =>
        cases hfollows with
        | error => exact .error e
      | ok pair =>
        obtain ⟨a, reached⟩ := pair
        cases hfollows with
        | ok ha hprogress hmemory' =>
          have hcovers := Progress.covers_recordAll memory.progress reached
          exact .ok ha hprogress (hmemory'.insert hs (hprogress ▸ hcovers) hlogs)

/-- A tracking run beside a remembering one. -/
def recallingSimulation (spender : Spender) (grammar : Grammar) (context : Context) (source : Text) :
    Simulation trackingHooks rememberingHooks source where
  Rel := Recalls spender grammar context source
  pure ha := fun _ hmemory => .inr (.ok ha rfl hmemory)
  bind := Recalls.bind
  interrupt _ := fun _ _ => .inr (.error _)
  reached left _ := fun _ hmemory => .inr (.ok trivial rfl (hmemory.record left))

/-- A remembering run with any fuel follows the tracking parse, unless it uses the fuel up. -/
theorem parseFrom_recalls (fuel start : Nat) {s : Text} (hs : s <:+ source) :
    Recalls .remembering grammar context source (Stays s) (trackedFrom grammar context start s)
      (parseFrom rememberingHooks grammar context fuel start s) := by
  induction fuel generalizing start s with
  | zero => exact fun _ _ => .inl rfl
  | succ fuel ih =>
    rw [parseFrom_succ]
    refine recalls_remember hs ?_
    rw [trackedFrom_eq]
    exact (recallingSimulation .remembering grammar context source).attempt_rel (.refl grammar source context)
      hs fun start t _ ht => ih start ht

/-- A remembering run follows a tracking one with the same fuel, unless that uses the fuel up. -/
theorem parseFrom_keeps (fuel start : Nat) {s : Text} (hs : s <:+ source) :
    Recalls .tracking grammar context source (Stays s) (parseFrom trackingHooks grammar context fuel start s)
      (parseFrom rememberingHooks grammar context fuel start s) := by
  refine (recallingSimulation .tracking grammar context source).parseFrom_rel (.refl grammar source context)
    (fun fuel start t ht h => ?_) fuel start hs
  change Recalls .tracking grammar context source (Stays t)
    (parseFrom trackingHooks grammar context (fuel + 1) start t) _ at h
  change Recalls .tracking grammar context source (Stays t)
    (parseFrom trackingHooks grammar context (fuel + 1) start t) _
  rcases parseFrom_tracking_cases grammar context (fuel + 1) start t with hspent | htracked
  · exact fun memory _ => .inl (hspent memory.progress)
  · rw [htracked] at h ⊢
    exact recalls_remember ht h

/-- **A remembering parse follows the tracking parse**, from any sound memory and with the fuel of its text or
more. -/
theorem parseFrom_follows {fuel : Nat} {s : Text} (hs : s <:+ source) (hfuel : depth grammar s ≤ fuel + 1)
    (start : Nat) :
    Recalls .neither grammar context source (Stays s) (trackedFrom grammar context start s)
      (parseFrom rememberingHooks grammar context fuel start s) := by
  refine .neither ?_ (parseFrom_recalls fuel start hs)
  rw [← parseFrom_eq_tracked hfuel]
  exact parseFrom_keeps fuel start hs

/-- With any fuel from `depth` on, and with one unit less, a remembering parse gives what the tracking parse
gives. -/
theorem withProgress_parseFrom {fuel : Nat} {s : Text} (hfuel : depth grammar s ≤ fuel + 1) (start : Nat) :
    withProgress s (parseFrom rememberingHooks grammar context fuel start s) =
      tracked grammar context start s := by
  rcases parseFrom_follows List.suffix_rfl hfuel start (Memory.start s) (Memory.sound_start s) with hspent | hfollows
  · exact hspent.elim
  · exact hfollows.withProgress

/-- **A remembering parse is a tracking parse**: the same outcome, and the same progress. -/
theorem levels_eq_tracked (start : Nat) (s : Text) :
    levels grammar context start s = tracked grammar context start s :=
  withProgress_parseFrom (Nat.le_succ _) start

theorem levels_map_fst (start : Nat) (s : Text) :
    (levels grammar context start s).map Prod.fst = plain grammar context start s := by
  rw [levels_eq_tracked, tracked_map_fst]

theorem plain_of_levels {start : Nat} {s : Text} {found : Found} {progress : Progress}
    (h : levels grammar context start s = .ok (found, progress)) :
    plain grammar context start s = .ok found := by
  rw [← levels_map_fst, h]
  rfl

theorem levels_of_plain {start : Nat} {s : Text} {found : Found}
    (h : plain grammar context start s = .ok found) :
    ∃ progress, levels grammar context start s = .ok (found, progress) := by
  rw [← levels_map_fst] at h
  obtain ⟨⟨_, progress⟩, hlevels, rfl⟩ := map_eq_ok.mp h
  exact ⟨progress, hlevels⟩

/-- **A single rule is matched as in a plain parse**, as a rule of any level. -/
theorem rule_map_fst (level : Nat) (r : Rule) (s : Text) :
    (rule grammar context level r s).map Prod.fst = attemptRule grammar context level r s := by
  have hrecalls : Recalls .neither grammar context s (Stays s)
      (matchRule trackingHooks (trackedFrom grammar context) context level r s) _ :=
    (recallingSimulation .neither grammar context s).matchRule_rel List.suffix_rfl (fun _ _ _ => rfl)
      (fun _ => rfl) fun role t ht =>
        parseFrom_follows ht (Nat.le_succ_of_le (depth_le_of_suffix ht)) (role.start level)
  have hforgets : Forgets (Stays s) (attemptRule grammar context level r s)
      (matchRule trackingHooks (trackedFrom grammar context) context level r s) :=
    (forgettingSimulation s).matchRule_rel List.suffix_rfl (fun _ _ _ => rfl) (fun _ => rfl)
      fun role t _ => trackedFrom_forgets (role.start level) t
  rcases hrecalls (Memory.start s) (Memory.sound_start s) with hspent | hfollows
  · exact hspent.elim
  · rw [← hforgets.2 (Progress.start s)]
    exact congrArg (Except.map Prod.fst) hfollows.withProgress

/-! ## Untracked runs -/

/-- What is remembered for a length leaves an end of the end of the source of this length. -/
def Memory.Within (source : Text) (memory : Memory) : Prop :=
  ∀ (start : Nat) (s : Text) (found : Found), s <:+ source →
    memory.results[(start, s.length)]? = some found → Stays s found

theorem Memory.within_start (s : Text) : (Memory.start s).Within source := by
  intro start t found _ hfound
  simp [Memory.start] at hfound

theorem Memory.Within.insert {memory : Memory} (h : memory.Within source) {start : Nat} {s : Text}
    (hs : s <:+ source) {found : Found} (hfound : Stays s found) :
    Memory.Within source { memory with results := memory.results.insert (start, s.length) found } := by
  intro start' t found' ht hfound'
  simp only [Std.HashMap.getElem?_insert, beq_iff_eq, Prod.mk.injEq] at hfound'
  split at hfound'
  · rename_i hkey
    cases hfound'
    rw [← eq_of_suffix_of_length_eq hs ht hkey.2]
    exact hfound
  · exact h start' t found' ht hfound'

/-- Two remembering runs end in the same way: with the same failure, or with the same result and the
same results remembered. -/
inductive SameResults (source : Text) {α : Type} (Q : α → Prop) :
    Except Interruption (α × Memory) → Except Interruption (α × Memory) → Prop
  | error (e : Interruption) : SameResults source Q (.error e) (.error e)
  | ok {a : α} {memory memory' : Memory} : Q a → memory.Within source →
      memory.results = memory'.results → SameResults source Q (.ok (a, memory)) (.ok (a, memory'))

/-- Runs that differ in what they record at most. -/
def Unaffected (source : Text) {α : Type} (Q : α → Prop)
    (x y : StateT Memory (Except Interruption) α) : Prop :=
  ∀ memory memory' : Memory, memory.Within source →
    memory.results = memory'.results → SameResults source Q (x memory) (y memory')

theorem Unaffected.bind {α β : Type} {Q : α → Prop} {Q' : β → Prop}
    {x y : StateT Memory (Except Interruption) α} {f g : α → StateT Memory (Except Interruption) β}
    (h : Unaffected source Q x y) (hfg : ∀ a, Q a → Unaffected source Q' (f a) (g a)) :
    Unaffected source Q' (x >>= f) (y >>= g) := by
  intro memory memory' hmemory hresults
  have hstep := h memory memory' hmemory hresults
  show SameResults source Q' (x memory >>= fun p => f p.1 p.2) (y memory' >>= fun p => g p.1 p.2)
  generalize x memory = u, y memory' = v at hstep ⊢
  cases hstep with
  | error e => exact .error e
  | ok ha hwithin hresults' => exact hfg _ ha _ _ hwithin hresults'

/-- The same result is looked up, or put in. -/
theorem unaffected_remember {start : Nat} {s : Text} {x y : StateT Memory (Except Interruption) Found}
    (hs : s <:+ source) (h : Unaffected source (Stays s) x y) :
    Unaffected source (Stays s) (rememberingHooks.remember start s x) (untrackedHooks.remember start s y) := by
  intro memory memory' hmemory hresults
  change SameResults source (Stays s) _ (rememberingHooks.remember start s y memory')
  cases hfound : memory.results[(start, s.length)]? with
  | some found =>
    rw [remember_of_found hfound, remember_of_found (hresults ▸ hfound)]
    exact .ok (hmemory start s found hs hfound) hmemory hresults
  | none =>
    have hstep := h memory memory' hmemory hresults
    rw [remember_of_not_found hfound, remember_of_not_found (hresults ▸ hfound)]
    generalize x memory = u, y memory' = v at hstep ⊢
    cases hstep with
    | error e => exact .error e
    | ok hstays hwithin hresults' =>
      refine .ok hstays (hwithin.insert hs hstays) ?_
      dsimp only
      rw [hresults']

/-- A remembering run beside an untracked one. -/
def untrackedSimulation (source : Text) : Simulation rememberingHooks untrackedHooks source where
  Rel := Unaffected source
  pure ha := fun _ _ hmemory hresults => .ok ha hmemory hresults
  bind := Unaffected.bind
  interrupt _ := fun _ _ _ _ => .error _
  reached _ _ := fun _ _ hmemory hresults => .ok trivial hmemory hresults

/-- With the same fuel an untracked run gives what a remembering one does. -/
theorem parseFrom_untracked (fuel start : Nat) (s : Text) :
    (parseFrom untrackedHooks grammar context fuel start s (Memory.start s)).map Prod.fst =
      (withProgress s (parseFrom rememberingHooks grammar context fuel start s)).map Prod.fst := by
  have hunaffected : Unaffected s (Stays s) (parseFrom rememberingHooks grammar context fuel start s)
      (parseFrom untrackedHooks grammar context fuel start s) :=
    (untrackedSimulation s).parseFrom_rel (.refl grammar s context)
      (fun _ _ _ hs h => unaffected_remember hs h) fuel start List.suffix_rfl
  have hrun := hunaffected (Memory.start s) (Memory.start s) (Memory.within_start s) rfl
  show (parseFrom untrackedHooks grammar context fuel start s (Memory.start s)).map Prod.fst =
    (parseFrom rememberingHooks grammar context fuel start s (Memory.start s) >>=
      fun p => pure (p.1, p.2.progress)).map Prod.fst
  generalize parseFrom untrackedHooks grammar context fuel start s (Memory.start s) = u at hrun ⊢
  generalize parseFrom rememberingHooks grammar context fuel start s (Memory.start s) = v at hrun ⊢
  cases hrun with
  | error e => rfl
  | ok => rfl

/-- **An untracked parse is a plain parse.** -/
theorem untracked_eq_plain (start : Nat) (s : Text) :
    untracked grammar context start s = plain grammar context start s := by
  have hmap : ∀ run : StateT Memory (Except Interruption) Found,
      (withProgress s run >>= fun p => pure p.1) = (run (Memory.start s)).map Prod.fst := by
    intro run
    show ((run (Memory.start s) >>= fun p => pure (p.1, p.2.progress)) >>= fun p => pure p.1) = _
    cases run (Memory.start s) with
    | error e => rfl
    | ok => rfl
  rw [← levels_map_fst]
  exact (hmap _).trans (parseFrom_untracked (depth grammar s) start s)

/-- The front of a text is parsed by a plain parse from the first level. -/
theorem parse_eq_plain (s : Text) :
    grammar.parse context s = plain grammar context 0 s :=
  untracked_eq_plain 0 s

/-- **Memory is transparent.** For admissible rules of checked elements a remembering parse, with or without
progress, and a tracking parse without memory give what the plain parse gives, and the first and the last tell
the same progress. The plain parse is the recursion over the candidates in order and their elements from left
to right, and it ends. -/
theorem memory_transparent {rules : List Rule} (hrules : Admissible rules)
    (hbuilt : ∀ rule ∈ rules, rule.Built) (hbuild : Grammar.build rules = .ok grammar) (context : Context)
    (start : Nat) (s : Text) :
    untracked grammar context start s = plain grammar context start s ∧
    levels grammar context start s = tracked grammar context start s ∧
    (tracked grammar context start s).map Prod.fst = plain grammar context start s ∧
    plain grammar context start s =
      firstSome (fun (index, rule) => matchRule plainHooks (plain grammar context) context index rule s)
        (candidates grammar start) ∧
    plain grammar context start s ≠ .error .endlessRecursion := by
  have hgrammar := hrules.grammar_consuming (fun rule hrule => (hbuilt rule hrule).solid) hbuild
  exact ⟨untracked_eq_plain start s, levels_eq_tracked start s, tracked_map_fst start s, plain_eq start s,
    plain_ne_endless hgrammar start s⟩

/-- The parse of a sum, where the first operand is parsed for every rule of its level. -/
theorem memory_transparent_sum :
    Admissible arithmeticRules ∧ (∀ rule ∈ arithmeticRules, rule.Built) ∧
    Grammar.build arithmeticRules = .ok arithmeticGrammar ∧
    untracked arithmeticGrammar [] 0 (txt "1 - 2 * x") = plain arithmeticGrammar [] 0 (txt "1 - 2 * x") ∧
    levels arithmeticGrammar [] 0 (txt "1 - 2 * x") = tracked arithmeticGrammar [] 0 (txt "1 - 2 * x") :=
  have h := memory_transparent admissible_arithmeticRules built_of_mem_arithmeticRules build_arithmeticRules []
    0 (txt "1 - 2 * x")
  ⟨admissible_arithmeticRules, built_of_mem_arithmeticRules, build_arithmeticRules, h.1, h.2.1⟩

end Parse

end Mixfix
