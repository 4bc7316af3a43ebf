import Mixfix.Proofs.Parse.Calls

/-!
# Tracking how far the terminals came

A tracking run matches the same terminals from whatever progress it starts, and to record what they left is all that
it does with the progress (`Logs`). So its result is that of the plain run with the same fuel
(`parseFrom_forgets`), and it needs no more fuel than that: with any fuel it is the tracking parse, unless
it uses the fuel up (`parseFrom_tracking_cases`).

What is recorded is covered (`Progress.Covers`), and to record it again changes nothing.
-/

set_option autoImplicit false

namespace Mixfix

open Engine

/-! ## Progress -/

namespace Progress

/-- Records what terminals left, one after the other. -/
def recordAll (reached : List Text) (progress : Progress) : Progress :=
  reached.foldl (fun progress left => progress.record left) progress

/-- Each of some terminals was already known to get as far as it did. -/
def Covers (progress : Progress) (reached : List Text) : Prop :=
  ∀ left ∈ reached, progress.leastLeft ≤ left.length

theorem Covers.record {progress : Progress} {reached : List Text} (h : progress.Covers reached)
    (left : Text) : (progress.record left).Covers reached := by
  intro old hold
  exact Nat.le_trans (Nat.min_le_right _ _) (h old hold)

/-- What is recorded stays covered. -/
theorem Covers.recordAll {progress : Progress} {reached : List Text} (h : progress.Covers reached)
    (more : List Text) : (progress.recordAll more).Covers reached := by
  induction more generalizing progress with
  | nil => exact h
  | cons left more ih => exact ih (h.record left)

theorem covers_recordAll (progress : Progress) (reached : List Text) :
    (progress.recordAll reached).Covers reached := by
  induction reached generalizing progress with
  | nil => exact fun left h => absurd h List.not_mem_nil
  | cons left reached ih =>
    intro old hold
    rcases List.mem_cons.mp hold with rfl | hold
    · have hfirst : (progress.record old).Covers [old] := by
        intro left hleft
        rw [List.mem_singleton.mp hleft]
        exact Nat.min_le_left _ _
      exact hfirst.recordAll reached old (List.mem_singleton_self old)
    · exact ih (progress.record left) old hold

/-- To record again what is covered changes nothing. -/
theorem Covers.recordAll_eq {progress : Progress} {reached : List Text} (h : progress.Covers reached) :
    progress.recordAll reached = progress := by
  induction reached with
  | nil => rfl
  | cons left reached ih =>
    have hleft : progress.record left = progress := by
      rw [Progress.record, Nat.min_eq_right (h left List.mem_cons_self)]
    change (progress.record left).recordAll reached = progress
    rw [hleft]
    exact ih fun old hold => h old (List.mem_cons_of_mem _ hold)

end Progress

namespace Parse

variable {grammar : Grammar} {context : Context} {source : Text}

/-! ## Tracking runs -/

/-- A tracking run has one result for all starting points, and it records what the same terminals left. -/
def Logs {α : Type} (outcome : Except Interruption (α × List Text))
    (x : StateT Progress (Except Interruption) α) : Prop :=
  ∀ progress : Progress, x progress = outcome.map fun (a, reached) => (a, progress.recordAll reached)

theorem Logs.bind_error {α β : Type} {e : Interruption} {x : StateT Progress (Except Interruption) α}
    (h : Logs (.error e) x) (f : α → StateT Progress (Except Interruption) β) :
    Logs (.error e) (x >>= f) := by
  intro progress
  show (x progress >>= _) = _
  rw [h]
  rfl

theorem Logs.bind_ok {α β : Type} {a : α} {reached : List Text}
    {x : StateT Progress (Except Interruption) α} (h : Logs (.ok (a, reached)) x)
    {f : α → StateT Progress (Except Interruption) β} {outcome : Except Interruption (β × List Text)}
    (hf : Logs outcome (f a)) :
    Logs (outcome.map fun (b, more) => (b, reached ++ more)) (x >>= f) := by
  intro progress
  show (x progress >>= _) = _
  rw [h]
  show f a (progress.recordAll reached) = _
  rw [hf]
  cases outcome with
  | error e => rfl
  | ok pair => simp [Except.map, Progress.recordAll, List.foldl_append]

/-- Two tracking runs log the same, unless the first has used up its fuel. -/
def Logged {α : Type} (Q : α → Prop) (x y : StateT Progress (Except Interruption) α) : Prop :=
  ∃ u v : Except Interruption (α × List Text), Refines (fun pair => Q pair.1) u v ∧ Logs u x ∧ Logs v y

theorem Logged.bind {α β : Type} {Q : α → Prop} {Q' : β → Prop}
    {x y : StateT Progress (Except Interruption) α}
    {f g : α → StateT Progress (Except Interruption) β} (h : Logged Q x y)
    (hfg : ∀ a, Q a → Logged Q' (f a) (g a)) : Logged Q' (x >>= f) (y >>= g) := by
  obtain ⟨u, v, hrefines, hx, hy⟩ := h
  cases v with
  | error e =>
    rcases hrefines.same with rfl | rfl
    · exact ⟨_, _, ⟨.inl rfl, fun _ h => by cases h⟩, hx.bind_error f, hy.bind_error g⟩
    · exact ⟨_, _, ⟨.inr rfl, fun _ h => by cases h⟩, hx.bind_error f, hy.bind_error g⟩
  | ok pair =>
    obtain ⟨a, reached⟩ := pair
    obtain ⟨u', v', hrefines', hf, hg⟩ := hfg a (hrefines.result (a, reached) rfl)
    have hresult : ∀ pair, (v'.map fun (b, more) => (b, reached ++ more)) = .ok pair → Q' pair.1 := by
      intro pair hpair
      obtain ⟨⟨b, more⟩, hv', rfl⟩ := map_eq_ok.mp hpair
      exact hrefines'.result (b, more) hv'
    rcases hrefines.same with rfl | rfl
    · exact ⟨_, _, ⟨.inl rfl, hresult⟩, hx.bind_error f, hy.bind_ok hg⟩
    · refine ⟨_, _, ⟨?_, hresult⟩, hx.bind_ok hf, hy.bind_ok hg⟩
      rcases hrefines'.same with rfl | rfl
      · exact .inl rfl
      · exact .inr rfl

/-- Runs that log the same in both directions are the same. -/
theorem Logged.antisymm {α : Type} {Q : α → Prop} {x y : StateT Progress (Except Interruption) α}
    (h : Logged Q x y) (h' : Logged Q y x) : x = y := by
  obtain ⟨u, v, hrefines, hx, hy⟩ := h
  obtain ⟨u', v', hrefines', hy', hx'⟩ := h'
  funext progress
  rcases hrefines.same with rfl | rfl
  · rcases hrefines'.same with rfl | rfl
    · rw [hx, hy']
    · rw [hx', hy']
  · rw [hx, hy]

/-- Tracking runs, of which the first may use up its fuel. -/
def trackingSimulation (source : Text) : Simulation trackingHooks trackingHooks source where
  Rel := Logged
  pure {_ _ a} ha :=
    ⟨.ok (a, []), .ok (a, []), ⟨.inr rfl, fun _ h => by cases h; exact ha⟩, fun _ => rfl, fun _ => rfl⟩
  bind := Logged.bind
  interrupt reason := ⟨.error reason, .error reason, ⟨.inr rfl, nofun⟩, fun _ => rfl, fun _ => rfl⟩
  reached left _ :=
    ⟨.ok ((), [left]), .ok ((), [left]), ⟨.inr rfl, fun _ _ => trivial⟩, fun _ => rfl, fun _ => rfl⟩

/-- A tracking run gives the result of a plain run. -/
def Forgets {α : Type} (Q : α → Prop) (x : Except Interruption α)
    (y : StateT Progress (Except Interruption) α) : Prop :=
  (∀ a, x = .ok a → Q a) ∧ ∀ progress : Progress, (y progress).map Prod.fst = x

theorem Forgets.bind {α β : Type} {Q : α → Prop} {Q' : β → Prop} {x : Except Interruption α}
    {y : StateT Progress (Except Interruption) α} {f : α → Except Interruption β}
    {g : α → StateT Progress (Except Interruption) β} (h : Forgets Q x y)
    (hfg : ∀ a, Q a → Forgets Q' (f a) (g a)) : Forgets Q' (x >>= f) (y >>= g) := by
  obtain ⟨hQ, hy⟩ := h
  cases x with
  | error e =>
    refine ⟨fun _ h => (by cases h), fun progress => ?_⟩
    have hstep := hy progress
    show Except.map Prod.fst (y progress >>= _) = _
    cases hrun : y progress with
    | error e' =>
      rw [hrun] at hstep
      cases hstep
      rfl
    | ok pair =>
      rw [hrun] at hstep
      cases hstep
  | ok a =>
    refine ⟨(hfg a (hQ a rfl)).1, fun progress => ?_⟩
    obtain ⟨⟨a', progress'⟩, hrun, rfl⟩ := map_eq_ok.mp (hy progress)
    show Except.map Prod.fst (y progress >>= _) = _
    rw [hrun]
    exact (hfg a' (hQ a' rfl)).2 progress'

/-- A plain run beside a tracking one. -/
def forgettingSimulation (source : Text) : Simulation plainHooks trackingHooks source where
  Rel := Forgets
  pure ha := ⟨fun _ h => Except.ok.inj h ▸ ha, fun _ => rfl⟩
  bind := Forgets.bind
  interrupt _ := ⟨nofun, fun _ => rfl⟩
  reached _ _ := ⟨fun _ _ => trivial, fun _ => rfl⟩

/-- With the same fuel a tracking run gives what a plain one does. -/
theorem parseFrom_forgets (fuel start : Nat) (s : Text) :
    Forgets (Stays s) (parseFrom plainHooks grammar context fuel start s)
      (parseFrom trackingHooks grammar context fuel start s) :=
  (forgettingSimulation s).parseFrom_rel (.refl grammar s context) (fun _ _ _ _ h => h) fuel start
    List.suffix_rfl

/-- The tracking parse from any progress. -/
def trackedFrom (grammar : Grammar) (context : Context) (start : Nat) (s : Text) :
    StateT Progress (Except Interruption) Found :=
  parseFrom trackingHooks grammar context (depth grammar s) start s

theorem trackedFrom_forgets (start : Nat) (s : Text) :
    Forgets (Stays s) (plain grammar context start s) (trackedFrom grammar context start s) :=
  parseFrom_forgets (depth grammar s) start s

/-- A tracking parse gives the result of the plain parse. -/
theorem tracked_map_fst (start : Nat) (s : Text) :
    (tracked grammar context start s).map Prod.fst = plain grammar context start s :=
  (trackedFrom_forgets start s).2 (Progress.start s)

/-- More fuel changes nothing in a tracking run, unless it has used up its fuel from all starting points. -/
theorem parseFrom_tracking_mono {fuel more : Nat} (hfuel : fuel ≤ more) (start : Nat) (s : Text) :
    (∀ progress, parseFrom trackingHooks grammar context fuel start s progress = .error .endlessRecursion) ∨
      parseFrom trackingHooks grammar context fuel start s =
        parseFrom trackingHooks grammar context more start s := by
  have hlogged : Logged (Stays s) (parseFrom trackingHooks grammar context fuel start s)
      (parseFrom trackingHooks grammar context more start s) :=
    (trackingSimulation s).parseFrom_rel_of_le (fun _ _ _ => rfl)
      (fun hx => by
        obtain ⟨_, v, hrefines, -, hv⟩ := hx
        exact ⟨.error .endlessRecursion, v, ⟨.inl rfl, hrefines.result⟩, fun _ => rfl, hv⟩)
      hfuel start List.suffix_rfl
  obtain ⟨u, v, hrefines, hu, hv⟩ := hlogged
  rcases hrefines.same with rfl | rfl
  · exact .inl hu
  · exact .inr (funext fun progress => (hu progress).trans (hv progress).symm)

/-- More fuel changes nothing in a tracking run where it changes nothing in a plain one. -/
theorem parseFrom_tracking_eq_of_le {fuel more start : Nat} {s : Text} (hfuel : fuel ≤ more)
    (h : parseFrom plainHooks grammar context fuel start s = parseFrom plainHooks grammar context more start s) :
    parseFrom trackingHooks grammar context fuel start s =
      parseFrom trackingHooks grammar context more start s := by
  rcases parseFrom_tracking_mono hfuel start s with hendless | hsame
  · -- the plain runs are endless as well, and so the run with more fuel is
    funext progress
    have hfirst : _ = parseFrom plainHooks grammar context fuel start s :=
      (parseFrom_forgets fuel start s).2 progress
    have hsecond : _ = parseFrom plainHooks grammar context more start s :=
      (parseFrom_forgets more start s).2 progress
    rw [hendless progress] at hfirst ⊢
    rw [← h, ← hfirst] at hsecond
    exact (map_eq_error.mp hsecond).symm
  · exact hsame

/-- From `depth` on, and with one unit less, all amounts of fuel give the tracking parse. -/
theorem parseFrom_eq_tracked {fuel : Nat} {s : Text} (h : depth grammar s ≤ fuel + 1) (start : Nat) :
    parseFrom trackingHooks grammar context fuel start s = trackedFrom grammar context start s := by
  have hplain : parseFrom plainHooks grammar context fuel start s =
      parseFrom plainHooks grammar context (depth grammar s) start s := parseFrom_eq_plain h start
  rcases Nat.le_total fuel (depth grammar s) with hle | hle
  · exact parseFrom_tracking_eq_of_le hle hplain
  · exact (parseFrom_tracking_eq_of_le hle hplain.symm).symm

variable (grammar context) in
/-- A tracking run with any fuel is the tracking parse, unless it uses the fuel up. -/
theorem parseFrom_tracking_cases (fuel start : Nat) (s : Text) :
    (∀ progress, parseFrom trackingHooks grammar context fuel start s progress = .error .endlessRecursion) ∨
      parseFrom trackingHooks grammar context fuel start s = trackedFrom grammar context start s := by
  rcases Nat.le_total fuel (depth grammar s) with hle | hle
  · exact parseFrom_tracking_mono hle start s
  · exact .inr (parseFrom_eq_tracked (Nat.le_succ_of_le hle) start)

variable (grammar context) in
/-- A tracking parse logs one outcome, which leaves an end of the text. -/
theorem trackedFrom_logged (start : Nat) (s : Text) :
    Logged (Stays s) (trackedFrom grammar context start s) (trackedFrom grammar context start s) :=
  (trackingSimulation s).parseFrom_rel (.refl grammar s context) (fun _ _ _ _ h => h) _ start List.suffix_rfl

/-- The recursion that a tracking parse is. -/
theorem trackedFrom_eq (start : Nat) (s : Text) :
    trackedFrom grammar context start s =
      attempt trackingHooks (trackedFrom grammar context) grammar context start s :=
  (trackingSimulation s).attempt_congr Logged.antisymm (trackedFrom_logged grammar context) List.suffix_rfl
    fun start _ _ ht => parseFrom_eq_tracked (depth_le_of_suffix ht) start

end Parse

end Mixfix
