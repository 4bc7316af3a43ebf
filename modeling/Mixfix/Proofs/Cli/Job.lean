import Mixfix.Cli.Command
import Mixfix.Host.Shell
import Mixfix.Proofs.Json

/-!
# The steps of a command

A command that prints some things and then stops (`telling`) does so unless the console refuses to print one of
them, and then it breaks down on the first that is refused (`stop_telling`). Options for variables keep to the
standard grammar, and the values that they give are data (`Options.ofVariables_of_given`).
-/

set_option autoImplicit false

namespace Mixfix.Cli

open Job

/-! ## Printing -/

section

variable [Console]

/-- What is seen of something that is printed. -/
def seen (entry : Channel × Printed) : Except PrintError (Channel × Printed) :=
  (Console.display entry.1 entry.2).map fun shown => (entry.1, shown)

/-- Prints some things one after the other, and then stops where there is something to stop for. -/
def telling (prints : List (Channel × Printed)) (stop : Option Stop) : Job Unit := do
  putAll prints
  match stop with
  | none => return
  | some stop => throw stop

variable {prints shown : List (Channel × Printed)} {entry : Channel × Printed} {effects : Effects}

theorem put_of_seen {after : Channel × Printed} (h : seen entry = .ok after) :
    put entry.1 entry.2 effects = (.ok (), { effects with printed := effects.printed ++ [after] }) := by
  obtain ⟨printed, hdisplay, rfl⟩ := map_eq_ok.mp h
  unfold put
  rw [hdisplay]
  rfl

theorem put_of_refused {e : PrintError} (h : seen entry = .error e) :
    put entry.1 entry.2 effects = (.error (.breakdown (.console e)), effects) := by
  have hdisplay := map_eq_error.mp h
  unfold put
  rw [hdisplay]
  rfl

theorem putAll_cons (entry : Channel × Printed) (prints : List (Channel × Printed)) :
    putAll (entry :: prints) = put entry.1 entry.2 >>= fun _ => putAll prints := rfl

/-- What the console takes is printed. -/
theorem putAll_of_seen (h : prints.mapM seen = .ok shown) :
    putAll prints effects = (.ok (), { effects with printed := effects.printed ++ shown }) := by
  induction prints generalizing shown effects with
  | nil =>
    rw [List.mapM_nil] at h
    cases h
    rw [List.append_nil]
    rfl
  | cons entry prints ih =>
    rw [List.mapM_cons] at h
    obtain ⟨first, hfirst, h⟩ := bind_eq_ok.mp h
    obtain ⟨others, hothers, h⟩ := bind_eq_ok.mp h
    cases h
    rw [putAll_cons, exceptT_bind_apply, put_of_seen hfirst]
    dsimp only
    rw [ih hothers, List.append_assoc, List.singleton_append]

/-- The first thing that the console refuses breaks the command down. -/
theorem putAll_of_refused {e : PrintError} (h : prints.mapM seen = .error e) (effects : Effects) :
    (putAll prints effects).1 = .error (.breakdown (.console e)) := by
  induction prints generalizing effects with
  | nil => cases h
  | cons entry prints ih =>
    rw [List.mapM_cons] at h
    rw [putAll_cons, exceptT_bind_apply]
    rcases bind_eq_error.mp h with hfirst | ⟨first, hfirst, h⟩
    · rw [put_of_refused hfirst]
    · rw [put_of_seen hfirst]
      rcases bind_eq_error.mp h with hothers | ⟨others, -, h⟩
      · exact ih hothers _
      · cases h

/-- **What a command that only prints comes to**, where the console takes all that it prints. -/
theorem ofAction_telling (h : prints.mapM seen = .ok shown) (stop : Option Stop) :
    Report.ofAction (telling prints stop) = ⟨⟨shown, []⟩, stop⟩ := by
  unfold Report.ofAction telling
  rw [exceptT_bind_apply, putAll_of_seen h]
  cases stop with
  | none => rfl
  | some stop => rfl

/-- **It stops as it is meant to**, or on the first thing that the console refuses. -/
theorem stop_telling (prints : List (Channel × Printed)) (stop : Option Stop) :
    (Report.ofAction (telling prints stop)).stop =
      match prints.mapM seen with
      | .ok _ => stop
      | .error e => some (.breakdown (.console e)) := by
  cases h : prints.mapM seen with
  | ok shown => rw [ofAction_telling h]
  | error e =>
    have hstop := putAll_of_refused h ⟨[], []⟩
    unfold Report.ofAction telling
    rw [exceptT_bind_apply]
    rcases hput : putAll prints ⟨[], []⟩ with ⟨_, after⟩
    rw [hput] at hstop
    cases hstop
    rfl

theorem telling_cons (entry : Channel × Printed) (prints : List (Channel × Printed)) (stop : Option Stop) :
    telling (entry :: prints) stop = put entry.1 entry.2 >>= fun _ => telling prints stop := by
  unfold telling
  rw [putAll_cons, bind_assoc]

/-- What is printed last is the end of a command that goes through. -/
theorem telling_last (entry : Channel × Printed) : telling [entry] none = put entry.1 entry.2 :=
  (telling_cons entry [] none).trans (bind_pure (put entry.1 entry.2))

/-- The note of a failure. -/
def failureNote (what message : Text) : Channel × Printed :=
  (.diagnostics, .text (txt "[red]" ++ what ++ txt ":[/red] " ++ Console.escape message))

theorem reportFailure_escape (what message : Text) :
    (reportFailure what (Console.escape message) : Job Unit) =
      telling [failureNote what message] (some .reported) :=
  (telling_cons (failureNote what message) [] (some .reported)).symm

/-- The note of an expression that is refused. -/
def refusalNote (diagnostic : Diagnostic) : Channel × Printed :=
  (.diagnostics, .panel (txt "[red]" ++ diagnostic.kind.name ++ txt "[/red]") (Console.escape diagnostic.format))

theorem refuse_eq (diagnostic : Diagnostic) :
    (refuse diagnostic : Job Unit) = telling [refusalNote diagnostic] (some .reported) :=
  (telling_cons (refusalNote diagnostic) [] (some .reported)).symm

end

/-! ## Words -/

/-- Whether an option is one for variables. -/
def Setting.forVariables (setting : Setting) : Bool :=
  setting == .schema || setting == .value

/-- Options, each with its value in the next word, and behind two dashes the expression. -/
def evalWords (given : List (Setting × Text)) (expression : Text) : List Text :=
  given.flatMap (fun entry => [entry.1.name, entry.2]) ++ [txt "--", expression]

theorem word_of_forVariables {setting : Setting} (h : setting.forVariables = true) :
    (setting.name == txt "--") = false ∧
      Command.eval.signature.word setting.name = .ok (.opening setting setting.name) := by
  cases setting with
  | schema => exact ⟨by decide, rfl⟩
  | value => exact ⟨by decide, rfl⟩
  | _ => cases h

/-- The words of `eval` are told apart as they are put together. -/
theorem read_evalWords {given : List (Setting × Text)} (h : ∀ entry ∈ given, entry.1.forVariables = true)
    (expression : Text) :
    Command.eval.signature.read (evalWords given expression) = .ok ⟨given, false, [expression]⟩ := by
  induction given with
  | nil => rfl
  | cons entry given ih =>
    obtain ⟨hentry, hgiven⟩ := List.forall_mem_cons.mp h
    obtain ⟨hdashes, hword⟩ := word_of_forVariables hentry
    change Command.eval.signature.read (entry.1.name :: entry.2 :: evalWords given expression) = _
    rw [Signature.read, hdashes, if_neg Bool.false_ne_true, hword]
    dsimp only
    rw [ih hgiven]
    rfl

/-- **Options for variables and an expression can be given in words**, whatever they are. -/
theorem readWords_eval {given : List (Setting × Text)} (h : ∀ entry ∈ given, entry.1.forVariables = true)
    (expression : Text) :
    readWords (Command.eval.name :: evalWords given expression) = .ok (some ⟨.eval, given, .ok expression⟩) := by
  have htop : topSignature.read (Command.eval.name :: evalWords given expression) =
      .ok ⟨[], false, Command.eval.name :: evalWords given expression⟩ := rfl
  have hcall : Command.eval.call (evalWords given expression) = .ok (some ⟨.eval, given, .ok expression⟩) := by
    unfold Command.call
    rw [read_evalWords h]
    rfl
  have hwords : readWords (Command.eval.name :: evalWords given expression) =
      Command.eval.call (evalWords given expression) := by
    unfold readWords
    rw [htop]
    rfl
  rw [hwords, hcall]

/-! ## Options -/

/-- Options that were read so far: the grammar is the standard one, and the values are data. -/
structure Options.OfVariables (options : Options) : Prop where
  grammar : options.grammar = txt "standard"
  values : ∀ entry ∈ options.values, Value.IsData entry.2

theorem isData_of_jsonValue {given : Text × Text} {entry : Text × Value} (h : jsonValue given = .ok entry) :
    entry.2.IsData := by
  unfold jsonValue at h
  split at h
  · rename_i value hread
    cases h
    exact Json.isData_of_read hread
  · cases h
  · cases h

/-- An option for variables sets schemas, or values that are data. -/
theorem Options.OfVariables.set {options after : Options} (h : options.OfVariables) {setting : Setting}
    (hsetting : setting.forVariables = true) {texts : List Text}
    (hset : options.set setting texts = .ok after) : after.OfVariables := by
  cases setting with
  | schema =>
    obtain ⟨schemas, -, hset⟩ := bind_eq_ok.mp hset
    cases hset
    exact ⟨h.grammar, h.values⟩
  | value =>
    obtain ⟨given, -, hset⟩ := bind_eq_ok.mp hset
    obtain ⟨values, hvalues, hset⟩ := bind_eq_ok.mp hset
    cases hset
    refine ⟨h.grammar, fun entry hentry => ?_⟩
    obtain ⟨pair, -, hpair⟩ := exists_mem_of_mapM hvalues hentry
    exact isData_of_jsonValue hpair
  | _ => cases hsetting

theorem Options.OfVariables.foldlM {settings : List Setting} {texts : Setting → List Text}
    (hsettings : ∀ setting ∈ settings, setting.forVariables = true) {options after : Options}
    (h : options.OfVariables)
    (hfold : settings.foldlM (fun options setting => options.set setting (texts setting)) options = .ok after) :
    after.OfVariables := by
  induction settings generalizing options with
  | nil =>
    cases hfold
    exact h
  | cons setting settings ih =>
    obtain ⟨hsetting, hrest⟩ := List.forall_mem_cons.mp hsettings
    rw [List.foldlM_cons] at hfold
    obtain ⟨next, hnext, hfold⟩ := bind_eq_ok.mp hfold
    exact ih hrest (h.set hsetting hnext) hfold

/-- **Options for variables** keep to the standard grammar, and the values that they give are data. -/
theorem Options.ofVariables_of_given {given : List (Setting × Text)}
    (h : ∀ entry ∈ given, entry.1.forVariables = true) {options : Options}
    (hoptions : Options.ofGiven given = .ok options) : options.OfVariables := by
  have hstandard : Options.standard.OfVariables := ⟨rfl, fun entry hentry => absurd hentry List.not_mem_nil⟩
  refine hstandard.foldlM (fun setting hsetting => ?_) hoptions
  obtain ⟨entry, hentry, rfl⟩ := List.mem_map.mp (List.mem_eraseDups.mp hsetting)
  exact h entry hentry

end Mixfix.Cli
