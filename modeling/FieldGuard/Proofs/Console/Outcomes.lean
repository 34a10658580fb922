import FieldGuard.Console.Run

/-! What a run can come to. A program on files is followed along every answer to its requests, so
what is shown holds whatever the files hold and whichever requests fail. Each command has answers of
its own kind, and only a check of the settings fails with a list of defects. -/
namespace FieldGuard

namespace FileProgram

variable {α β : Type}

/-- The results of a program, for some answers to its requests. -/
inductive Yields : FileProgram α → α → Prop
  | done (a : α) : Yields (.done a) a
  | probe {path next a} (answer) (h : Yields (next answer) a) : Yields (.probe path next) a
  | read {path next a} (answer) (h : Yields (next answer) a) : Yields (.read path next) a
  | createFolders {path next a} (answer) (h : Yields (next answer) a) :
    Yields (.createFolders path next) a
  | write {path content next a} (answer) (h : Yields (next answer) a) :
    Yields (.write path content next) a

theorem yields_pure_iff {a b : α} : Yields (pure a) b ↔ b = a := by
  constructor
  · rintro ⟨⟩
    rfl
  · rintro rfl
    exact .done b

theorem yields_bind_iff {p : FileProgram α} {f : α → FileProgram β} {b : β} :
    Yields (p >>= f) b ↔ ∃ a, Yields p a ∧ Yields (f a) b := by
  rw [bind_def]
  constructor
  · intro h
    induction p with
    | done a => exact ⟨a, .done a, h⟩
    | probe path next ih =>
      cases h with
      | probe answer h =>
        obtain ⟨a, hp, hf⟩ := ih answer h
        exact ⟨a, .probe answer hp, hf⟩
    | read path next ih =>
      cases h with
      | read answer h =>
        obtain ⟨a, hp, hf⟩ := ih answer h
        exact ⟨a, .read answer hp, hf⟩
    | createFolders path next ih =>
      cases h with
      | createFolders answer h =>
        obtain ⟨a, hp, hf⟩ := ih answer h
        exact ⟨a, .createFolders answer hp, hf⟩
    | write path content next ih =>
      cases h with
      | write answer h =>
        obtain ⟨a, hp, hf⟩ := ih answer h
        exact ⟨a, .write answer hp, hf⟩
  · rintro ⟨a, hp, hf⟩
    induction hp with
    | done a => exact hf
    | probe answer _ ih => exact .probe answer (ih hf)
    | read answer _ ih => exact .read answer (ih hf)
    | createFolders answer _ ih => exact .createFolders answer (ih hf)
    | write answer _ ih => exact .write answer (ih hf)

theorem yields_map_iff {p : FileProgram α} {f : α → β} {b : β} :
    Yields (f <$> p) b ↔ ∃ a, Yields p a ∧ b = f a := by
  rw [← bind_pure_comp, yields_bind_iff]
  simp only [yields_pure_iff]

end FileProgram

/-- A store answers the requests of a program in one of the possible ways. -/
theorem FileStore.yields_run {α : Type} (p : FileProgram α) (s : FileStore) :
    p.Yields (run p s).1 := by
  induction p generalizing s with
  | done a => exact .done a
  | probe path next ih => exact .probe _ (ih _ s)
  | read path next ih => exact .read _ (ih _ s)
  | createFolders path next ih => exact .createFolders _ (ih _ _)
  | write path content next ih => exact .write _ (ih _ _)

namespace Task

variable {α β ε : Type} {P : α → Prop} {P' : β → Prop} {Q : Failure → Prop}

/-- Whatever its requests are answered, a task comes to a result of which `P` holds, or to a failure
of which `Q` holds. -/
def Ensures (t : Task α) (P : α → Prop) (Q : Failure → Prop) : Prop :=
  ∀ r, t.toProgram.Yields r →
    match r.outcome with
    | .ok a => P a
    | .error f => Q f

theorem ensures_pure {a : α} (h : P a) : Ensures (pure a) P Q := by
  intro r hr
  obtain rfl := FileProgram.yields_pure_iff.mp hr
  exact h

theorem ensures_fail {f : Failure} (h : Q f) : Ensures (fail f : Task α) P Q := by
  intro r hr
  obtain rfl := FileProgram.yields_pure_iff.mp hr
  exact h

theorem Ensures.bind {t : Task α} {f : α → Task β} (ht : t.Ensures P Q)
    (hf : ∀ a, P a → (f a).Ensures P' Q) : Ensures (t >>= f) P' Q := by
  intro r hr
  obtain ⟨x, hx, hnext⟩ := FileProgram.yields_bind_iff.mp hr
  have hpost := ht x hx
  cases ho : x.outcome with
  | error e =>
    rw [ho] at hpost
    simp only [continueWith, ho] at hnext
    obtain rfl := FileProgram.yields_pure_iff.mp hnext
    exact hpost
  | ok a =>
    rw [ho] at hpost
    simp only [continueWith, ho] at hnext
    obtain ⟨y, hy, rfl⟩ := FileProgram.yields_map_iff.mp hnext
    exact hf a hpost y hy

theorem ensures_logged {f : ε → Failure} {x : Logged ε α} (hf : ∀ e, Q (f e)) :
    Ensures (logged f x) (fun _ => True) Q := by
  intro r hr
  obtain rfl := FileProgram.yields_pure_iff.mp hr
  rw [Logged.outcome_mapError]
  cases x.outcome with
  | ok a => trivial
  | error e => exact hf e

theorem ensures_except {f : ε → Failure} {x : Except ε α} (hf : ∀ e, Q (f e)) :
    Ensures (except f x) (fun _ => True) Q :=
  ensures_logged hf

theorem ensures_loggedFiles {f : ε → Failure} {p : FileProgram (Logged ε α)} (hf : ∀ e, Q (f e)) :
    Ensures (loggedFiles f p) (fun _ => True) Q := by
  intro r hr
  obtain ⟨x, -, rfl⟩ := FileProgram.yields_map_iff.mp hr
  exact ensures_logged hf _ (.done _)

theorem ensures_files {f : ε → Failure} {p : FileProgram (Except ε α)} (hf : ∀ e, Q (f e)) :
    Ensures (files f p) (fun _ => True) Q := by
  intro r hr
  obtain ⟨x, -, rfl⟩ := FileProgram.yields_map_iff.mp hr
  exact ensures_except hf _ (.done _)

end Task

namespace Command

/-- The answers of a command. -/
inductive Gives : Command → Answer → Prop
  | tokens (source ts) : Gives (.check source true) (.tokens source ts)
  | condition (source c) : Gives (.check source false) (.condition c)
  | verdict (origin file source name subject instances result) :
    Gives (.eval origin file) (.verdict source name subject instances result)
  | settings (s) : Gives .show (.settings s)
  | path (p) : Gives .path (.path p)
  | changed (key value) : Gives (.set key value) (.changed key value)
  | reset : Gives .reset .reset
  | valid (p) : Gives .verify (.valid p)
  | script (shell) : Gives (.completions shell) (.script shell)

/-- Whether a command works on the path of the settings itself, to tell it, to write there or to
check what is there. -/
def usesPath : Command → Bool
  | .path | .set _ _ | .reset | .verify => true
  | _ => false

/-- The failures of a command: a list of defects, which is never empty, comes from a check only, and
a failure that is told in general from a command that works on the path of the settings. -/
def MeetsFailure (c : Command) : Failure → Prop
  | .defects _ ds => c = .verify ∧ ds ≠ []
  | .general _ => c.usesPath = true
  | _ => True

variable {env : Environment} {o : Options} {c : Command}

theorem ensures_loadSettings :
    (loadSettings env o).Ensures (fun _ => True) c.MeetsFailure :=
  (Task.ensures_except fun _ => trivial).bind fun _ _ =>
    Task.ensures_loggedFiles fun _ => trivial

theorem ensures_path (h : c.usesPath = true) :
    (Task.except .general (env.path? o)).Ensures (fun _ => True) c.MeetsFailure :=
  Task.ensures_except fun _ => h

theorem ensures_save (h : c.usesPath = true) (s : Settings) (path : String) :
    (Task.files .general (s.save path)).Ensures (fun _ => True) c.MeetsFailure :=
  Task.ensures_files fun _ => h

theorem ensures_findSource (s : Settings) (origin : ConditionSource) :
    (findSource s origin).Ensures (fun _ => True) c.MeetsFailure := by
  cases origin with
  | written source => exact Task.ensures_pure trivial
  | named name =>
    cases h : s.condition? name with
    | some source =>
      simp only [findSource, h]
      exact Task.ensures_pure trivial
    | none =>
      simp only [findSource, h]
      exact Task.ensures_fail trivial

theorem ensures_evaluateOn (origin : ConditionSource) (file : String) :
    (evaluateOn env o origin file).Ensures (Gives (.eval origin file)) c.MeetsFailure :=
  ensures_loadSettings.bind fun s _ =>
    (ensures_findSource s origin).bind fun _ _ =>
      (Task.ensures_files fun _ => trivial).bind fun _ _ =>
        (Task.ensures_logged fun _ => trivial).bind fun _ _ =>
          (Task.ensures_logged fun _ => trivial).bind fun _ _ =>
            Task.ensures_pure (.verdict ..)

/-- A command comes to an answer of its own kind, or to a failure. -/
theorem ensures_task (c : Command) : (c.task env o).Ensures c.Gives c.MeetsFailure := by
  cases c with
  | check source tokens =>
    cases tokens with
    | true =>
      exact (Task.ensures_except fun _ => trivial).bind fun _ _ => Task.ensures_pure (.tokens ..)
    | false =>
      exact (Task.ensures_logged fun _ => trivial).bind fun _ _ => Task.ensures_pure (.condition ..)
  | eval origin file => exact ensures_evaluateOn origin file
  | «show» => exact ensures_loadSettings.bind fun _ _ => Task.ensures_pure (.settings _)
  | path => exact (ensures_path rfl).bind fun _ _ => Task.ensures_pure (.path _)
  | set key value =>
    exact ensures_loadSettings.bind fun _ _ =>
      (ensures_path rfl).bind fun _ _ =>
        (Task.ensures_logged fun _ => trivial).bind fun _ _ =>
          (ensures_save rfl _ _).bind fun _ _ => Task.ensures_pure (.changed ..)
  | reset =>
    exact (ensures_path rfl).bind fun _ _ =>
      (ensures_save rfl _ _).bind fun _ _ => Task.ensures_pure .reset
  | verify =>
    refine (ensures_path rfl).bind fun _ _ =>
      (Task.ensures_loggedFiles fun _ => trivial).bind fun defects _ => ?_
    split
    · exact Task.ensures_pure (.valid _)
    · rename_i h
      exact Task.ensures_fail ⟨rfl, by simpa using h⟩
  | completions shell => exact Task.ensures_pure (.script shell)

end Command

/-- The output and the status of a run are those of the report on what the command came to; the log
is in front of its errors. -/
theorem Invocation.yields_run {env : Environment} {i : Invocation} {r : Report}
    (h : (i.run env).Yields r) :
    ∃ log outcome, r = { Report.of (.ofOptions env.terminal i.options) outcome with
        stderr := log ++ (Report.of (.ofOptions env.terminal i.options) outcome).stderr } ∧
      (∀ a, outcome = .ok a → i.command.Gives a) ∧
      ∀ f, outcome = .error f → i.command.MeetsFailure f := by
  obtain ⟨⟨filter, remarks⟩, -, h⟩ := FileProgram.yields_bind_iff.mp h
  obtain ⟨x, hx, h⟩ := FileProgram.yields_bind_iff.mp h
  obtain rfl := FileProgram.yields_pure_iff.mp h
  have hpost := Command.ensures_task i.command x hx
  refine ⟨asLines remarks ++ filter.text x.notes, x.outcome, rfl, fun a ha => ?_, fun f hf => ?_⟩
  · rw [ha] at hpost
    exact hpost
  · rw [hf] at hpost
    exact hpost

end FieldGuard
