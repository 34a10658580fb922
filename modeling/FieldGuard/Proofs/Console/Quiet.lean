import FieldGuard.Proofs.Console.Outcomes

/-! Quiet output. A quiet run tells its errors on the error stream and prints nothing, but for three
commands whose answers are printed all the same, and a list of defects
(`Invocation.quiet_except_told_and_defects`). -/
namespace FieldGuard

/-- The commands whose answers are printed in quiet mode too. -/
def Command.tells : Command → Bool
  | .show | .path | .verify => true
  | _ => false

theorem asLine_ne_empty (text : String) : asLine text ≠ "" := by
  simp [asLine]

/-- An answer is printed exactly if its command is one of those; it is never an empty text. -/
theorem Command.Gives.quiet_stdout_eq_empty_iff {c : Command} {a : Answer} (h : c.Gives a)
    (hscript : ∀ shell, c ≠ .completions shell) : a.stdout .quiet = "" ↔ c.tells = false := by
  cases h with
  | script shell => exact absurd rfl (hscript shell)
  | settings s | path p | valid p => exact iff_of_false (asLine_ne_empty _) nofun
  | _ => exact iff_of_true rfl rfl

/-- Only a list of defects is printed of a failure. -/
theorem Failure.listing_cases (f : Failure) : f.listing = "" ∨ ∃ path ds, f = .defects path ds := by
  cases f with
  | defects path ds => exact .inr ⟨path, ds, rfl⟩
  | _ => exact .inl rfl

/-- What a quiet run prints, whatever its requests are answered: an answer in case of three commands
only, and on failure nothing but the list of the defects of the settings, with the error on the
other stream. -/
theorem Invocation.quiet_except_told_and_defects {env : Environment} {i : Invocation} {r : Report}
    (hr : (i.run env).Yields r) (hquiet : i.options.quiet = true)
    (hscript : ∀ shell, i.command ≠ .completions shell) :
    (r.status = 0 → (r.stdout = "" ↔ i.command.tells = false)) ∧
      (r.status ≠ 0 → ∃ (log : String) (f : Failure),
        r.status = f.status ∧ r.stderr = log ++ f.errorText ∧
        (r.stdout = "" ∨ ∃ path ds, i.command = .verify ∧ f = .defects path ds ∧ ds ≠ [] ∧
          r.stdout = f.listing)) := by
  have hmode : OutputMode.ofOptions env.terminal i.options = .quiet := by
    simp [OutputMode.ofOptions, hquiet]
  obtain ⟨log, outcome, rfl, hok, herror⟩ := yields_run hr
  rw [hmode]
  cases outcome with
  | ok a =>
    exact ⟨fun _ => (hok a rfl).quiet_stdout_eq_empty_iff hscript, fun h => absurd rfl h⟩
  | error f =>
    have hreport : f.report .quiet = ⟨f.status, f.listing, f.errorText⟩ := rfl
    refine ⟨fun h => absurd h (Nat.ne_of_gt f.status_pos), fun _ => ⟨log, f, rfl, rfl, ?_⟩⟩
    rcases f.listing_cases with hempty | ⟨path, ds, rfl⟩
    · exact .inl hempty
    · obtain ⟨hverify, hds⟩ := herror _ rfl
      exact .inr ⟨path, ds, hverify, rfl, hds, rfl⟩

/-- A quiet evaluation on a file that is not there tells the error and prints nothing. -/
theorem Invocation.quiet_without_subject :
    let i : Invocation := ⟨⟨none, false, false, true, false⟩, .eval (.written "A") "s.json"⟩
    let env : Environment := ⟨some "home", none, none, false⟩
    let r := (FileStore.run (i.run env) ⟨[], []⟩).1
    (Invocation.ofArguments ["-q", "eval", "A", "-s", "s.json"]).toOption = some i ∧
      r.status = 6 ∧ r.stdout = "" := by
  intro i env r
  have hstatus : r.status = 6 := by decide +kernel
  have hfailed : r.status ≠ 0 := by
    rw [hstatus]
    decide
  have h := quiet_except_told_and_defects (FileStore.yields_run (i.run env) ⟨[], []⟩) rfl nofun
  obtain ⟨log, f, -, -, hempty | ⟨path, ds, hverify, -⟩⟩ := h.2 hfailed
  · exact ⟨by decide +kernel, hstatus, hempty⟩
  · cases hverify

/-- The path of the settings is printed in quiet mode, and so are the defects of the settings. -/
theorem Invocation.quiet_prints_path_and_defects :
    let path : Invocation := ⟨⟨some "c", false, false, true, false⟩, .path⟩
    let verify : Invocation := ⟨⟨some "c", false, false, true, false⟩, .verify⟩
    let env : Environment := ⟨some "home", none, none, false⟩
    let told := (FileStore.run (path.run env) ⟨[], []⟩).1
    let failed := (FileStore.run (verify.run env)
      ⟨[(["c"], "\x7b\"settings\":\x7b\"log_level\":\"loud\"\x7d\x7d")], []⟩).1
    (Invocation.ofArguments ["-q", "config", "path", "--config", "c"]).toOption = some path ∧
      told.status = 0 ∧ told.stdout = "c\n" ∧
      (Invocation.ofArguments ["-q", "config", "verify", "--config", "c"]).toOption = some verify ∧
      failed.status = 3 ∧ failed.stdout ≠ "" := by
  decide +kernel

end FieldGuard
