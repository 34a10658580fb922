import FieldGuard.Proofs.Console.Outcomes
import FieldGuard.Proofs.Json.Text

/-! Output for other programs. In JSON mode a run prints one line with one JSON-RPC object, with two
exceptions: a reset that went well prints a sentence, and a failure that is told in general prints
nothing at all (`Invocation.replies_except_reset_and_general`). -/
namespace FieldGuard

section Finite

theorem Listing.finite_toJson (l : Listing) : l.toJson.Finite := by
  simp [Listing.toJson]

/-- A tolerance that is not finite is written as null. -/
theorem Settings.finite_toJson (s : Settings) : s.toJson.Finite := by
  have hepsilon : Json.Finite
      (if s.epsilon.isFinite then .number (.double s.epsilon) else .null) := by
    split
    · rename_i h
      exact .number h
    · exact .null
  simp only [Settings.toJson, Dictionary.map, Json.finite_object_iff, List.forall_mem_cons,
    List.forall_mem_map, Json.finite_string, hepsilon]
  simp

theorem Answer.finite_result {a : Answer} {v : Json} (h : a.result? = some v) : v.Finite := by
  cases a with
  | tokens source ts =>
    obtain rfl := Option.some.inj h
    simp [Listing.finite_toJson]
  | condition c =>
    obtain rfl := Option.some.inj h
    simp only [Json.finite_object_iff, List.forall_mem_cons, Json.finite_array_iff,
      List.forall_mem_map, Json.finite_string, Listing.finite_toJson]
    simp
  | verdict source name subject instances result =>
    obtain rfl := Option.some.inj h
    cases name <;> simp
  | settings s =>
    obtain rfl := Option.some.inj h
    exact s.finite_toJson
  | path p | changed key value | valid p =>
    obtain rfl := Option.some.inj h
    simp
  | reset => cases h
  | script shell => cases h

theorem ErrorReply.finite_data (r : ErrorReply) : ∀ m ∈ r.data, m.2.Finite := by
  unfold ErrorReply.data
  cases r.details <;> split <;> simp

theorem ErrorReply.finite_toJson (r : ErrorReply) : r.toJson.Finite := by
  have hdata : (Json.object r.data).Finite := .object r.finite_data
  simp only [toJson, Json.finite_object_iff, List.forall_mem_cons, List.forall_mem_append,
    Json.finite_string, Json.finite_integer, Json.finite_null]
  split <;> simp [-Json.finite_object_iff, hdata]

end Finite

section Replies

/-- A line with one JSON-RPC 2.0 object: with a result if the exit status is 0, otherwise with an
error whose code is the status below -32000. -/
def Report.IsReply (r : Report) : Prop :=
  ∃ kind content text, r.stdout.toList = text ++ ['\n'] ∧ '\n' ∉ text ∧
    (Json.object [("jsonrpc", .string "2.0"), (kind, content), ("id", .null)]).IsText text ∧
    if r.status = 0 then kind = "result"
    else kind = "error" ∧ ∃ message more, content =
      .object (("code", .number (.integer (-32000 - r.status))) ::
        ("message", .string message) :: more)

variable {r : Report}

theorem isText_line {v : Json} (h : v.Finite) :
    ∃ text, (asLine v.compact).toList = text ++ ['\n'] ∧ '\n' ∉ text ∧ v.IsText text :=
  ⟨v.compact.toList, by simp [asLine], (Json.isText_compact h).newline_notMem,
    Json.isText_compact h⟩

theorem Answer.isReply_stdout {a : Answer} {v : Json} (h : a.result? = some v) (e : String) :
    Report.IsReply ⟨0, a.stdout .json, e⟩ := by
  have hv := finite_result h
  obtain ⟨text, hout, hline, htext⟩ := isText_line (v := resultReply v) (by simp [resultReply, hv])
  refine ⟨"result", v, text, ?_, hline, htext, rfl⟩
  simpa only [Answer.stdout, h] using hout

theorem Failure.isReply_reply (f : Failure) (e : String) :
    Report.IsReply ⟨f.status, asLine f.reply.toJson.compact, e⟩ := by
  obtain ⟨text, hout, hline, htext⟩ := isText_line f.reply.finite_toJson
  refine ⟨"error", _, text, hout, hline, htext, ?_⟩
  rw [if_neg (Nat.ne_of_gt f.status_pos)]
  exact ⟨rfl, _, _, rfl⟩

theorem Report.IsReply.head?_stdout (h : r.IsReply) : r.stdout.toList.head? = some '\x7b' := by
  obtain ⟨kind, content, text, hout, -, htext, -⟩ := h
  rw [hout, List.head?_append, htext.head?_of_object]
  rfl

theorem not_isReply_of_stdout {out : String} (hr : r.stdout = out)
    (h : out.toList.head? ≠ some '\x7b') : ¬r.IsReply :=
  fun hreply => h (hr ▸ hreply.head?_stdout)

theorem Command.Gives.eq_reset {a : Answer} (h : Gives .reset a) : a = .reset := by
  cases h
  rfl

/-- Of all answers, only those of a reset and of `completions` have no result. -/
theorem Command.Gives.exists_result {c : Command} {a : Answer} (h : c.Gives a) (hreset : c ≠ .reset)
    (hscript : ∀ shell, c ≠ .completions shell) : ∃ v, a.result? = some v := by
  cases h with
  | reset => exact absurd rfl hreset
  | script shell => exact absurd rfl (hscript shell)
  | _ => exact ⟨_, rfl⟩

theorem Failure.report_json {f : Failure} (h : ∀ cause, f ≠ .general cause) :
    f.report .json = ⟨f.status, asLine f.reply.toJson.compact, ""⟩ := by
  cases f with
  | general cause => exact absurd rfl (h cause)
  | _ => rfl

theorem Failure.status_ne_one {f : Failure} (h : ∀ cause, f ≠ .general cause) : f.status ≠ 1 := by
  cases f with
  | general cause => exact absurd rfl (h cause)
  | _ => simp [status]

/-- What a run prints in JSON mode, whatever its requests are answered: a reply, but for a reset
that went well, which prints a sentence, and a failure that is told in general, with status 1, which
prints nothing; only commands that work on the path of the settings fail so. -/
theorem Invocation.replies_except_reset_and_general {env : Environment} {i : Invocation}
    {r : Report} (hr : (i.run env).Yields r) (hjson : i.options.json = true)
    (hquiet : i.options.quiet = false) (hscript : ∀ shell, i.command ≠ .completions shell) :
    (r.IsReply ↔ r.status ≠ 1 ∧ ¬(i.command = .reset ∧ r.status = 0)) ∧
      (i.command = .reset → r.status = 0 → r.stdout = asLine Answer.resetText) ∧
      (r.status = 1 → r.stdout = "" ∧ i.command.usesPath = true) := by
  have hmode : OutputMode.ofOptions env.terminal i.options = .json := by
    simp [OutputMode.ofOptions, hjson, hquiet]
  obtain ⟨log, outcome, rfl, hok, herror⟩ := yields_run hr
  rw [hmode]
  cases outcome with
  | ok a =>
    by_cases hreset : i.command = .reset
    · obtain rfl := Command.Gives.eq_reset (hreset ▸ hok a rfl)
      have hstdout : (Report.of .json (.ok .reset)).stdout = asLine Answer.resetText := rfl
      exact ⟨iff_of_false (not_isReply_of_stdout hstdout (by decide)) fun h => h.2 ⟨hreset, rfl⟩,
        fun _ _ => hstdout, fun h => absurd h Nat.zero_ne_one⟩
    · obtain ⟨v, hv⟩ := (hok a rfl).exists_result hreset hscript
      exact ⟨iff_of_true (Answer.isReply_stdout hv _) ⟨Nat.zero_ne_one, fun h => hreset h.1⟩,
        fun h => absurd h hreset, fun h => absurd h Nat.zero_ne_one⟩
  | error f =>
    by_cases hf : ∃ cause, f = .general cause
    · obtain ⟨cause, rfl⟩ := hf
      have hstdout : (Failure.report .json (.general cause)).stdout = "" := rfl
      exact ⟨iff_of_false (not_isReply_of_stdout hstdout (by decide)) fun h => h.1 rfl,
        fun _ h => absurd h Nat.one_ne_zero, fun _ => ⟨hstdout, herror _ rfl⟩⟩
    · have hone := Failure.status_ne_one (not_exists.mp hf)
      have hzero := Nat.ne_of_gt f.status_pos
      simp only [Report.of, Failure.report_json (not_exists.mp hf)]
      exact ⟨iff_of_true (f.isReply_reply _) ⟨hone, fun h => hzero h.2⟩,
        fun _ h => absurd h hzero, fun h => absurd h hone⟩

/-- A condition that breaks off is told in a reply with status 4. -/
theorem Invocation.replies_to_broken_condition :
    let i : Invocation := ⟨⟨none, true, false, false, false⟩, .check "A &&" false⟩
    let env : Environment := ⟨some "home", none, none, false⟩
    let r := (FileStore.run (i.run env) ⟨[], []⟩).1
    (Invocation.ofArguments ["--json", "check", "A &&"]).toOption = some i ∧ r.status = 4 ∧
      r.IsReply := by
  intro i env r
  have hstatus : r.status = 4 := by decide +kernel
  have h := replies_except_reset_and_general (FileStore.yields_run (i.run env) ⟨[], []⟩) rfl rfl
    nofun
  have hone : r.status ≠ 1 := by
    rw [hstatus]
    decide
  exact ⟨by decide +kernel, hstatus, h.1.mpr ⟨hone, nofun⟩⟩

/-- A reset that goes well prints no reply, and neither does one whose file is a folder. -/
theorem Invocation.reset_prints_no_reply :
    let i : Invocation := ⟨⟨some "c", true, false, false, false⟩, .reset⟩
    let env : Environment := ⟨some "home", none, none, false⟩
    let r := (FileStore.run (i.run env) ⟨[], []⟩).1
    let failed := (FileStore.run (i.run env) ⟨[(["c", "x"], "")], []⟩).1
    (Invocation.ofArguments ["--json", "config", "reset", "--config", "c"]).toOption = some i ∧
      r.status = 0 ∧ ¬r.IsReply ∧ failed.status = 1 ∧ ¬failed.IsReply := by
  intro i env r failed
  have hr : r.stdout = asLine Answer.resetText := by decide +kernel
  have hfailed : failed.stdout = "" := by decide +kernel
  exact ⟨by decide +kernel, by decide +kernel, not_isReply_of_stdout hr (by decide),
    by decide +kernel, not_isReply_of_stdout hfailed (by decide)⟩

end Replies
end FieldGuard
