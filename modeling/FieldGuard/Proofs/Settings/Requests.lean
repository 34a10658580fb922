import FieldGuard.Proofs.Settings.Changes

/-! Sequences of requests to change settings, granted and refused ones mixed. Settings stay valid,
and each part of them is what the last request granted for its own key has written
(`changes_valid_last_written`). -/
namespace FieldGuard
namespace Settings

section Requests

/-- The settings after requests, one after another. -/
def changes (s : Settings) (requests : List (String × String)) : Settings :=
  requests.foldl (fun s request => (s.change request.1 request.2).1) s

/-- The requests that are granted, in their order. -/
def granted (s : Settings) : List (String × String) → List (String × String)
  | [] => []
  | (key, value) :: rest =>
    match s.change key value with
    | (t, .ok ()) => (key, value) :: t.granted rest
    | (t, .error _) => t.granted rest

/-- The value of the last request that is granted for a key. -/
def last? (s : Settings) (requests : List (String × String)) (key : String) : Option String :=
  (s.granted requests).reverse.lookup key

variable {s : Settings} {key value : String} {rest : List (String × String)}

theorem Valid.changes (h : s.Valid) (requests : List (String × String)) :
    (s.changes requests).Valid := by
  induction requests generalizing s with
  | nil => exact h
  | cons request rest ih =>
    refine ih (s := (s.change request.1 request.2).1) ?_
    obtain ⟨target, t, -, hgranted, heq⟩ | ⟨e, heq⟩ := change_cases s request.1 request.2
    · rw [heq]
      exact hgranted.valid h
    · rw [heq]
      exact h

theorem last?_cons_of_granted {t : Settings} (h : s.change key value = (t, .ok ()))
    (key' : String) :
    s.last? ((key, value) :: rest) key' =
      (t.last? rest key').or (if key' = key then some value else none) := by
  simp only [last?, granted, h, List.reverse_cons, List.lookup_append, Dictionary.lookup_cons_if,
    List.lookup_nil]

theorem last?_cons_of_refused {e : ChangeError} (h : s.change key value = (s, .error e))
    (key' : String) : s.last? ((key, value) :: rest) key' = s.last? rest key' := by
  simp only [last?, granted, h]

/-- A part of the settings that only changes of one target touch is what the last granted request
with the key of this target has written, and the old part where there is none. -/
theorem changes_last {α : Type} (part : Settings → α) (target : Target) (written : String → α → Prop)
    (own : ∀ {s value t}, Granted s target value t → written value (part t))
    (other : ∀ {s target' value t}, Granted s target' value t → target' ≠ target → part t = part s)
    (s : Settings) (requests : List (String × String)) :
    match s.last? requests target.key with
    | some value => written value (part (s.changes requests))
    | none => part (s.changes requests) = part s := by
  induction requests generalizing s with
  | nil => rfl
  | cons request rest ih =>
    obtain ⟨key, value⟩ := request
    have hrun : s.changes ((key, value) :: rest) = (s.change key value).1.changes rest := rfl
    obtain ⟨target', t, rfl, hgranted, heq⟩ | ⟨e, heq⟩ := change_cases s key value
    · rw [hrun, last?_cons_of_granted heq, heq]
      have hrest := ih t
      -- A later request for the target decides; without one it is this request, if it is for it.
      cases hlast : t.last? rest target.key with
      | some later => simpa only [hlast, Option.some_or] using hrest
      | none =>
        simp only [hlast] at hrest
        by_cases htarget : target' = target
        · subst htarget
          simpa only [Option.none_or, if_pos, hrest] using own hgranted
        · have hkey : target.key ≠ target'.key := fun h => htarget (Target.key_injective h).symm
          simpa only [Option.none_or, if_neg hkey, hrest] using other hgranted htarget
    · rw [hrun, last?_cons_of_refused heq, heq]
      exact ih s

end Requests

/-- From settings that pass every check, such as the default ones, any requests lead to settings
that do. Each is granted or has no effect, and the tolerance, the log level and every named
condition are what the last request granted for their key has given. -/
theorem changes_valid_last_written {ε : Type} :
    default.Valid ∧ (∀ s : Settings, (s.defects : Logged ε _).outcome = .ok [] ↔ s.Valid) ∧
    ∀ s : Settings, s.Valid → ∀ requests : List (String × String),
      let after := s.changes requests
      after.Valid ∧
      (∀ key value t, after.change key value = (t, .ok ()) ↔
        ∃ target : Target, key = target.key ∧ Granted after target value t) ∧
      (∀ key value e, (after.change key value).2 = .error e → (after.change key value).1 = after) ∧
      (∀ name, match s.last? requests ("conditions." ++ name) with
        | some value =>
          after.condition? name = if value.toList.all isBlank then none else some value
        | none => after.condition? name = s.condition? name) ∧
      (match s.last? requests "settings.epsilon" with
        | some value => Numeral.read value = .ok after.epsilon
        | none => after.epsilon = s.epsilon) ∧
      (match s.last? requests "settings.log_level" with
        | some value => after.logLevel = lowercase value
        | none => after.logLevel = s.logLevel) := by
  refine ⟨valid_default, fun s => outcome_defects_eq_nil_iff, fun s hs requests => ?_⟩
  refine ⟨hs.changes requests, fun _ _ _ => change_eq_ok_iff, fun _ _ _ => change_of_error,
    fun name => ?_, ?_, ?_⟩
  · exact changes_last (·.condition? name) (.condition name)
      (fun value source => source = if value.toList.all isBlank then none else some value)
      Granted.condition?_own Granted.condition?_other s requests
  · exact changes_last (·.epsilon) .epsilon (fun value x => Numeral.read value = .ok x)
      (fun | .epsilon read _ _ => read) Granted.epsilon_other s requests
  · exact changes_last (·.logLevel) .logLevel (fun value level => level = lowercase value)
      (fun | .logLevel _ => rfl) Granted.logLevel_other s requests

theorem changes_valid_last_written_points :
    let requests := [("settings.log_level", "DEBUG"), ("conditions.mesh.visible", "A"),
      ("conditions.mesh", "B"), ("conditions.mesh.visible", "A =="), ("conditions.mesh", " "),
      ("settings.epsilon", "-1")]
    let after := default.changes requests
    default.Valid ∧ after.Valid ∧ after.condition? "mesh.visible" = some "A" ∧
      after.condition? "mesh" = none ∧ after.epsilon = default.epsilon ∧
      after.logLevel = "debug" := by
  intro requests after
  have h := (changes_valid_last_written (ε := Empty)).2.2 default valid_default requests
  obtain ⟨hvalid, -, -, hconditions, hepsilon, hlevel⟩ := h
  have hvisible : default.last? requests ("conditions." ++ "mesh.visible") = some "A" := by
    decide +kernel
  have hmesh : default.last? requests ("conditions." ++ "mesh") = some " " := by
    decide +kernel
  have hnone : default.last? requests "settings.epsilon" = none := by
    decide +kernel
  have hdebug : default.last? requests "settings.log_level" = some "DEBUG" := by
    decide +kernel
  have hcondition := hconditions "mesh.visible"
  have hremoved := hconditions "mesh"
  rw [hvisible] at hcondition
  rw [hmesh] at hremoved
  rw [hnone] at hepsilon
  rw [hdebug] at hlevel
  exact ⟨valid_default, hvalid, hcondition, hremoved, hepsilon,
    hlevel.trans (by decide +kernel)⟩

end Settings
end FieldGuard
