import FieldGuard.Settings.Change

/-! Settings that pass every check. A check of settings always comes to an end and finds nothing
exactly if the tolerance is finite and not negative, the log level is known in any case, and every
named condition can be read (`outcome_defects_eq_nil_iff`). -/
namespace FieldGuard
namespace Settings

/-- What the checks ask of settings. -/
structure Valid (s : Settings) : Prop where
  finite : s.epsilon.isFinite = true
  nonneg : 0 ≤ s.epsilon
  level : ∃ l : LogLevel, lowercase s.logLevel = l.name
  conditions : ∀ name source, s.condition? name = some source → ∃ c, parse source = .ok c

section Tolerance

theorem lt_zero_iff {x : Float} :
    x < 0 ↔ x.toModel.unpack.lt (.zero .positive) = true :=
  decide_eq_true_iff

theorem zero_le_iff {x : Float} :
    0 ≤ x ↔ Float.Model.UnpackedFloat.le (.zero .positive) x.toModel.unpack = true :=
  decide_eq_true_iff

/-- A finite number is not below zero exactly if it is zero or above; without finiteness the two
differ at what is no number. -/
theorem validEpsilon_iff {x : Float} : validEpsilon x = true ↔ x.isFinite = true ∧ 0 ≤ x := by
  have hfinite : x.isFinite = x.toModel.unpack.isFinite := rfl
  rw [validEpsilon, Bool.and_eq_true, Bool.not_eq_true', decide_eq_false_iff_not, lt_zero_iff,
    zero_le_iff, hfinite]
  refine and_congr_right fun hx => ?_
  cases hu : x.toModel.unpack with
  | notANumber | infinity sign =>
    rw [hu] at hx
    cases hx
  | zero sign => exact ⟨fun _ => rfl, fun _ => Bool.false_ne_true⟩
  | finite sign mantissa exponent pos =>
    cases sign with
    | positive => exact ⟨fun _ => rfl, fun _ => Bool.false_ne_true⟩
    | negative => exact ⟨fun h => absurd rfl h, fun h => absurd h Bool.false_ne_true⟩

end Tolerance

section Level

theorem mem_all (l : LogLevel) : l ∈ LogLevel.all := by
  cases l <;> decide

theorem validLogLevel_iff {level : String} :
    validLogLevel level = true ↔ ∃ l : LogLevel, lowercase level = l.name := by
  rw [validLogLevel, LogLevel.ofName?, List.find?_isSome]
  exact ⟨fun ⟨l, _, h⟩ => ⟨l, (beq_iff_eq.mp h).symm⟩,
    fun ⟨l, h⟩ => ⟨l, mem_all l, beq_iff_eq.mpr h.symm⟩⟩

/-- The name of a level is in lower case already, so a level that is stored passes the check that
its text passed before. -/
theorem lowercase_name (l : LogLevel) : lowercase l.name = l.name := by
  cases l <;> decide +kernel

end Level

section Checks

variable {ε : Type}

/-- What is wrong with one named condition. -/
def conditionDefect? (e : String × String) : Option Defect :=
  match parse e.2 with
  | .ok _ => none
  | .error cause => some (.condition e.1 cause)

theorem conditionDefect?_eq_none_iff {e : String × String} :
    conditionDefect? e = none ↔ ∃ c, parse e.2 = .ok c := by
  cases h : parse e.2 <;> simp [conditionDefect?, h]

theorem outcome_conditionDefects (es : List (String × String)) :
    (conditionDefects es : Logged ε _).outcome = .ok (es.filterMap conditionDefect?) := by
  induction es with
  | nil => rfl
  | cons e rest ih =>
    obtain ⟨name, source⟩ := e
    rw [conditionDefects, List.filterMap_cons]
    cases hp : parse source <;> simp [hp, ih, conditionDefect?, Except.map]

theorem outcome_defects (s : Settings) :
    (s.defects : Logged ε _).outcome = .ok
      ((if validEpsilon s.epsilon then [] else [.epsilon s.epsilon]) ++
        (if validLogLevel s.logLevel then [] else [.logLevel s.logLevel]) ++
        s.conditions.entries.filterMap conditionDefect?) := by
  rw [defects, Logged.outcome_bind, outcome_conditionDefects]
  rfl

theorem outcome_defects_eq_nil_iff {s : Settings} :
    (s.defects : Logged ε _).outcome = .ok [] ↔ s.Valid := by
  have hconditions : s.conditions.entries.filterMap conditionDefect? = [] ↔
      ∀ name source, s.condition? name = some source → ∃ c, parse source = .ok c := by
    rw [List.filterMap_eq_nil_iff]
    simp only [Prod.forall, conditionDefect?_eq_none_iff, condition?, Dictionary.mem_entries_iff]
  rw [outcome_defects, Except.ok.injEq, List.append_eq_nil_iff, List.append_eq_nil_iff,
    ite_eq_left_iff, ite_eq_left_iff, hconditions]
  simp only [reduceCtorEq, imp_false, Classical.not_not, validEpsilon_iff, validLogLevel_iff]
  exact ⟨fun ⟨⟨h, hl⟩, hc⟩ => ⟨h.1, h.2, hl, hc⟩, fun h => ⟨⟨⟨h.1, h.2⟩, h.3⟩, h.4⟩⟩

theorem valid_default : default.Valid where
  finite := by decide +kernel
  nonneg := by decide +kernel
  level := ⟨.warn, lowercase_name .warn⟩
  conditions := nofun

end Checks

end Settings
end FieldGuard
