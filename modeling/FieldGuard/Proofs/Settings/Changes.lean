import Mathlib.Data.List.TakeWhile
import FieldGuard.Proofs.Settings.Validity

/-! One request to change settings. It is granted exactly for the key of a target and a value that
passes the check of this target (`set_eq_ok_iff`), and else has no effect. Different targets have
different keys, also where names of conditions hold points. What is granted keeps settings valid and
touches its own target only. -/
namespace FieldGuard
namespace Settings

section Keys

/-- The key that stands for a target. -/
def Target.key : Target → String
  | .epsilon => "settings.epsilon"
  | .logLevel => "settings.log_level"
  | .condition name => "conditions." ++ name

theorem Target.ofKey?_split {section_ name : List Char} (h : '.' ∉ section_) :
    Target.ofKey? (String.ofList (section_ ++ '.' :: name)) =
      if String.ofList section_ = "settings" ∧ String.ofList name = "epsilon" then some .epsilon
      else if String.ofList section_ = "settings" ∧ String.ofList name = "log_level" then
        some .logLevel
      else if String.ofList section_ = "conditions" ∧ String.ofList name ≠ "" then
        some (.condition (String.ofList name))
      else none := by
  have hpoint : ∀ c ∈ section_, decide (c ≠ '.') = true := fun c hc =>
    decide_eq_true fun heq => h (heq ▸ hc)
  have htake : (section_ ++ '.' :: name).takeWhile (· ≠ '.') = section_ := by
    rw [List.takeWhile_append_of_pos hpoint]
    simp
  have hdrop : (section_ ++ '.' :: name).dropWhile (· ≠ '.') = '.' :: name := by
    rw [List.dropWhile_append_of_pos hpoint]
    simp
  simp only [Target.ofKey?, String.toList_ofList, htake, hdrop]

/-- A key is read as a target exactly if it is the key of the target; a condition needs a name. -/
theorem Target.ofKey?_eq_some_iff {key : String} {target : Target} :
    Target.ofKey? key = some target ↔ key = target.key ∧ target ≠ .condition "" := by
  constructor
  · intro h
    by_cases hmem : '.' ∈ key.toList
    · obtain ⟨section_, name, hkey, hnot⟩ := List.eq_append_cons_of_mem hmem
      obtain rfl : key = String.ofList (section_ ++ '.' :: name) := by
        rw [← hkey, String.ofList_toList]
      have join {a b : String} (hs : String.ofList section_ = a) (hn : String.ofList name = b) :
          String.ofList (section_ ++ '.' :: name) = a ++ "." ++ b := by
        rw [← hs, ← hn]
        apply String.toList_injective
        simp
      rw [Target.ofKey?_split hnot] at h
      by_cases he : String.ofList section_ = "settings" ∧ String.ofList name = "epsilon"
      · obtain rfl := Option.some.inj ((if_pos he).symm.trans h)
        exact ⟨join he.1 he.2, nofun⟩
      rw [if_neg he] at h
      by_cases hl : String.ofList section_ = "settings" ∧ String.ofList name = "log_level"
      · obtain rfl := Option.some.inj ((if_pos hl).symm.trans h)
        exact ⟨join hl.1 hl.2, nofun⟩
      rw [if_neg hl] at h
      obtain ⟨hc, h⟩ := Option.ite_none_right_eq_some.mp h
      obtain rfl := Option.some.inj h
      exact ⟨join hc.1 rfl, fun heq => hc.2 (Target.condition.inj heq)⟩
    · have hdrop : key.toList.dropWhile (· ≠ '.') = [] :=
        List.dropWhile_eq_nil_iff.mpr fun c hc => decide_eq_true fun heq => hmem (heq ▸ hc)
      simp only [Target.ofKey?, hdrop] at h
      cases h
  · rintro ⟨rfl, hne⟩
    cases target with
    | epsilon => rfl
    | logLevel => rfl
    | condition name =>
      have hkey : "conditions." ++ name =
          String.ofList ("conditions".toList ++ '.' :: name.toList) := by
        apply String.toList_injective
        simp
      have hname : name ≠ "" := fun h => hne (h ▸ rfl)
      rw [Target.key, hkey, Target.ofKey?_split (by decide)]
      simp [hname]

theorem Target.key_injective : Function.Injective Target.key := by
  intro a b h
  cases a <;> cases b <;> simp_all [Target.key, ← String.toList_inj]

end Keys

/-- A change of one target to a value, from some settings to others. -/
inductive Granted (s : Settings) : Target → String → Settings → Prop
  | epsilon {value : String} {x : Float} (read : Numeral.read value = .ok x)
      (finite : x.isFinite = true) (nonneg : 0 ≤ x) :
      Granted s .epsilon value { s with epsilon := x }
  | logLevel {value : String} (known : ∃ l : LogLevel, lowercase value = l.name) :
      Granted s .logLevel value { s with logLevel := lowercase value }
  | removal {name value : String} (named : name ≠ "") (blank : value.toList.all isBlank = true) :
      Granted s (.condition name) value { s with conditions := s.conditions.erase name }
  | condition {name value : String} {c : Condition} (named : name ≠ "")
      (visible : value.toList.all isBlank = false) (parsed : parse value = .ok c) :
      Granted s (.condition name) value { s with conditions := s.conditions.insert name value }

/-- What is granted has a key that is read as its target. -/
theorem Granted.ofKey?_key {s t : Settings} {target : Target} {value : String}
    (h : Granted s target value t) : Target.ofKey? target.key = some target := by
  refine Target.ofKey?_eq_some_iff.mpr ⟨rfl, ?_⟩
  rintro rfl
  cases h <;> contradiction

section Step

variable {s t : Settings} {key value : String}

theorem set_epsilon_eq_ok_iff (hkey : Target.ofKey? key = some .epsilon) :
    (s.set key value).outcome = .ok t ↔ Granted s .epsilon value t := by
  simp only [set, hkey]
  cases hread : Numeral.read value with
  | error cause =>
    refine ⟨nofun, ?_⟩
    rintro ⟨read, -, -⟩
    exact absurd (hread.symm.trans read) nofun
  | ok x =>
    by_cases hvalid : validEpsilon x = true
    · obtain ⟨hfinite, hnonneg⟩ := validEpsilon_iff.mp hvalid
      simp only [if_pos hvalid]
      constructor
      · rintro ⟨⟩
        exact .epsilon hread hfinite hnonneg
      · rintro ⟨read, -, -⟩
        obtain rfl := Except.ok.inj (hread.symm.trans read)
        rfl
    · simp only [if_neg hvalid]
      refine ⟨nofun, ?_⟩
      rintro ⟨read, finite, nonneg⟩
      obtain rfl := Except.ok.inj (hread.symm.trans read)
      exact absurd (validEpsilon_iff.mpr ⟨finite, nonneg⟩) hvalid

theorem set_logLevel_eq_ok_iff (hkey : Target.ofKey? key = some .logLevel) :
    (s.set key value).outcome = .ok t ↔ Granted s .logLevel value t := by
  simp only [set, hkey]
  by_cases hvalid : validLogLevel value = true
  · simp only [if_pos hvalid]
    constructor
    · rintro ⟨⟩
      exact .logLevel (validLogLevel_iff.mp hvalid)
    · rintro ⟨⟩
      rfl
  · simp only [if_neg hvalid]
    refine ⟨nofun, fun h => ?_⟩
    cases h with
    | logLevel known => exact absurd (validLogLevel_iff.mpr known) hvalid

theorem set_condition_eq_ok_iff {name : String} (named : name ≠ "")
    (hkey : Target.ofKey? key = some (.condition name)) :
    (s.set key value).outcome = .ok t ↔ Granted s (.condition name) value t := by
  simp only [set, hkey, outcome_parseNoted]
  by_cases hblank : value.toList.all isBlank = true
  · simp only [if_pos hblank]
    constructor
    · rintro ⟨⟩
      exact .removal named hblank
    · intro h
      cases h with
      | removal => rfl
      | condition _ visible => exact absurd (hblank.symm.trans visible) nofun
  · simp only [if_neg hblank]
    cases hparsed : parse value with
    | error cause =>
      refine ⟨nofun, fun h => ?_⟩
      cases h with
      | removal _ blank => exact absurd blank hblank
      | condition _ _ parsed => exact absurd (hparsed.symm.trans parsed) nofun
    | ok c =>
      constructor
      · rintro ⟨⟩
        exact .condition named (eq_false_of_ne_true hblank) hparsed
      · intro h
        cases h with
        | removal _ blank => exact absurd blank hblank
        | condition => rfl

/-- The requests that are granted, and what they write. -/
theorem set_eq_ok_iff :
    (s.set key value).outcome = .ok t ↔
      ∃ target : Target, key = target.key ∧ Granted s target value t := by
  cases hkey : Target.ofKey? key with
  | none =>
    simp only [set, hkey, Logged.outcome_fail, reduceCtorEq, false_iff]
    rintro ⟨target, rfl, h⟩
    exact absurd (hkey.symm.trans h.ofKey?_key) nofun
  | some target =>
    obtain ⟨rfl, hne⟩ := Target.ofKey?_eq_some_iff.mp hkey
    have hstep : (s.set target.key value).outcome = .ok t ↔ Granted s target value t := by
      cases target with
      | epsilon => exact set_epsilon_eq_ok_iff hkey
      | logLevel => exact set_logLevel_eq_ok_iff hkey
      | condition name =>
        exact set_condition_eq_ok_iff (fun heq => hne (congrArg Target.condition heq)) hkey
    rw [hstep]
    refine ⟨fun h => ⟨target, rfl, h⟩, ?_⟩
    rintro ⟨other, heq, h⟩
    exact Target.key_injective heq ▸ h

theorem change_eq_ok_iff :
    s.change key value = (t, .ok ()) ↔
      ∃ target : Target, key = target.key ∧ Granted s target value t := by
  rw [← set_eq_ok_iff, change]
  cases (s.set key value).outcome <;> simp

theorem change_of_error {e : ChangeError} (h : (s.change key value).2 = .error e) :
    (s.change key value).1 = s := by
  rw [change] at h ⊢
  cases hset : (s.set key value).outcome <;> simp_all

/-- One request: granted, or without an effect. -/
theorem change_cases (s : Settings) (key value : String) :
    (∃ (target : Target) (t : Settings), key = target.key ∧ Granted s target value t ∧
        s.change key value = (t, .ok ())) ∨
      ∃ e, s.change key value = (s, .error e) := by
  cases h : s.change key value with
  | mk t outcome =>
    cases outcome with
    | ok =>
      obtain ⟨target, hkey, hgranted⟩ := change_eq_ok_iff.mp h
      exact .inl ⟨target, t, hkey, hgranted, rfl⟩
    | error e =>
      have ht := change_of_error (congrArg Prod.snd h)
      rw [h] at ht
      exact .inr ⟨e, congrArg (·, Except.error e) ht⟩

/-- What is stored passes the checks that its text has passed. -/
theorem Granted.valid {target : Target} (h : Granted s target value t) (hs : s.Valid) :
    t.Valid := by
  cases h with
  | epsilon _ finite nonneg => exact { hs with finite, nonneg }
  | logLevel known =>
    obtain ⟨l, hl⟩ := known
    have hlower : lowercase (lowercase value) = l.name := by rw [hl, lowercase_name]
    exact { hs with level := ⟨l, hlower⟩ }
  | removal _ _ =>
    refine { hs with conditions := fun other source h => hs.conditions other source ?_ }
    exact (Option.ite_none_left_eq_some.mp ((Dictionary.get?_erase ..).symm.trans h)).2
  | condition _ _ parsed =>
    refine { hs with conditions := fun other source h => ?_ }
    rw [condition?, Dictionary.get?_insert] at h
    split at h
    · obtain rfl := Option.some.inj h
      exact ⟨_, parsed⟩
    · exact hs.conditions other source h

theorem Granted.condition?_own {name : String} (h : Granted s (.condition name) value t) :
    t.condition? name = if value.toList.all isBlank then none else some value := by
  cases h with
  | removal _ blank => rw [if_pos blank, condition?, Dictionary.get?_erase, if_pos rfl]
  | condition _ visible _ =>
    rw [if_neg (ne_true_of_eq_false visible), condition?, Dictionary.get?_insert, if_pos rfl]

theorem Granted.condition?_other {target : Target} {name : String} (h : Granted s target value t)
    (hne : target ≠ .condition name) : t.condition? name = s.condition? name := by
  cases h with
  | epsilon => rfl
  | logLevel => rfl
  | @removal changed =>
    have hname : name ≠ changed := fun heq => hne (congrArg Target.condition heq.symm)
    exact (Dictionary.get?_erase ..).trans (if_neg hname)
  | @condition changed =>
    have hname : name ≠ changed := fun heq => hne (congrArg Target.condition heq.symm)
    exact (Dictionary.get?_insert ..).trans (if_neg hname)

theorem Granted.epsilon_other {target : Target} (h : Granted s target value t)
    (hne : target ≠ .epsilon) : t.epsilon = s.epsilon := by
  cases h with
  | epsilon => exact absurd rfl hne
  | logLevel | removal | condition => rfl

theorem Granted.logLevel_other {target : Target} (h : Granted s target value t)
    (hne : target ≠ .logLevel) : t.logLevel = s.logLevel := by
  cases h with
  | logLevel => exact absurd rfl hne
  | epsilon | removal | condition => rfl

end Step

end Settings
end FieldGuard
