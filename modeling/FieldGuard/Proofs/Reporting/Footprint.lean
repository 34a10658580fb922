import FieldGuard.Proofs.Evaluation.Demand
import FieldGuard.Proofs.Evaluation.Remarks
import FieldGuard.Proofs.Reporting.Occurrences
import FieldGuard.Proofs.Selection.Silence

/-! The footprint of an evaluation on the reporter that its selection is attached to. Getters report
undeclared fields while an operator still tries what else they may be; but a condition that comes to
a truth value has a value for every field it mentions, so no undeclared one was met on the way. A
fault is always reported, behind the undeclared fields met before it. -/
namespace FieldGuard

/-- No fault reads like the report of an undeclared field. -/
theorem Fault.message_ne_notFound (fault : Fault) (s : Selection) (field : String) :
    fault.message ≠ s.notFound field := by
  intro h
  delta message Selection.notFound at h
  have htext := congrArg String.toList h
  clear h
  cases fault <;> simp at htext

namespace Selection

variable {s : Selection} {field : String} {p : Problem}

/-- The problem of asking about a field that is not declared. -/
def undeclared (s : Selection) (field : String) : Problem :=
  (some s.subject.name, s.notFound field)

/-- The report of an undeclared field names it. -/
theorem undeclared_injective (s : Selection) : Function.Injective s.undeclared := by
  intro field other h
  have htext := congrArg (·.toList) (Prod.ext_iff.mp h).2
  simpa [undeclared, notFound, String.toList_inj] using htext

/-- A getter reports a field only if it is not declared. -/
theorem problem?_of_remarks {getter : Getter} {n : Note} (hn : n ∈ s.remarks getter field)
    (hp : n.problem? = some p) : s.subject.fields.get? field = none ∧ p = s.undeclared field := by
  unfold remarks at hn
  split at hn
  · split at hn
    · obtain rfl := List.mem_singleton.mp hn
      cases hp
    · cases hn
  · next hfield =>
    split at hn
    · obtain rfl := List.mem_singleton.mp hn
      refine ⟨?_, (Option.some.inj hp).symm⟩
      simpa [Dictionary.contains] using hfield
    · cases hn

/-- A field that is not declared has no value of any kind. -/
theorem unset_of_undeclared (h : s.subject.fields.get? field = none) : s.context.Unset field where
  bool := get_of_undeclared .bool h
  integer := get_of_undeclared .integer h
  number := get_of_undeclared .number h
  member := get_of_undeclared .member h
  object := get_of_undeclared .object h

section Evaluation

variable {ε : Float} {c : Condition}

/-- The problems of an evaluation are undeclared fields that the condition mentions. -/
theorem undeclared_of_problems (hp : p ∈ Note.problems (evaluate (.standard ε) s.context c).notes) :
    ∃ field ∈ c.names, s.subject.fields.get? field = none ∧ p = s.undeclared field := by
  obtain ⟨n, hn, hproblem⟩ := List.mem_filterMap.mp hp
  cases notes_evaluate ε s.context c n hn with
  | remark hfield hremark =>
    obtain ⟨hnone, rfl⟩ := problem?_of_remarks hremark hproblem
    exact ⟨_, hfield, hnone, rfl⟩
  | trace _ => cases hproblem
  | debug _ => cases hproblem

/-- A truth value is reached in silence. -/
theorem problems_of_truth {b : Bool}
    (hb : (evaluate (.standard ε) s.context c).outcome = .ok b) :
    Note.problems (evaluate (.standard ε) s.context c).notes = [] := by
  refine List.eq_nil_iff_forall_not_mem.mpr fun p hp => ?_
  obtain ⟨field, hfield, hnone, -⟩ := undeclared_of_problems hp
  exact not_unset_of_evaluate hb hfield (unset_of_undeclared hnone)

/-- What an evaluation puts before the reporter is an undeclared field that the condition mentions,
or its fault. -/
theorem problem_of_evaluate
    (hp : p ∈ (Call.evaluate (.standard ε) s.context c).problems) :
    (∃ field ∈ c.names, s.subject.fields.get? field = none ∧ p = s.undeclared field) ∨
      ∃ fault, (evaluate (.standard ε) s.context c).outcome = .error fault ∧
        p = (some s.subject.name, fault.message) := by
  obtain hp | hp := List.mem_append.mp hp
  · exact .inl (undeclared_of_problems hp)
  · cases ho : (evaluate (.standard ε) s.context c).outcome with
    | ok b => simp [ho] at hp
    | error fault =>
      rw [ho] at hp
      exact .inr ⟨fault, rfl, List.mem_singleton.mp hp⟩

end Evaluation

end Selection

theorem Call.evaluate_ne_clear {rules : Rules} {context : Context} {c : Condition} :
    Call.evaluate rules context c ≠ .clear := nofun

theorem Call.get_ne_clear {context : Context} {getter : Getter} {field : String} :
    Call.get context getter field ≠ .clear := nofun

namespace Session

variable {s : Session} {c : Call}

/-- A call other than a clear adds the problems in it that the reporter has not seen. -/
theorem perform_eq_fresh (hc : c ≠ .clear) :
    (s.perform c).1.reporter.seen = (s.reporter.fresh c.problems).reverse ++ s.reporter.seen ∧
      (s.perform c).1.sink = s.sink ++ (s.reporter.fresh c.problems).map Problem.line := by
  obtain ⟨hseen, hlines⟩ := s.reporter.absorb_eq c.notes
  rw [perform_of_ne_clear hc, ← c.problems_notes]
  exact ⟨hseen, congrArg (s.sink ++ ·) hlines⟩

/-- A call without problems leaves the session as it is. -/
theorem perform_of_problems_nil (hc : c ≠ .clear) (h : c.problems = []) : (s.perform c).1 = s := by
  obtain ⟨hseen, hsink⟩ := perform_eq_fresh (s := s) hc
  rw [h] at hseen hsink
  have hreporter : (s.perform c).1.reporter = s.reporter := congrArg Reporter.mk hseen
  have hlines : (s.perform c).1.sink = s.sink := hsink.trans (List.append_nil s.sink)
  cases s
  exact congr (congrArg Session.mk hreporter) hlines

/-- An evaluation through a selection that is attached to the reporter of the session: a truth value
leaves the session as it is; with a fault, the fault is seen, and what else is added are undeclared
fields that the condition mentions. What is added becomes a line. A declared field is not reported as
missing, by the evaluation or by a getter. -/
theorem evaluation_footprint (s : Session) (subject : Subject) (ε ε' : Float) (c : Condition) :
    let selection : Selection := ⟨subject, ε', true⟩
    let call : Call := .evaluate (.standard ε) selection.context c
    let after := (s.perform call).1
    (∀ b, (s.perform call).2 = .truth (.ok b) → after = s) ∧
    (∀ fault, (s.perform call).2 = .truth (.error fault) →
      (some subject.name, fault.message) ∈ after.reporter.seen ∧
      ∃ added : List Problem, after.reporter.seen = added.reverse ++ s.reporter.seen ∧
        after.sink = s.sink ++ added.map Problem.line ∧
        ∀ p ∈ added, p ∉ s.reporter.seen ∧
          (p = (some subject.name, fault.message) ∨
            ∃ field ∈ c.names, subject.fields.get? field = none ∧
              p = (some subject.name, selection.notFound field))) ∧
    ∀ field type, subject.fields.get? field = some type →
      ((some subject.name, selection.notFound field) ∈ after.reporter.seen →
        (some subject.name, selection.notFound field) ∈ s.reporter.seen) ∧
      ∀ getter, (s.perform (.get selection.context getter field)).1 = s := by
  intro selection call after
  obtain ⟨hseen, hsink⟩ := perform_eq_fresh (s := s) (c := call) Call.evaluate_ne_clear
  have houtcome {truth : Except Fault Bool} (h : (s.perform call).2 = .truth truth) :
      (evaluate (.standard ε) selection.context c).outcome = truth := by
    rw [← Reply.truth.inj h]
    exact (outcome_evaluateReported _ _ _).symm
  refine ⟨fun b hb => ?_, fun fault hfault => ?_, fun field type htype =>
    ⟨fun hp => ?_, fun getter => ?_⟩⟩
  · -- A truth value: no field was reported on the way.
    have hb := houtcome hb
    refine perform_of_problems_nil Call.evaluate_ne_clear ?_
    simp [call, Call.problems, selection.problems_of_truth hb, hb]
  · -- A fault: it is the last of the problems, if it was not seen before.
    have hfault := houtcome hfault
    have hproblem : (some subject.name, fault.message) ∈ call.problems :=
      List.mem_append_right _ (by simp [hfault]; rfl)
    refine ⟨?_, _, hseen, hsink, fun p hp => ?_⟩
    · rw [hseen, List.mem_append, List.mem_reverse, Reporter.mem_fresh_iff]
      by_cases hold : (some subject.name, fault.message) ∈ s.reporter.seen
      · exact .inr hold
      · exact .inl ⟨hproblem, hold⟩
    · obtain ⟨hmem, hnew⟩ := Reporter.mem_fresh_iff.mp hp
      refine ⟨hnew, ?_⟩
      obtain hundeclared | ⟨fault', hfault', rfl⟩ := Selection.problem_of_evaluate hmem
      · exact .inr hundeclared
      · obtain rfl : fault = fault' := Except.error.inj (hfault.symm.trans hfault')
        exact .inl rfl
  · rw [hseen, List.mem_append, List.mem_reverse, Reporter.mem_fresh_iff] at hp
    refine hp.resolve_left fun hfresh => ?_
    obtain ⟨other, -, hnone, hsame⟩ | ⟨fault, -, hsame⟩ := Selection.problem_of_evaluate hfresh.1
    · obtain rfl : field = other := selection.undeclared_injective hsame
      cases htype.symm.trans hnone
    · exact fault.message_ne_notFound selection field (Prod.ext_iff.mp hsame).2.symm
  · refine perform_of_problems_nil Call.get_ne_clear
      (List.eq_nil_iff_forall_not_mem.mpr fun p hp => ?_)
    obtain ⟨n, hn, hproblem⟩ := List.mem_filterMap.mp hp
    obtain ⟨hnone, -⟩ := Selection.problem?_of_remarks hn hproblem
    cases htype.symm.trans hnone

/-- A condition on a declared field alone, and one that mentions an undeclared field behind it. -/
theorem evaluation_footprint_undeclared :
    let subject : Subject := ((Subject.named "S").withField "A" .bool).push [("A", .bool false)]
    let selection : Selection := ⟨subject, Rules.defaultEpsilon, true⟩
    let call (c : Condition) : Call :=
      .evaluate (.standard Rules.defaultEpsilon) selection.context c
    let alone : Condition := ⟨"A", [⟨.operand (.property "A"), 0⟩]⟩
    let behind : Condition :=
      ⟨"A&&X", [⟨.operand (.property "A"), 0⟩, ⟨.operand (.property "X"), 3⟩, ⟨.binary .and, 1⟩]⟩
    (start.perform (call alone)).2 = .truth (.ok false) ∧
      (start.perform (call alone)).1 = start ∧
      (start.perform (call behind)).2 = .truth (.error (.invalidOperand "X")) ∧
      (some "S", (Fault.invalidOperand "X").message) ∈
        (start.perform (call behind)).1.reporter.seen ∧
      subject.fields.get? "A" = some .bool ∧
      (some "S", selection.notFound "A") ∉ (start.perform (call behind)).1.reporter.seen := by
  intro subject selection call alone behind
  have hfalse : (start.perform (call alone)).2 = .truth (.ok false) := rfl
  have hfault : (start.perform (call behind)).2 = .truth (.error (.invalidOperand "X")) := rfl
  have halone := evaluation_footprint start subject Rules.defaultEpsilon Rules.defaultEpsilon alone
  have hbehind :=
    evaluation_footprint start subject Rules.defaultEpsilon Rules.defaultEpsilon behind
  refine ⟨hfalse, halone.1 false hfalse, hfault, (hbehind.2.1 _ hfault).1, rfl, fun hseen => ?_⟩
  exact absurd ((hbehind.2.2 "A" .bool rfl).1 hseen) List.not_mem_nil

end Session
end FieldGuard
