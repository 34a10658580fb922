import FieldGuard.Session

/-! Occurrences of problems. Between two clears the reporter remembers the problems that occurred,
each once and in the order of their first occurrences, and exactly those reach the sink. What a call
reports does not depend on the session, so a call made again reports nothing. -/
namespace FieldGuard

/-- The problem that a note puts before the reporter. -/
def Note.problem? : Note → Option Problem
  | .report context message => some (context, message)
  | _ => none

/-- The problems of a log. -/
def Note.problems (notes : List Note) : List Problem := notes.filterMap Note.problem?

@[simp] theorem Note.problems_append (xs ys : List Note) :
    problems (xs ++ ys) = problems xs ++ problems ys :=
  List.filterMap_append

namespace Reporter

variable {r : Reporter} {occurred : List Problem}

/-- The problems of a list that the reporter lets through, each at its first place. -/
def fresh (r : Reporter) (problems : List Problem) : List Problem :=
  (problems.removeAll r.seen).eraseDups

theorem mem_fresh_iff {problems : List Problem} {p : Problem} :
    p ∈ r.fresh problems ↔ p ∈ problems ∧ p ∉ r.seen := by
  simp [fresh, List.removeAll]

theorem fresh_cons_of_mem {p : Problem} (hp : p ∈ r.seen) (problems : List Problem) :
    r.fresh (p :: problems) = r.fresh problems := by
  simp [fresh, List.cons_removeAll, hp]

/-- A problem that is let through is not let through again. -/
theorem fresh_cons_of_notMem {p : Problem} (hp : p ∉ r.seen) (problems : List Problem) :
    r.fresh (p :: problems) = p :: (Reporter.mk (p :: r.seen)).fresh problems := by
  have hcontains : r.seen.contains p = false := by simpa using hp
  rw [fresh, fresh, List.cons_removeAll, if_pos hcontains, List.eraseDups_cons, List.removeAll_cons]
  simp only [List.removeAll, List.filter_filter, Bool.and_comm]

/-- What is let through is remembered and becomes a line, in order. -/
theorem absorb_eq (r : Reporter) (notes : List Note) :
    (r.absorb notes).1.seen = (r.fresh (Note.problems notes)).reverse ++ r.seen ∧
      emitted (r.absorb notes).2 = (r.fresh (Note.problems notes)).map Problem.line := by
  induction notes generalizing r with
  | nil => exact ⟨rfl, rfl⟩
  | cons n notes ih =>
    cases n with
    | trace area text => exact ih r
    | debug area text => exact ih r
    | report context message =>
      have hproblems : Note.problems (.report context message :: notes) =
          (context, message) :: Note.problems notes := rfl
      rw [hproblems]
      by_cases hp : (context, message) ∈ r.seen
      · have hreport : r.report (context, message) = (r, false) := if_pos hp
        rw [fresh_cons_of_mem hp]
        simpa [absorb, hreport] using ih r
      · have hreport : r.report (context, message) = (⟨(context, message) :: r.seen⟩, true) :=
          if_neg hp
        obtain ⟨hseen, hlines⟩ := ih ⟨(context, message) :: r.seen⟩
        rw [fresh_cons_of_notMem hp]
        constructor
        · simpa [absorb, hreport] using hseen
        · simpa [absorb, hreport, emitted] using hlines

/-- A log of problems that were all let through before changes nothing. -/
theorem absorb_of_seen {notes : List Note} (hold : ∀ p ∈ Note.problems notes, p ∈ r.seen) :
    (r.absorb notes).1 = r ∧ emitted (r.absorb notes).2 = [] := by
  have hnone : r.fresh (Note.problems notes) = [] := by
    refine List.eq_nil_iff_forall_not_mem.mpr fun p hp => ?_
    obtain ⟨hmem, hnew⟩ := mem_fresh_iff.mp hp
    exact hnew (hold p hmem)
  obtain ⟨hseen, hlines⟩ := r.absorb_eq notes
  rw [hnone] at hseen hlines
  exact ⟨congrArg Reporter.mk hseen, hlines⟩

/-- Exactly these problems were let through, each at its first occurrence. -/
def Remembers (r : Reporter) (occurred : List Problem) : Prop :=
  r.seen.reverse = occurred.eraseDups

theorem remembers_empty : empty.Remembers [] := rfl

theorem Remembers.mem_iff (h : r.Remembers occurred) {p : Problem} :
    p ∈ r.seen ↔ p ∈ occurred := by
  rw [← List.mem_reverse, h, List.mem_eraseDups]

theorem Remembers.count_eq (h : r.Remembers occurred) :
    r.count = occurred.eraseDups.length := by
  rw [count, ← h, List.length_reverse]

/-- A problem is let through exactly if it has not occurred. -/
theorem Remembers.fresh (h : r.Remembers occurred) (p : Problem) :
    (r.report p).2 = decide (p ∉ occurred) := by
  rw [Bool.eq_iff_iff, report_fresh, h.mem_iff, decide_eq_true_iff]

theorem Remembers.fresh_eq (h : r.Remembers occurred) (problems : List Problem) :
    r.fresh problems = (problems.removeAll occurred).eraseDups := by
  have hseen (p : Problem) : r.seen.elem p = occurred.elem p := by
    rw [Bool.eq_iff_iff, List.elem_iff, List.elem_iff, h.mem_iff]
  simp only [Reporter.fresh, List.removeAll, hseen]

theorem Remembers.absorb (h : r.Remembers occurred) (notes : List Note) :
    (r.absorb notes).1.Remembers (occurred ++ Note.problems notes) := by
  unfold Remembers
  rw [(r.absorb_eq notes).1, List.reverse_append, List.reverse_reverse, h, h.fresh_eq,
    List.eraseDups_append]

/-- The lines of a log are those of the problems in it that have not occurred, each once. -/
theorem Remembers.emitted_absorb (h : r.Remembers occurred) (notes : List Note) :
    emitted (r.absorb notes).2 =
      ((Note.problems notes).removeAll occurred).eraseDups.map Problem.line := by
  rw [(r.absorb_eq notes).2, h.fresh_eq]

/-- A log of problems that have all occurred changes nothing. -/
theorem Remembers.absorb_eq_self (h : r.Remembers occurred) {notes : List Note}
    (hold : ∀ p ∈ Note.problems notes, p ∈ occurred) :
    (r.absorb notes).1 = r ∧ emitted (r.absorb notes).2 = [] :=
  absorb_of_seen fun p hp => h.mem_iff.mpr (hold p hp)

end Reporter

namespace Call

/-- What a call notes, whatever the session. -/
def notes : Call → List Note
  | .report problem => [.report problem.1 problem.2]
  | .parse subject source => (parseReported (subject.map (·.name)) source).notes
  | .evaluate rules context condition => (evaluateReported rules context condition).notes
  | .get context getter field => context.remarks getter field
  | .memberValue .. | .clear => []

/-- The problems that occur in a call: a source that cannot be parsed, what getters remark, and a
fault of an evaluation behind what the getters remark in it. -/
def problems : Call → List Problem
  | .report problem => [problem]
  | .parse subject source =>
    match FieldGuard.parse source with
    | .ok _ => []
    | .error e => [(subject.map (·.name), "failed to parse \"" ++ source ++ "\": " ++ e.message)]
  | .evaluate rules context condition =>
    let truth := FieldGuard.evaluate rules context condition
    Note.problems truth.notes ++
      match truth.outcome with
      | .ok _ => []
      | .error fault => [(some context.name, fault.message)]
  | .get context getter field => Note.problems (context.remarks getter field)
  | .memberValue .. | .clear => []

theorem problems_notes (c : Call) : Note.problems c.notes = c.problems := by
  cases c with
  | parse subject source =>
    cases h : FieldGuard.parse source with
    | ok c => simp [notes, problems, parseReported, parseNoted, h, Note.problems, Note.problem?]
    | error e => simp [notes, problems, parseReported, parseNoted, h, Note.problems, Note.problem?]
  | evaluate rules context condition =>
    cases h : (FieldGuard.evaluate rules context condition).outcome with
    | ok b => simp [notes, problems, evaluateReported, h]
    | error fault =>
      simp only [notes, problems, evaluateReported, h, Note.problems_append]
      rfl
  | _ => rfl

/-- The problems that occur in some calls, in order. -/
def occurrences (calls : List Call) : List Problem := calls.flatMap problems

end Call

namespace Session

variable {s : Session} {base : List String} {occurred : List Problem}

/-- Since the last clear, when these lines were in the sink, these problems occurred. -/
structure Since (s : Session) (base : List String) (occurred : List Problem) : Prop where
  remembers : s.reporter.Remembers occurred
  sink : s.sink = base ++ occurred.eraseDups.map Problem.line

theorem since_start : start.Since [] [] := ⟨Reporter.remembers_empty, rfl⟩

/-- A clear forgets all problems, and the sink keeps its lines. -/
theorem since_clear (s : Session) : (s.perform .clear).1.Since s.sink [] :=
  ⟨Reporter.remembers_empty, (List.append_nil s.sink).symm⟩

theorem perform_of_ne_clear {c : Call} (hc : c ≠ .clear) :
    (s.perform c).1 = s.absorb c.notes := by
  cases c with
  | clear => exact absurd rfl hc
  | memberValue => simp [perform, Call.notes, absorb, Reporter.absorb, Reporter.emitted]
  | _ => rfl

/-- What a call replies does not depend on the session, unless it asks for a report. -/
theorem reply_eq {c : Call} (hc : ∀ p, c ≠ .report p) (s t : Session) :
    (s.perform c).2 = (t.perform c).2 := by
  cases c with
  | report p => exact absurd rfl (hc p)
  | _ => rfl

/-- A call emits the problems in it that have not occurred, each once. -/
theorem Since.sink_perform (h : s.Since base occurred) {c : Call} (hc : c ≠ .clear) :
    (s.perform c).1.sink =
      s.sink ++ (c.problems.removeAll occurred).eraseDups.map Problem.line := by
  rw [perform_of_ne_clear hc, absorb]
  rw [← c.problems_notes]
  exact congrArg (s.sink ++ ·) (h.remembers.emitted_absorb c.notes)

theorem Since.perform (h : s.Since base occurred) {c : Call} (hc : c ≠ .clear) :
    (s.perform c).1.Since base (occurred ++ c.problems) := by
  constructor
  · rw [perform_of_ne_clear hc, ← c.problems_notes]
    exact h.remembers.absorb c.notes
  · rw [h.sink_perform hc, h.sink, List.eraseDups_append, List.map_append, List.append_assoc]

/-- Calls without a clear add their problems to those that occurred. -/
theorem Since.run (h : s.Since base occurred) {calls : List Call} (hcalls : .clear ∉ calls) :
    (s.run calls).Since base (occurred ++ Call.occurrences calls) := by
  induction calls generalizing s occurred with
  | nil => simpa [Session.run, Call.occurrences] using h
  | cons c calls ih =>
    obtain ⟨hc, hrest⟩ := not_or.mp (mt List.mem_cons.mpr hcalls)
    have hstep := ih (h.perform (Ne.symm hc)) hrest
    rwa [List.append_assoc] at hstep

/-- A call whose problems have all occurred leaves the session as it is. -/
theorem Since.perform_eq (h : s.Since base occurred) {c : Call} (hc : c ≠ .clear)
    (hold : ∀ p ∈ c.problems, p ∈ occurred) : (s.perform c).1 = s := by
  rw [← c.problems_notes] at hold
  obtain ⟨hreporter, hlines⟩ := h.remembers.absorb_eq_self hold
  rw [perform_of_ne_clear hc]
  change Session.mk (s.reporter.absorb c.notes).1
    (s.sink ++ Reporter.emitted (s.reporter.absorb c.notes).2) = s
  rw [hreporter, hlines, List.append_nil]

theorem run_append (s : Session) (xs ys : List Call) : s.run (xs ++ ys) = (s.run xs).run ys :=
  List.foldl_append

/-- The calls since the last clear. -/
theorem exists_since (calls : List Call) :
    ∃ earlier since, calls = earlier ++ since ∧ .clear ∉ since ∧
      (earlier = [] ∨ ∃ e, earlier = e ++ [.clear]) := by
  induction calls with
  | nil => exact ⟨[], [], rfl, by simp, .inl rfl⟩
  | cons c calls ih =>
    obtain ⟨earlier, since, rfl, hsince, rfl | ⟨e, rfl⟩⟩ := ih
    · by_cases hc : c = .clear
      · exact ⟨[c], since, rfl, hsince, .inr ⟨[], by rw [hc]; rfl⟩⟩
      · exact ⟨[], c :: since, rfl, by simp [hsince, Ne.symm hc], .inl rfl⟩
    · exact ⟨c :: (e ++ [.clear]), since, rfl, hsince, .inr ⟨c :: e, rfl⟩⟩

/-- After the calls since the last clear, just their problems have occurred. -/
theorem since_run {earlier since : List Call} (hsince : .clear ∉ since)
    (hearlier : earlier = [] ∨ ∃ e, earlier = e ++ [.clear]) :
    (start.run (earlier ++ since)).Since (start.run earlier).sink (Call.occurrences since) := by
  rw [run_append, ← List.nil_append (Call.occurrences since)]
  refine Since.run ?_ hsince
  obtain rfl | ⟨e, rfl⟩ := hearlier
  · exact since_start
  · rw [run_append]
    exact since_clear (start.run e)

/-- Since the last clear each distinct problem reached the sink once, in the order of the first
occurrences, as a line of its subject and its message, or of the message alone. The reporter counts
them, and lets just the first occurrences through; a clear emits nothing and starts anew. A call made
again leaves the session as it is, and replies as before. -/
theorem reports_each_problem_once (calls : List Call) :
    (∀ context message, Problem.line (some context, message) = context ++ ": " ++ message) ∧
    (∀ message, Problem.line (none, message) = message) ∧
    ∃ earlier since, calls = earlier ++ since ∧ .clear ∉ since ∧
      (earlier = [] ∨ ∃ e, earlier = e ++ [.clear]) ∧
      let before := start.run earlier
      let s := start.run calls
      let occurred := Call.occurrences since
      s.sink = before.sink ++ occurred.eraseDups.map Problem.line ∧
      s.reporter.count = occurred.eraseDups.length ∧
      s.sink.length = before.sink.length + s.reporter.count ∧
      (∀ p, (s.perform (.report p)).2 = .fresh (decide (p ∉ occurred))) ∧
      (∀ c, c ≠ .clear → (s.perform c).1.sink =
        s.sink ++ (c.problems.removeAll occurred).eraseDups.map Problem.line) ∧
      (s.perform .clear).1 = ⟨.empty, s.sink⟩ ∧
      ∀ xs c ys, since = xs ++ c :: ys → (∀ p, c ≠ .report p) →
        s.perform c = (s, ((before.run xs).perform c).2) := by
  obtain ⟨earlier, since, rfl, hsince, hearlier⟩ := exists_since calls
  have h := since_run hsince hearlier
  refine ⟨fun _ _ => rfl, fun _ => rfl, earlier, since, rfl, hsince, hearlier, h.sink,
    h.remembers.count_eq, ?_, ?_, ?_, rfl, ?_⟩
  · rw [h.sink, h.remembers.count_eq, List.length_append, List.length_map]
  · exact fun p => congrArg Reply.fresh (h.remembers.fresh p)
  · exact fun c hc => h.sink_perform hc
  · rintro xs c ys rfl hc
    have hclear : c ≠ .clear := by
      rintro rfl
      exact hsince (by simp)
    have hold : ∀ p ∈ c.problems, p ∈ Call.occurrences (xs ++ c :: ys) := fun p hp =>
      List.mem_flatMap.mpr ⟨c, by simp, hp⟩
    exact Prod.ext (h.perform_eq hclear hold) (reply_eq hc _ _)

end Session
end FieldGuard
