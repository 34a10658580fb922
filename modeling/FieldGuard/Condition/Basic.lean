import FieldGuard.Condition.Lexeme
import FieldGuard.Condition.Postfix
import FieldGuard.Logged

/-! Conditions: a source together with its postfix sequence. -/
namespace FieldGuard

structure Condition where
  source : String
  steps : List (Placed Step)
  deriving DecidableEq, Repr

namespace Condition

/-- The postfix sequence as text. -/
def text (c : Condition) : String :=
  " ".intercalate (c.steps.map (·.item.text))

/-- The property names a condition mentions, in postfix order. -/
def names (c : Condition) : List String :=
  c.steps.filterMap fun s =>
    match s.item with
    | .operand o => o.propertyName?
    | _ => none

/-- A name of a condition stands in one of its steps. -/
theorem mem_names_iff {c : Condition} {name : String} :
    name ∈ c.names ↔ .operand (.property name) ∈ c.steps.map (·.item) := by
  unfold names
  rw [List.mem_filterMap, List.mem_map]
  refine exists_congr fun s => and_congr_right fun _ => ?_
  split
  · next o ho => cases o <;> simp [ho, Operand.propertyName?]
  · next ho => simpa using ho (.property name)

/-- The property names a condition mentions, each at its first mention. -/
def properties (c : Condition) : List String :=
  c.names.foldl (fun seen n => if n ∈ seen then seen else seen ++ [n]) []

end Condition

/-- Why a source is no condition. -/
inductive ParseError where
  | token (e : TokenError)
  | grammar (e : GrammarError)
  deriving DecidableEq, Repr

namespace ParseError

/-- The text of the mistake alone. -/
def cause : ParseError → String
  | .token e => e.message
  | .grammar e => e.message

def message : ParseError → String
  | .token e => "lex error: " ++ e.message
  | .grammar e => "compile error: " ++ e.message

end ParseError

/-- Reads a condition. -/
def parse (source : String) : Except ParseError Condition := do
  let tokens ← (tokenize source).mapError .token
  let steps ← (toPostfix tokens).mapError .grammar
  return ⟨source, steps⟩

theorem parse_eq_ok {source : String} {tokens : List (Placed Token)} {steps : List (Placed Step)}
    (ht : tokenize source = .ok tokens) (hs : toPostfix tokens = .ok steps) :
    parse source = .ok ⟨source, steps⟩ := by
  unfold parse
  rw [ht]
  change (toPostfix tokens).mapError ParseError.grammar >>= (fun s => pure (Condition.mk source s)) = _
  rw [hs]
  rfl

/-- A source with tokens is no condition exactly if they are out of order. -/
theorem parse_eq_grammar_iff {source : String} {tokens : List (Placed Token)} {e : GrammarError}
    (ht : tokenize source = .ok tokens) :
    parse source = .error (.grammar e) ↔ toPostfix tokens = .error e := by
  cases hs : toPostfix tokens with
  | ok steps =>
    rw [parse_eq_ok ht hs]
    constructor <;> nofun
  | error e' =>
    have hparse : parse source = .error (.grammar e') := by
      unfold parse
      rw [ht]
      change (toPostfix tokens).mapError ParseError.grammar >>= _ = _
      rw [hs]
      rfl
    rw [hparse, Except.error.injEq, ParseError.grammar.injEq, Except.error.injEq]

/-- A condition is a source with tokens that are in order, and their postfix sequence. -/
theorem parse_eq_ok_iff {source : String} {c : Condition} :
    parse source = .ok c ↔ ∃ tokens, tokenize source = .ok tokens ∧
      toPostfix tokens = .ok c.steps ∧ c.source = source := by
  constructor
  · intro h
    cases ht : tokenize source with
    | error e =>
      unfold parse at h
      rw [ht] at h
      cases h
    | ok tokens =>
      cases hs : toPostfix tokens with
      | error e =>
        rw [(parse_eq_grammar_iff ht).mpr hs] at h
        cases h
      | ok steps =>
        rw [parse_eq_ok ht hs] at h
        cases h
        exact ⟨tokens, rfl, hs, rfl⟩
  · rintro ⟨tokens, ht, hs, rfl⟩
    exact parse_eq_ok ht hs

/-- Reads a condition and notes its length; a failure leaves no note. -/
def parseNoted (source : String) : Logged ParseError Condition :=
  match parse source with
  | .ok c =>
    let size := toString c.steps.length
    ⟨[.debug .parsing ("compiled \"" ++ source ++ "\" into " ++ size ++ " tokens")], .ok c⟩
  | .error e => .fail e

/-- Reads a condition; a failure is reported, for a subject if one is given. -/
def parseReported (context : Option String) (source : String) : Logged ParseError Condition :=
  let result := parseNoted source
  match result.outcome with
  | .ok _ => result
  | .error e =>
    let problem := "failed to parse \"" ++ source ++ "\": " ++ e.message
    ⟨result.notes ++ [.report context problem], .error e⟩

@[simp] theorem outcome_parseNoted (source : String) :
    (parseNoted source).outcome = parse source := by
  unfold parseNoted
  split <;> simp_all

end FieldGuard
