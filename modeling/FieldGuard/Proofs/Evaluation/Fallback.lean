import FieldGuard.Proofs.Evaluation.Dependence
import FieldGuard.Proofs.Evaluation.Refinement

/-! The comparisons behind the equality of two fields, in other orders. Equality compares the fields
as values in three ways, and the last way that both fields allow decides. Where a field answers to
one of the getters only, both fields allow at most one way; then no condition tells in which order
the comparisons are made, nor whether the first or the last of them decides. -/
namespace FieldGuard

/-- The getters that equality asks about both fields. -/
def Getter.compared : List Getter := [.object, .bool, .number, .member]

/-- Both fields have an answer to a getter. -/
def Context.BothAnswer (ctx : Context) (getter : Getter) (a b : String) : Prop :=
  (ctx.get getter a).isSome = true ∧ (ctx.get getter b).isSome = true

section Sorted

variable {ctx : Context} {getter : String → Getter} {g g' : Getter}

theorem Context.Sorted.eq_of_isSome (hs : ctx.Sorted getter) (hg : g ∈ Getter.compared) {n : String}
    (h : (ctx.get g n).isSome = true) : getter n = g := by
  obtain ⟨v, hv⟩ := Option.isSome_iff_exists.mp h
  cases g with
  | bool => exact hs.bool n v hv
  | number => exact hs.number n v hv
  | member => exact hs.member n v hv
  | object => exact hs.object n v hv
  | integer | typeName => simp [Getter.compared] at hg

/-- Two fields have answers to one of the compared getters only. -/
theorem Context.Sorted.bothAnswer_unique (hs : ctx.Sorted getter) (hg : g ∈ Getter.compared)
    (hg' : g' ∈ Getter.compared) {a b : String} (h : ctx.BothAnswer g a b)
    (h' : ctx.BothAnswer g' a b) : g = g' :=
  (hs.eq_of_isSome hg h.1).symm.trans (hs.eq_of_isSome hg' h'.1)

end Sorted

/-- A comparison needs both sides. -/
theorem Operation.both_eq_none_iff {α β : Type} {f : α → α → β} {x y : Option α} :
    both f x y = none ↔ ¬ (x.isSome = true ∧ y.isSome = true) := by
  cases x <;> cases y <;> simp [both]

/-- A way to compare two fields as values. -/
inductive Comparison where
  | bools
  | numbers
  | members
  deriving DecidableEq, Repr

namespace Comparison

/-- All ways, in the order in which equality goes through them. -/
def all : List Comparison := [.bools, .numbers, .members]

theorem mem_all (c : Comparison) : c ∈ all := by
  cases c <;> decide

/-- Asks about both fields and compares the answers, if there are two. -/
def compare (ε : Float) (a b : String) (ctx : Context) : Comparison → Logged Fault (Option Bool)
  | bools => do
    return Operation.both (fun x y => x == y) (← ctx.ask .bool a) (← ctx.ask .bool b)
  | numbers => do
    return Operation.both (nearlyEqual ε) (← ctx.ask .number a) (← ctx.ask .number b)
  | members => do
    return Operation.both (fun x y => decide (x = y)) (← ctx.ask .member a) (← ctx.ask .member b)

/-- What a comparison comes to. -/
def equal? (ε : Float) (ctx : Context) (a b : String) : Comparison → Option Bool
  | bools => Operation.both (fun x y => x == y) (ctx.bool a) (ctx.bool b)
  | numbers => Operation.both (nearlyEqual ε) (ctx.number a) (ctx.number b)
  | members => Operation.both (fun x y => decide (x = y)) (ctx.member a) (ctx.member b)

/-- The getter that a comparison asks. -/
def getter : Comparison → Getter
  | bools => .bool
  | numbers => .number
  | members => .member

theorem getter_mem_compared (c : Comparison) : c.getter ∈ Getter.compared := by
  cases c <;> decide

/-- All compared getters but that of objects belong to a comparison. -/
theorem exists_getter_eq {g : Getter} (hg : g ∈ Getter.compared) (hne : g ≠ .object) :
    ∃ c : Comparison, c.getter = g := by
  cases g with
  | bool => exact ⟨bools, rfl⟩
  | number => exact ⟨numbers, rfl⟩
  | member => exact ⟨members, rfl⟩
  | object => exact absurd rfl hne
  | integer | typeName => simp [Getter.compared] at hg

theorem getter_injective : Function.Injective getter := by
  intro c c' h
  cases c <;> cases c' <;> first | rfl | cases h

variable {ε : Float} {ctx : Context} {a b : String}

@[simp] theorem outcome_compare (c : Comparison) :
    (c.compare ε a b ctx).outcome = .ok (c.equal? ε ctx a b) := by
  cases c <;> rfl

/-- A comparison comes to something where its getter has both answers. -/
theorem equal?_eq_none_iff (ε : Float) {c : Comparison} :
    c.equal? ε ctx a b = none ↔ ¬ ctx.BothAnswer c.getter a b := by
  cases c with
  | bools | numbers | members => exact Operation.both_eq_none_iff

theorem bothAnswer_of_equal? {c : Comparison} {equal : Bool}
    (h : c.equal? ε ctx a b = some equal) : ctx.BothAnswer c.getter a b := by
  refine Classical.not_not.mp fun hboth => ?_
  exact absurd (h.symm.trans ((equal?_eq_none_iff ε).mpr hboth)) nofun

/-- The comparisons come to nothing where none of their getters has both answers. -/
theorem valuesEqual?_eq_none_iff :
    Operation.valuesEqual? ε ctx a b = none ↔ ∀ c : Comparison, ¬ ctx.BothAnswer c.getter a b := by
  simp only [← equal?_eq_none_iff ε, Operation.valuesEqual?, Option.orElse_eq_orElse,
    Option.orElse_eq_or, Option.or_eq_none_iff]
  constructor
  · rintro ⟨hmembers, hnumbers, hbools⟩ c
    cases c with
    | bools => exact hbools
    | numbers => exact hnumbers
    | members => exact hmembers
  · exact fun h => ⟨h .members, h .numbers, h .bools⟩

end Comparison

/-- Which of several answers decides. -/
inductive Precedence where
  | first
  | last
  deriving DecidableEq, Repr

namespace Precedence

def choose : Precedence → List (Option Bool) → Option Bool
  | first, answers => answers.findSome? id
  | last, answers => answers.reverse.findSome? id

variable {answers : List (Option Bool)} {x : Bool}

/-- Of answers that do not contradict each other, the first is what any of them is. -/
theorem findSome?_eq_some_iff (agree : ∀ y z, some y ∈ answers → some z ∈ answers → y = z) :
    answers.findSome? id = some x ↔ some x ∈ answers := by
  constructor
  · intro h
    obtain ⟨y, hy, rfl⟩ := List.exists_of_findSome?_eq_some h
    exact hy
  · intro hx
    have hfound : (answers.findSome? id).isSome :=
      List.findSome?_isSome_iff.mpr ⟨some x, hx, rfl⟩
    obtain ⟨z, hz⟩ := Option.isSome_iff_exists.mp hfound
    obtain ⟨y, hy, rfl⟩ := List.exists_of_findSome?_eq_some hz
    exact agree x z hx hy ▸ hz

theorem choose_eq_some_iff {precedence : Precedence}
    (agree : ∀ y z, some y ∈ answers → some z ∈ answers → y = z) :
    precedence.choose answers = some x ↔ some x ∈ answers := by
  cases precedence with
  | first => exact findSome?_eq_some_iff agree
  | last => rw [choose, findSome?_eq_some_iff (by simpa using agree), List.mem_reverse]

theorem choose_last (x y z : Option Bool) : last.choose [x, y, z] = (z <|> y <|> x) := by
  cases x <;> cases y <;> cases z <;> rfl

end Precedence

namespace Operation

/-- Equality of two fields with the comparisons in some order, the first or the last of those that
both fields allow deciding. -/
def sameValueBy (precedence : Precedence) (order : List Comparison) (ε : Float) (negate : Bool)
    (a b : String) (ctx : Context) : Logged Fault Operand := do
  let refA ← ctx.ask .object a
  let refB ← ctx.ask .object b
  match both (fun x y => decide (x = y)) refA refB with
  | some equal => return .bool (equal != negate)
  | none =>
    let typeA ← Logged.require (.invalidOperand a) (← ctx.ask .typeName a)
    let typeB ← Logged.require (.invalidOperand b) (← ctx.ask .typeName b)
    if typeA ≠ typeB then .fail (.typeMismatch a b)
    else
      let answers ← order.mapM (Comparison.compare ε a b ctx)
      let equal ← Logged.require (.typeMismatch a b) (precedence.choose answers)
      return .bool (equal != negate)

variable {ε : Float} {ctx : Context} {getter : String → Getter} {order order' : List Comparison}

/-- The built-in equality lets the last comparison decide; the log is the same, too. -/
theorem sameValueBy_last (negate : Bool) (a b : String) :
    sameValueBy .last Comparison.all ε negate a b ctx = sameValue ε negate a b ctx := by
  unfold sameValueBy sameValue
  refine bind_congr fun refA => bind_congr fun refB => ?_
  cases both (fun x y => decide (x = y)) refA refB with
  | some equal => rfl
  | none =>
    refine bind_congr fun _ => bind_congr fun typeA => ?_
    refine bind_congr fun _ => bind_congr fun typeB => ?_
    by_cases h : typeA = typeB
    · simp only [h, ne_eq, not_true_eq_false, if_false, Comparison.all, List.mapM_cons,
        List.mapM_nil, Comparison.compare, bind_assoc, pure_bind, Precedence.choose_last]
    · simp only [ne_eq, h, not_false_eq_true, if_true]

theorem outcome_mapM_compare (order : List Comparison) (a b : String) :
    (order.mapM (Comparison.compare ε a b ctx)).outcome =
      .ok (order.map (Comparison.equal? ε ctx a b)) := by
  induction order with
  | nil => rfl
  | cons c rest ih => simp [ih, Except.bind, Except.map]

/-- At most one comparison comes to anything, so it is found wherever it stands. -/
theorem choose_of_sorted (hs : ctx.Sorted getter) (precedence : Precedence)
    (horder : order.Perm Comparison.all) (a b : String) {x : Bool} :
    precedence.choose (order.map (Comparison.equal? ε ctx a b)) = some x ↔
      ∃ c, Comparison.equal? ε ctx a b c = some x := by
  rw [Precedence.choose_eq_some_iff, List.mem_map]
  · refine exists_congr fun c => and_iff_right ?_
    exact horder.mem_iff.mpr c.mem_all
  · intro y z hy hz
    obtain ⟨c, -, hc⟩ := List.mem_map.mp hy
    obtain ⟨c', -, hc'⟩ := List.mem_map.mp hz
    obtain rfl : c = c' := Comparison.getter_injective <|
      hs.bothAnswer_unique c.getter_mem_compared c'.getter_mem_compared
        (Comparison.bothAnswer_of_equal? hc) (Comparison.bothAnswer_of_equal? hc')
    exact Option.some.inj (hc.symm.trans hc')

theorem sameValueBy_congr (hs : ctx.Sorted getter) (precedence precedence' : Precedence)
    (horder : order.Perm Comparison.all) (horder' : order'.Perm Comparison.all) (negate : Bool)
    (a b : String) :
    (sameValueBy precedence order ε negate a b ctx).outcome =
      (sameValueBy precedence' order' ε negate a b ctx).outcome := by
  have hchoose : precedence.choose (order.map (Comparison.equal? ε ctx a b)) =
      precedence'.choose (order'.map (Comparison.equal? ε ctx a b)) := by
    apply Option.ext
    intro x
    rw [choose_of_sorted hs precedence horder, choose_of_sorted hs precedence' horder']
  unfold sameValueBy
  refine Logged.outcome_bind_congr rfl fun refA => Logged.outcome_bind_congr rfl fun refB => ?_
  split
  · rfl
  · refine Logged.outcome_bind_congr rfl fun _ => Logged.outcome_bind_congr rfl fun typeA => ?_
    refine Logged.outcome_bind_congr rfl fun _ => Logged.outcome_bind_congr rfl fun typeB => ?_
    split
    · rfl
    · rw [Logged.outcome_bind, Logged.outcome_bind, outcome_mapM_compare, outcome_mapM_compare,
        Except.bind, Except.bind, hchoose]

/-- Where every field answers to one getter only, the order of the comparisons and the precedence
among them have no part in what equality comes to. -/
theorem outcome_sameValueBy (hs : ctx.Sorted getter) (precedence : Precedence)
    (horder : order.Perm Comparison.all) (negate : Bool) (a b : String) :
    (sameValueBy precedence order ε negate a b ctx).outcome =
      (sameValue ε negate a b ctx).outcome := by
  rw [← sameValueBy_last]
  exact sameValueBy_congr hs precedence .last horder (.refl _) negate a b

/-- Equality of two fields with other preferences, as an operation. -/
def fieldEquality (precedence : Precedence) (order : List Comparison) (ε : Float) (negate : Bool) :
    Operation := fun ctx a b =>
  match a, b with
  | .property a, .property b => sameValueBy precedence order ε negate a b ctx
  | _, _ => .fail .malformed

end Operation

theorem Operand.exists_of_kind_property {o : Operand} (h : o.kind = .property) :
    ∃ name, o = .property name := by
  cases o with
  | property name => exact ⟨name, rfl⟩
  | bool _ | number _ | null | enum _ _ => cases h

namespace Rules

/-- The rules with other preferences in the equality and the inequality of two fields. -/
def preferring (r : Rules) (precedence : Precedence) (order : List Comparison) : Rules :=
  (r.register ⟨.binary .equal, .property, some .property⟩
    (Operation.fieldEquality precedence order r.epsilon false)).register
      ⟨.binary .notEqual, .property, some .property⟩
      (Operation.fieldEquality precedence order r.epsilon true)

/-- Two sets of rules come to the same in a context, whatever operators are applied to. -/
structure AlikeIn (ctx : Context) (r r' : Rules) : Prop where
  applyPrefix : ∀ s a, (r.applyPrefix ctx s a).outcome = (r'.applyPrefix ctx s a).outcome
  applyBinary : ∀ s a b, (r.applyBinary ctx s a b).outcome = (r'.applyBinary ctx s a b).outcome

variable {ctx : Context} {r r' : Rules}

theorem AlikeIn.step (h : AlikeIn ctx r r') (stack : List Operand) (s : Step) :
    (Machine.step r ctx stack s).outcome = (Machine.step r' ctx stack s).outcome := by
  cases s with
  | operand o => rfl
  | not =>
    cases stack with
    | nil => rfl
    | cons a rest => simp only [Machine.step, Logged.outcome_map, outcome_negate, h.applyPrefix]
  | binary op =>
    rcases stack with _ | ⟨b, _ | ⟨a, rest⟩⟩
    · rfl
    · rfl
    · simp only [Machine.step, Logged.outcome_map, outcome_combine, h.applyBinary]

theorem AlikeIn.run (h : AlikeIn ctx r r') (stack : List Operand) (steps : List Step) :
    (Machine.run r ctx stack steps).outcome = (Machine.run r' ctx stack steps).outcome := by
  induction steps generalizing stack with
  | nil => rfl
  | cons s rest ih => exact Logged.outcome_bind_congr (h.step stack s) ih

theorem AlikeIn.evaluate (h : AlikeIn ctx r r') (c : Condition) :
    (FieldGuard.evaluate r ctx c).outcome = (FieldGuard.evaluate r' ctx c).outcome :=
  Logged.outcome_bind_congr (h.run [] _) fun _ => rfl

/-- No operator tells the preferences in a context where every field answers to one getter. -/
theorem alikeIn_preferring {getter : String → Getter} (hs : ctx.Sorted getter) (ε : Float)
    (precedence : Precedence) {order : List Comparison} (horder : order.Perm Comparison.all) :
    AlikeIn ctx ((standard ε).preferring precedence order) (standard ε) where
  applyPrefix s a := by
    unfold applyPrefix preferring
    rw [find?_register, if_neg (by simp), find?_register, if_neg (by simp)]
  applyBinary s a b := by
    have hfields (negate : Bool) (x y : String) :
        (Operation.fieldEquality precedence order ε negate ctx (.property x)
          (.property y)).outcome = (Operation.sameValue ε negate x y ctx).outcome :=
      Operation.outcome_sameValueBy hs precedence horder negate x y
    by_cases hequal : Key.mk s a.kind (some b.kind) = ⟨.binary .equal, .property, some .property⟩
    · obtain ⟨rfl, ha, hb⟩ : s = .binary .equal ∧ a.kind = .property ∧ b.kind = .property := by
        simpa using hequal
      obtain ⟨x, rfl⟩ := Operand.exists_of_kind_property ha
      obtain ⟨y, rfl⟩ := Operand.exists_of_kind_property hb
      exact hfields false x y
    · by_cases hunequal :
          Key.mk s a.kind (some b.kind) = ⟨.binary .notEqual, .property, some .property⟩
      · obtain ⟨rfl, ha, hb⟩ : s = .binary .notEqual ∧ a.kind = .property ∧ b.kind = .property := by
          simpa using hunequal
        obtain ⟨x, rfl⟩ := Operand.exists_of_kind_property ha
        obtain ⟨y, rfl⟩ := Operand.exists_of_kind_property hb
        exact hfields true x y
      · unfold applyBinary preferring
        rw [find?_register, if_neg hunequal, find?_register, if_neg hequal]

end Rules
end FieldGuard
