import FieldGuard.Proofs.Evaluation.Kinds
import FieldGuard.Proofs.Evaluation.Meaning
import FieldGuard.Proofs.Source.Phrases

/-! Inequality as the negation of equality. Each comparison behind `==` stands behind `!=` too: it
asks the same in the same order, fails in the same cases and answers with the opposite. So `!` may
be drawn into a comparison, and nothing but the operator that a fault names tells the difference. -/
namespace FieldGuard

/-- The other truth value; an operand that is none stays. -/
def Operand.opposite : Operand → Operand
  | .bool b => .bool !b
  | o => o

@[simp] theorem Operand.opposite_bool (b : Bool) : (Operand.bool b).opposite = .bool !b := rfl

namespace Operation

variable (ctx : Context) (a b : Operand)

theorem onBools_opposite (f : Bool → Bool → Bool) :
    onBools (fun x y => f x y != true) ctx a b =
      Operand.opposite <$> onBools (fun x y => f x y != false) ctx a b := by
  simp [onBools]

theorem comparing_opposite (f : Float → Float → Bool) :
    comparing (fun x y => f x y != true) ctx a b =
      Operand.opposite <$> comparing (fun x y => f x y != false) ctx a b := by
  simp [comparing]

variable (name type member : String)

theorem isNull_opposite : isNull true name ctx = Operand.opposite <$> isNull false name ctx := by
  simp [isNull]

theorem standsAt_opposite : standsAt true name type member ctx =
    Operand.opposite <$> standsAt false name type member ctx := by
  unfold standsAt
  simp only [map_bind]
  refine bind_congr fun declared? => bind_congr fun declared => ?_
  split
  · rfl
  · simp

theorem sameValue_opposite (ε : Float) (x y : String) :
    sameValue ε true x y ctx = Operand.opposite <$> sameValue ε false x y ctx := by
  unfold sameValue
  simp only [map_bind]
  refine bind_congr fun refX => bind_congr fun refY => ?_
  split
  · simp
  · simp only [map_bind]
    refine bind_congr fun typeX? => bind_congr fun typeX => bind_congr fun typeY? =>
      bind_congr fun typeY => ?_
    split
    · rfl
    · simp

/-- Behind `!=` stands what stands behind `==`, with the opposite answer. -/
theorem equality_opposite (ε : Float) (left right : Kind) :
    equality ε true left right =
      (equality ε false left right).map fun f ctx a b => Operand.opposite <$> f ctx a b := by
  have entry {f g : Operation} (h : ∀ ctx a b, f ctx a b = Operand.opposite <$> g ctx a b) :
      some f = (some g).map fun f ctx a b => Operand.opposite <$> f ctx a b :=
    congrArg some (funext fun ctx => funext fun a => funext fun b => h ctx a b)
  match left, right with
  | .property, .property =>
    refine entry fun ctx a b => ?_
    split
    · exact sameValue_opposite ctx ε _ _
    · rfl
  | .property, .null | .null, .property =>
    refine entry fun ctx a b => ?_
    split
    · exact isNull_opposite ctx _
    · rfl
  | .bool, .bool | .bool, .property | .property, .bool =>
    exact entry fun ctx a b => onBools_opposite ctx a b _
  | .number, .number | .number, .property | .property, .number =>
    exact entry fun ctx a b => comparing_opposite ctx a b _
  | .enum, .enum => exact entry fun ctx a b => by simp
  | .property, .enum | .enum, .property =>
    refine entry fun ctx a b => ?_
    split
    · exact standsAt_opposite ctx _ _ _
    · rfl
  | .bool, .number | .bool, .enum | .bool, .null | .number, .bool | .number, .enum
  | .number, .null | .enum, .bool | .enum, .number | .enum, .null | .null, .bool
  | .null, .number | .null, .enum | .null, .null => rfl

/-- How what `!=` comes to stands to what `==` comes to on the same operands: the truth values are
opposite, the faults are the same, or neither takes operands of these kinds. -/
inductive Opposes (a b : Operand) : Except Fault Operand → Except Fault Operand → Prop
  | bool (x : Bool) : Opposes a b (.ok (.bool x)) (.ok (.bool !x))
  | fault {e : Fault} (h : e.isKindFault = false) : Opposes a b (.error e) (.error e)
  | unsupported : Opposes a b
      (.error (.unsupported (.binary .equal) a.kind (some b.kind)))
      (.error (.unsupported (.binary .notEqual) a.kind (some b.kind)))

end Operation

namespace Rules

/-- In every context and on all operands `!=` comes to the opposite of what `==` comes to. -/
theorem opposes_equal (ε : Float) (ctx : Context) (a b : Operand) :
    Operation.Opposes a b ((standard ε).applyBinary ctx (.binary .equal) a b).outcome
      ((standard ε).applyBinary ctx (.binary .notEqual) a b).outcome := by
  have hopposite := Operation.equality_opposite ε a.kind b.kind
  unfold applyBinary
  rw [find?_standard, find?_standard, builtIn, builtIn, Operation.binary, Operation.binary,
    hopposite]
  cases h : Operation.equality ε false a.kind b.kind with
  | none => exact .unsupported
  | some f =>
    have happ : Operation.Applies ε .equal a b fun ctx => f ctx a b :=
      Operation.applies_of_equality rfl h
    obtain ⟨v, hv, hkind⟩ | ⟨e, he, hfault⟩ := (happ.kinded ctx).cases
    · cases v with
      | bool x => simpa [hv, Except.map] using Operation.Opposes.bool x
      | _ => cases hkind
    · simpa [he, Except.map] using Operation.Opposes.fault hfault

end Rules

/-- The same outcome, up to the operator by which a fault tells an inequality from an equality. -/
inductive SameButOperator {α : Type} : Except Fault α → Except Fault α → Prop
  | same (x : Except Fault α) : SameButOperator x x
  | unsupported (left right : Kind) : SameButOperator
      (.error (.unsupported (.binary .notEqual) left (some right)))
      (.error (.unsupported (.binary .equal) left (some right)))

theorem SameButOperator.bind {α β : Type} {x y : Except Fault α} (h : SameButOperator x y)
    (f : α → Except Fault β) : SameButOperator (x.bind f) (y.bind f) := by
  cases h with
  | same x => exact .same _
  | unsupported left right => exact .unsupported left right

/-- An inequality means what the negation of the equality does. -/
theorem ConditionTree.meaning_notEqual (ε : Float) (ctx : Context) (p q n : Nat)
    (left right : ConditionTree) :
    SameButOperator ((binary .notEqual p left right).meaning (.standard ε) ctx)
      ((ConditionTree.not n (binary .equal q left right)).meaning (.standard ε) ctx) := by
  simp only [meaning]
  cases left.meaning (.standard ε) ctx with
  | error e => exact .same _
  | ok a =>
    cases right.meaning (.standard ε) ctx with
    | error e => exact .same _
    | ok b =>
      have hopposes := Rules.opposes_equal ε ctx a b
      dsimp only
      -- How the two outcomes came about does not matter any more, only how they stand to each other.
      generalize ((Rules.standard ε).applyBinary ctx (.binary .equal) a b).outcome = equal
        at hopposes ⊢
      generalize ((Rules.standard ε).applyBinary ctx (.binary .notEqual) a b).outcome = notEqual
        at hopposes ⊢
      cases hopposes with
      | bool x => exact .same _
      | fault h => exact .same _
      | unsupported => exact .unsupported _ _

/-- Inequality is the exact negation of equality under the built-in rules, in every context. On all
operands `!=` comes to the opposite truth value where `==` comes to one, and to the same fault where
`==` comes to one, but for its own name. So for all sources of conditions, the inequality of the two
is a condition, the negation of their equality is one, and both have the same outcome, but for the
operator that a fault names. -/
theorem notEqual_negates_equal (ε : Float) :
    (∀ ctx a b, Operation.Opposes a b
      ((Rules.standard ε).applyBinary ctx (.binary .equal) a b).outcome
      ((Rules.standard ε).applyBinary ctx (.binary .notEqual) a b).outcome) ∧
    ∀ left right l r, parse left = .ok l → parse right = .ok r → ∃ unequal negated,
      parse ("(" ++ left ++ ") != (" ++ right ++ ")") = .ok unequal ∧
      parse ("!((" ++ left ++ ") == (" ++ right ++ "))") = .ok negated ∧
      ∀ ctx, SameButOperator (evaluate (.standard ε) ctx unequal).outcome
        (evaluate (.standard ε) ctx negated).outcome := by
  refine ⟨Rules.opposes_equal ε, fun left right l r hl hr => ?_⟩
  obtain ⟨tl, htl⟩ := exists_tree_of_parse hl
  obtain ⟨tr, htr⟩ := exists_tree_of_parse hr
  have hleft : Phrase 4 left.toList tl.bareSteps := exists_parse_iff.mp ⟨l, hl, htl⟩
  have hright : Phrase 4 right.toList tr.bareSteps := exists_parse_iff.mp ⟨r, hr, htr⟩
  -- Put together, the sources are phrases, and their walks are those of two trees on the same parts.
  have hunequal := hleft.binary_groups .notEqual hright
  have hnegated := ((hleft.binary_groups .equal hright).group.not).raise (Nat.zero_le 4)
  obtain ⟨unequal, hu, husteps⟩ : ∃ c,
      parse ("(" ++ left ++ ") != (" ++ right ++ ")") = .ok c ∧
      c.steps.map (·.item) = (ConditionTree.binary .notEqual 0 tl tr).bareSteps := by
    rw [exists_parse_iff]
    simpa [BinaryOp.text] using hunequal
  obtain ⟨negated, hn, hnsteps⟩ : ∃ c,
      parse ("!((" ++ left ++ ") == (" ++ right ++ "))") = .ok c ∧
      c.steps.map (·.item) = (ConditionTree.not 0 (.binary .equal 0 tl tr)).bareSteps := by
    rw [exists_parse_iff]
    simpa [BinaryOp.text] using hnegated
  refine ⟨unequal, negated, hu, hn, fun ctx => ?_⟩
  rw [evaluate_eq_of_bareSteps _ ctx husteps, evaluate_eq_of_bareSteps _ ctx hnsteps]
  exact (ConditionTree.meaning_notEqual ε ctx 0 0 0 tl tr).bind _

/-- A negated property, which is a bool, and the null literal. -/
theorem notEqual_negates_equal_null :
    let ε := Rules.defaultEpsilon
    let negation : Condition := ⟨"!a", [⟨.operand (.property "a"), 1⟩, ⟨.not, 0⟩]⟩
    let null : Condition := ⟨"nullptr", [⟨.operand .null, 0⟩]⟩
    parse "!a" = .ok negation ∧ parse "nullptr" = .ok null ∧
      (∀ ctx a b, Operation.Opposes a b
        ((Rules.standard ε).applyBinary ctx (.binary .equal) a b).outcome
        ((Rules.standard ε).applyBinary ctx (.binary .notEqual) a b).outcome) ∧
      ∃ unequal negated, parse "(!a) != (nullptr)" = .ok unequal ∧
        parse "!((!a) == (nullptr))" = .ok negated ∧
        ∀ ctx, SameButOperator (evaluate (.standard ε) ctx unequal).outcome
          (evaluate (.standard ε) ctx negated).outcome := by
  dsimp only
  have hnegation : parse "!a" = .ok ⟨"!a", [⟨.operand (.property "a"), 1⟩, ⟨.not, 0⟩]⟩ := by
    have hpasses := @Lexeme.Passes.token true 0 '!' [] ['a'] _ _ _ rfl rfl <|
      @Lexeme.Passes.token true 1 'a' [] [] _ _ _ rfl rfl <| .stay _
    exact parse_eq_ok (Lexeme.tokenize_eq_ok_iff.mpr ⟨_, hpasses, rfl⟩) rfl
  have hnull : parse "nullptr" = .ok ⟨"nullptr", [⟨.operand .null, 0⟩]⟩ := by
    have hpasses := @Lexeme.Passes.token true 0 'n' ['u', 'l', 'l', 'p', 't', 'r'] [] _ _ _ rfl rfl <|
      .stay _
    exact parse_eq_ok (Lexeme.tokenize_eq_ok_iff.mpr ⟨_, hpasses, rfl⟩) rfl
  obtain ⟨hopposes, hsources⟩ := notEqual_negates_equal Rules.defaultEpsilon
  exact ⟨hnegation, hnull, hopposes, hsources "!a" "nullptr" _ _ hnegation hnull⟩

end FieldGuard
