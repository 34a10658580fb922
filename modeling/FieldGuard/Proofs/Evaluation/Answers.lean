import FieldGuard.Condition.Evaluation

/-! When an operation has a result, and a condition a truth value. For each body, the answers that
it needs from the context and what it makes of them; where one of them is missing there is a fault.
-/
namespace FieldGuard
namespace Operation

variable {ctx : Context} {a b v : Operand}

theorem resolveBool_eq_ok_iff {x : Bool} :
    (resolveBool ctx a).outcome = .ok x ↔
      a = .bool x ∨ ∃ name, a = .property name ∧ ctx.bool name = some x := by
  cases a with
  | property name => cases h : ctx.bool name <;> simp [resolveBool, Except.bind, h]
  | bool _ | number _ | enum _ _ | null => simp [resolveBool]

theorem resolveNumber_eq_ok_iff {x : Float} :
    (resolveNumber ctx a).outcome = .ok x ↔
      a = .number x ∨ ∃ name, a = .property name ∧ ctx.number name = some x := by
  cases a with
  | property name => cases h : ctx.number name <;> simp [resolveNumber, Except.bind, h]
  | bool _ | number _ | enum _ _ | null => simp [resolveNumber]

theorem negation_eq_ok_iff :
    (negation ctx a b).outcome = .ok v ↔
      ∃ x, (resolveBool ctx a).outcome = .ok x ∧ .bool (!x) = v := by
  simp only [negation, Logged.bind_eq_ok_iff, Logged.outcome_pure, Except.ok.injEq]

theorem onBools_eq_ok_iff {f : Bool → Bool → Bool} :
    (onBools f ctx a b).outcome = .ok v ↔
      ∃ x, (resolveBool ctx a).outcome = .ok x ∧
        ∃ y, (resolveBool ctx b).outcome = .ok y ∧ .bool (f x y) = v := by
  simp only [onBools, Logged.bind_eq_ok_iff, Logged.outcome_pure, Except.ok.injEq]

theorem comparing_eq_ok_iff {f : Float → Float → Bool} :
    (comparing f ctx a b).outcome = .ok v ↔
      ∃ x, (resolveNumber ctx a).outcome = .ok x ∧
        ∃ y, (resolveNumber ctx b).outcome = .ok y ∧ .bool (f x y) = v := by
  simp only [comparing, Logged.bind_eq_ok_iff, Logged.outcome_pure, Except.ok.injEq]

theorem computing_eq_ok_iff {f : Float → Float → Float} :
    (computing f ctx a b).outcome = .ok v ↔
      ∃ x, (resolveNumber ctx a).outcome = .ok x ∧
        ∃ y, (resolveNumber ctx b).outcome = .ok y ∧ .number (f x y) = v := by
  simp only [computing, Logged.bind_eq_ok_iff, Logged.outcome_pure, Except.ok.injEq]

variable {negate : Bool} {name type member : String}

theorem isNull_eq_ok_iff :
    (isNull negate name ctx).outcome = .ok v ↔
      (∃ type, ctx.typeName name = some type) ∧
        ∃ ref, ctx.object name = some ref ∧ .bool (ref.isNull != negate) = v := by
  cases ht : ctx.typeName name with
  | none => simp [isNull, Except.bind, ht]
  | some type => cases ho : ctx.object name <;> simp [isNull, Except.bind, Except.map, ht, ho]

theorem standsAt_eq_ok_iff :
    (standsAt negate name type member ctx).outcome = .ok v ↔
      ctx.typeName name = some type ∧
        ∃ current, ctx.member name = some current ∧
          .bool (decide (current = member) != negate) = v := by
  cases ht : ctx.typeName name with
  | none => simp [standsAt, Except.bind, ht]
  | some declared =>
    by_cases h : declared = type
    · cases hm : ctx.member name <;> simp [standsAt, Except.bind, Except.map, ht, h, hm]
    · simp [standsAt, Except.bind, ht, h]

theorem sharesFlag_eq_ok_iff :
    (sharesFlag name type member ctx).outcome = .ok v ↔
      ∃ flag, ctx.memberValue type member = some flag ∧
        ∃ current, ctx.integer name = some current ∧ .bool (current &&& flag != 0) = v := by
  cases hf : ctx.memberValue type member with
  | none => simp [sharesFlag, Except.bind, hf]
  | some flag => cases hi : ctx.integer name <;> simp [sharesFlag, Except.bind, Except.map, hf, hi]

theorem both_eq_some_iff {α β : Type} {f : α → α → β} {x y : Option α} {r : β} :
    both f x y = some r ↔ ∃ a, x = some a ∧ ∃ b, y = some b ∧ f a b = r := by
  cases x <;> cases y <;> simp [both]

/-- What the comparisons of two fields of one type come to, the last one first. -/
def valuesEqual? (ε : Float) (ctx : Context) (a b : String) : Option Bool :=
  both (fun x y => decide (x = y)) (ctx.member a) (ctx.member b) <|>
    both (nearlyEqual ε) (ctx.number a) (ctx.number b) <|>
      both (fun x y => x == y) (ctx.bool a) (ctx.bool b)

theorem valuesEqual?_eq_some_iff {ε : Float} {x y : String} {equal : Bool} :
    valuesEqual? ε ctx x y = some equal ↔
      both (fun p q => decide (p = q)) (ctx.member x) (ctx.member y) = some equal ∨
        both (fun p q => decide (p = q)) (ctx.member x) (ctx.member y) = none ∧
          (both (nearlyEqual ε) (ctx.number x) (ctx.number y) = some equal ∨
            both (nearlyEqual ε) (ctx.number x) (ctx.number y) = none ∧
              both (fun p q => p == q) (ctx.bool x) (ctx.bool y) = some equal) := by
  simp only [valuesEqual?, Option.orElse_eq_orElse, Option.orElse_eq_or, Option.or_eq_some_iff]

/-- What an equality of two fields comes to, told by the answers about them. -/
theorem outcome_sameValue (ε : Float) (negate : Bool) (x y : String) (ctx : Context) :
    (sameValue ε negate x y ctx).outcome =
      match both (fun p q => decide (p = q)) (ctx.object x) (ctx.object y) with
      | some equal => .ok (.bool (equal != negate))
      | none =>
        match ctx.typeName x, ctx.typeName y with
        | none, _ => .error (.invalidOperand x)
        | some _, none => .error (.invalidOperand y)
        | some tx, some ty =>
          if tx ≠ ty then .error (.typeMismatch x y)
          else
            match valuesEqual? ε ctx x y with
            | some equal => .ok (.bool (equal != negate))
            | none => .error (.typeMismatch x y) := by
  unfold sameValue
  simp only [Logged.outcome_bind, Context.outcome_ask, Context.get, Except.bind]
  cases both (fun p q => decide (p = q)) (ctx.object x) (ctx.object y) with
  | some equal => rfl
  | none =>
    cases hx : ctx.typeName x with
    | none => simp [Except.bind, hx]
    | some tx =>
      cases hy : ctx.typeName y with
      | none => simp [Except.bind, hx, hy]
      | some ty =>
        by_cases h : tx = ty
        · simp only [Logged.outcome_bind, Context.outcome_ask, Context.get, Logged.outcome_require,
            hx, hy, Except.bind, ne_eq, h, not_true_eq_false, if_false, valuesEqual?]
          generalize (both _ (ctx.member x) (ctx.member y) <|> _) = equal
          cases equal with
          | none => rfl
          | some equal => rfl
        · simp [Except.bind, hx, hy, h]

theorem sameValue_eq_ok_iff {ε : Float} {x y : String} :
    (sameValue ε negate x y ctx).outcome = .ok v ↔
      ∃ equal, .bool (equal != negate) = v ∧
        (both (fun p q => decide (p = q)) (ctx.object x) (ctx.object y) = some equal ∨
          both (fun p q => decide (p = q)) (ctx.object x) (ctx.object y) = none ∧
            (∃ type, ctx.typeName x = some type ∧ ctx.typeName y = some type) ∧
              valuesEqual? ε ctx x y = some equal) := by
  rw [outcome_sameValue]
  cases both (fun p q => decide (p = q)) (ctx.object x) (ctx.object y) with
  | some equal => simp
  | none =>
    cases hx : ctx.typeName x with
    | none => simp
    | some tx =>
      cases hy : ctx.typeName y with
      | none => simp
      | some ty =>
        by_cases h : tx = ty
        · cases valuesEqual? ε ctx x y <;> simp [h]
        · simp [h, Ne.symm h]

/-- Two fields have no equality where one has no type, or where they are a mismatch. -/
theorem sameValue_eq_error_iff {ε : Float} {x y : String} {e : Fault} :
    (sameValue ε negate x y ctx).outcome = .error e ↔
      both (fun p q => decide (p = q)) (ctx.object x) (ctx.object y) = none ∧
        (ctx.typeName x = none ∧ e = .invalidOperand x ∨
          ∃ tx, ctx.typeName x = some tx ∧
            (ctx.typeName y = none ∧ e = .invalidOperand y ∨
              ∃ ty, ctx.typeName y = some ty ∧ e = .typeMismatch x y ∧
                (tx = ty → valuesEqual? ε ctx x y = none))) := by
  rw [outcome_sameValue]
  cases both (fun p q => decide (p = q)) (ctx.object x) (ctx.object y) with
  | some equal => simp
  | none =>
    cases hx : ctx.typeName x with
    | none => simp [eq_comm]
    | some tx =>
      cases hy : ctx.typeName y with
      | none => simp [eq_comm]
      | some ty =>
        by_cases h : tx = ty
        · cases valuesEqual? ε ctx x y <;> simp [h, eq_comm]
        · simp [h, eq_comm]

end Operation

namespace Machine

/-- A step that comes through: what it takes off the stack, and what it leaves there. -/
inductive StepsTo (rules : Rules) (ctx : Context) : List Operand → Step → List Operand → Prop
  | operand {stack : List Operand} (o : Operand) : StepsTo rules ctx stack (.operand o) (o :: stack)
  | not {a v : Operand} (rest : List Operand) (hv : (rules.negate ctx a).outcome = .ok v) :
    StepsTo rules ctx (a :: rest) .not (v :: rest)
  | binary {op : BinaryOp} {a b v : Operand} (rest : List Operand)
    (hv : (rules.combine ctx op a b).outcome = .ok v) :
    StepsTo rules ctx (b :: a :: rest) (.binary op) (v :: rest)

theorem step_eq_ok_iff {rules : Rules} {ctx : Context} {stack stack' : List Operand} {s : Step} :
    (step rules ctx stack s).outcome = .ok stack' ↔ StepsTo rules ctx stack s stack' := by
  constructor
  · intro h
    cases s with
    | operand o =>
      obtain rfl : o :: stack = stack' := by simpa [step] using h
      exact .operand o
    | not =>
      cases stack with
      | nil => simp [step] at h
      | cons a rest =>
        obtain ⟨v, hv, rfl⟩ := Logged.map_eq_ok_iff.mp h
        exact .not rest hv
    | binary op =>
      rcases stack with _ | ⟨b, _ | ⟨a, rest⟩⟩
      · simp [step] at h
      · simp [step] at h
      · obtain ⟨v, hv, rfl⟩ := Logged.map_eq_ok_iff.mp h
        exact .binary rest hv
  · intro h
    cases h with
    | operand o => rfl
    | not rest hv => exact Logged.map_eq_ok_iff.mpr ⟨_, hv, rfl⟩
    | binary rest hv => exact Logged.map_eq_ok_iff.mpr ⟨_, hv, rfl⟩

end Machine

theorem Machine.verdict_eq_ok_iff {ctx : Context} {a : Operand} {b : Bool} :
    (verdict ctx a).outcome = .ok b ↔
      a = .bool b ∨ ∃ name, a = .property name ∧ ctx.bool name = some b := by
  cases a with
  | property name =>
    cases hb : ctx.bool name with
    | some x => simp [verdict, Except.bind, hb]
    | none => cases ht : ctx.typeName name <;> simp [verdict, Except.bind, hb, ht]
  | bool _ | number _ | enum _ _ | null => simp [verdict]

theorem evaluate_eq_ok_iff {rules : Rules} {ctx : Context} {c : Condition} {b : Bool} :
    (evaluate rules ctx c).outcome = .ok b ↔
      ∃ a, (Machine.run rules ctx [] (c.steps.map (·.item))).outcome = .ok [a] ∧
        (Machine.verdict ctx a).outcome = .ok b := by
  unfold evaluate
  rw [Logged.bind_eq_ok_iff]
  constructor
  · rintro ⟨st, hst, hb⟩
    match st, hst, hb with
    | [a], hst, hb =>
      obtain ⟨x, hx, hb⟩ := Logged.bind_eq_ok_iff.mp hb
      obtain rfl : x = b := by simpa [Except.map] using hb
      exact ⟨a, hst, hx⟩
  · rintro ⟨a, hst, hb⟩
    exact ⟨[a], hst, by simp [hb, Except.bind, Except.map]⟩

/-- A condition of one operator on two operands comes to the verdict on its result. -/
theorem evaluate_of_binary {rules : Rules} {ctx : Context} {c : Condition} {op : BinaryOp}
    {x y : Operand} (hc : c.steps.map (·.item) = [.operand x, .operand y, .binary op]) :
    (evaluate rules ctx c).outcome =
      (rules.applyBinary ctx (.binary op) x y).outcome.bind fun v =>
        (Machine.verdict ctx v).outcome := by
  have hrun : (Machine.run rules ctx [] (c.steps.map (·.item))).outcome =
      (rules.applyBinary ctx (.binary op) x y).outcome.map ([·]) := by
    rw [hc]
    cases h : (rules.applyBinary ctx (.binary op) x y).outcome <;>
      simp [Machine.run, Machine.step, h, Except.map]
  unfold evaluate
  rw [Logged.outcome_bind, hrun]
  cases (rules.applyBinary ctx (.binary op) x y).outcome with
  | error e => rfl
  | ok v =>
    cases h : (Machine.verdict ctx v).outcome <;> simp [Except.map, Except.bind, h]

end FieldGuard
