import FieldGuard.Proofs.Evaluation.Refinement

/-! What an evaluation writes into the log. Its own notes are no problems; all others are what the
getters of the context remark when they are asked about a field that the condition mentions. -/
namespace FieldGuard

/-- A note that can be written where the context is asked about some fields only. -/
inductive Context.Writes (ctx : Context) (names : List String) : Note → Prop
  | remark {getter : Getter} {field : String} {n : Note} (hfield : field ∈ names)
    (hn : n ∈ ctx.remarks getter field) : Writes ctx names n
  | trace (text : String) : Writes ctx names (.trace .evaluation text)
  | debug (text : String) : Writes ctx names (.debug .evaluation text)

namespace Logged

variable {ε α β : Type} {P : Note → Prop} {x : Logged ε α}

/-- A computation all of whose notes are as `P` says. -/
def Notes (P : Note → Prop) (x : Logged ε α) : Prop := ∀ n ∈ x.notes, P n

theorem notes_of_nil (h : x.notes = []) : x.Notes P := by
  intro n hn
  rw [h] at hn
  cases hn

theorem Notes.bind {f : α → Logged ε β} (hx : x.Notes P)
    (hf : ∀ a, x.outcome = .ok a → (f a).Notes P) : (x >>= f).Notes P := by
  intro n hn
  rw [notes_bind] at hn
  obtain hn | hn := List.mem_append.mp hn
  · exact hx n hn
  · cases ha : x.outcome with
    | error e => simp [ha] at hn
    | ok a =>
      rw [ha] at hn
      exact hf a ha n hn

theorem Notes.map {f : α → β} (hx : x.Notes P) : (f <$> x).Notes P := by
  rw [map_eq_pure_bind]
  exact hx.bind fun _ _ => notes_of_nil rfl

theorem notes_require_all (e : ε) (a : Option α) : (require e a).Notes P :=
  notes_of_nil (notes_require e a)

/-- Asking for a value and going on with it. -/
theorem notes_demand {x : Logged ε (Option α)} {e : ε} {f : α → Logged ε β} (hx : x.Notes P)
    (hf : ∀ a, (f a).Notes P) : (x >>= fun a => require e a >>= f).Notes P :=
  hx.bind fun a _ => (notes_require_all e a).bind fun a _ => hf a

/-- Asking a getter about one of the fields. -/
theorem notes_ask {ctx : Context} {names : List String} {getter : Getter} {field : String}
    (hfield : field ∈ names) : (ctx.ask getter field : Logged ε _).Notes (ctx.Writes names) := by
  intro n hn
  rw [Context.notes_ask] at hn
  exact .remark hfield hn

end Logged

namespace Operation

variable {ε : Float} {names : List String} {ctx : Context} {op : BinaryOp} {a b : Operand}

theorem notes_resolveBool (ha : a.Within names) :
    (resolveBool ctx a).Notes (ctx.Writes names) := by
  cases a with
  | property name =>
    exact (Logged.notes_ask (ha name rfl)).bind fun _ _ => Logged.notes_require_all _ _
  | bool _ | number _ | enum _ _ | null => exact Logged.notes_of_nil rfl

theorem notes_resolveNumber (ha : a.Within names) :
    (resolveNumber ctx a).Notes (ctx.Writes names) := by
  cases a with
  | property name =>
    exact (Logged.notes_ask (ha name rfl)).bind fun _ _ => Logged.notes_require_all _ _
  | bool _ | number _ | enum _ _ | null => exact Logged.notes_of_nil rfl

theorem notes_negation (ha : a.Within names) :
    (negation ctx a b).Notes (ctx.Writes names) :=
  (notes_resolveBool ha).bind fun _ _ => Logged.notes_of_nil rfl

variable {negate : Bool} {name type member : String}

theorem notes_isNull (hn : name ∈ names) :
    (isNull negate name ctx).Notes (ctx.Writes names) := by
  unfold isNull
  apply Logged.notes_demand (Logged.notes_ask hn)
  intro declared
  apply Logged.notes_demand (Logged.notes_ask hn)
  intro ref
  exact Logged.notes_of_nil rfl

theorem notes_standsAt (hn : name ∈ names) :
    (standsAt negate name type member ctx).Notes (ctx.Writes names) := by
  unfold standsAt
  apply Logged.notes_demand (Logged.notes_ask hn)
  intro declared
  split
  · exact Logged.notes_of_nil rfl
  · apply Logged.notes_demand (Logged.notes_ask hn)
    intro current
    exact Logged.notes_of_nil rfl

theorem notes_sharesFlag (hn : name ∈ names) :
    (sharesFlag name type member ctx).Notes (ctx.Writes names) := by
  unfold sharesFlag
  refine (Logged.notes_require_all _ _).bind fun flag _ => ?_
  apply Logged.notes_demand (Logged.notes_ask hn)
  intro current
  exact Logged.notes_of_nil rfl

theorem notes_sameValue {x y : String} (hx : x ∈ names) (hy : y ∈ names) :
    (sameValue ε negate x y ctx).Notes (ctx.Writes names) := by
  unfold sameValue
  refine (Logged.notes_ask hx).bind fun refX _ => ?_
  refine (Logged.notes_ask hy).bind fun refY _ => ?_
  split
  · exact Logged.notes_of_nil rfl
  · apply Logged.notes_demand (Logged.notes_ask hx)
    intro typeX
    apply Logged.notes_demand (Logged.notes_ask hy)
    intro typeY
    split
    · exact Logged.notes_of_nil rfl
    · -- The three comparisons ask each getter about both fields, whatever it answers.
      refine (Logged.notes_ask hx).bind fun _ _ => (Logged.notes_ask hy).bind fun _ _ => ?_
      refine (Logged.notes_ask hx).bind fun _ _ => (Logged.notes_ask hy).bind fun _ _ => ?_
      refine (Logged.notes_ask hx).bind fun _ _ => (Logged.notes_ask hy).bind fun _ _ => ?_
      exact (Logged.notes_require_all _ _).bind fun _ _ => Logged.notes_of_nil rfl

/-- A body asks about its own operands only. -/
theorem Applies.notes {f : Context → Logged Fault Operand} (hf : Applies ε op a b f)
    (ha : a.Within names) (hb : b.Within names) : (f ctx).Notes (ctx.Writes names) := by
  cases hf with
  | bools f hop _ _ =>
    exact (notes_resolveBool ha).bind fun _ _ =>
      (notes_resolveBool hb).bind fun _ _ => Logged.notes_of_nil rfl
  | comparing f hop _ _ | computing f hop _ _ =>
    exact (notes_resolveNumber ha).bind fun _ _ =>
      (notes_resolveNumber hb).bind fun _ _ => Logged.notes_of_nil rfl
  | isNull negate name hop => exact notes_isNull (ha name rfl)
  | nullIs negate name hop => exact notes_isNull (hb name rfl)
  | sameValue negate x y hop => exact notes_sameValue (ha x rfl) (hb y rfl)
  | sameMember result hop _ _ => exact Logged.notes_of_nil rfl
  | standsAt negate name type member hop => exact notes_standsAt (ha name rfl)
  | memberStands negate name type member hop => exact notes_standsAt (hb name rfl)
  | sharesFlag name type member hop => exact notes_sharesFlag (ha name rfl)
  | flagShares name type member hop => exact notes_sharesFlag (hb name rfl)

end Operation

namespace Machine

variable {ε : Float} {names : List String} {ctx : Context} {stack st : List Operand}

/-- A result together with its trace. -/
theorem notes_traced {x : Logged Fault Operand} {text : Operand → String}
    (hx : x.Notes (ctx.Writes names)) :
    (do
      let result ← x
      Logged.note (.trace .evaluation (text result))
      return result : Logged Fault Operand).Notes (ctx.Writes names) := by
  refine hx.bind fun result _ => ?_
  have htrace : (Logged.note (.trace .evaluation (text result)) : Logged Fault Unit).Notes
      (ctx.Writes names) := by
    intro n hn
    obtain rfl := List.mem_singleton.mp hn
    exact .trace _
  exact htrace.bind fun _ _ => Logged.notes_of_nil rfl

theorem notes_negate {a : Operand} (ha : a.Within names) :
    ((Rules.standard ε).negate ctx a).Notes (ctx.Writes names) := by
  refine notes_traced ?_
  obtain ⟨-, hf⟩ | ⟨-, -, hf⟩ := Rules.applyPrefix_standard ε a
  · rw [hf]
    exact Logged.notes_of_nil rfl
  · rw [hf]
    exact Operation.notes_negation ha

theorem notes_combine {op : BinaryOp} {a b : Operand} (ha : a.Within names) (hb : b.Within names) :
    ((Rules.standard ε).combine ctx op a b).Notes (ctx.Writes names) := by
  refine notes_traced ?_
  obtain ⟨-, hf⟩ | ⟨-, f, happ, hf⟩ := Rules.applyBinary_standard ε op a b
  · rw [hf]
    exact Logged.notes_of_nil rfl
  · rw [hf]
    exact happ.notes ha hb

/-- A step asks about the fields on the stack only. -/
theorem notes_step {s : Step} (hstack : ∀ a ∈ stack, a.Within names) :
    (step (.standard ε) ctx stack s).Notes (ctx.Writes names) := by
  cases s with
  | operand o => exact Logged.notes_of_nil rfl
  | not =>
    cases stack with
    | nil => exact Logged.notes_of_nil rfl
    | cons a rest => exact (notes_negate (hstack a List.mem_cons_self)).map
  | binary op =>
    rcases stack with _ | ⟨b, _ | ⟨a, rest⟩⟩
    · exact Logged.notes_of_nil rfl
    · exact Logged.notes_of_nil rfl
    · obtain ⟨hb, hrest⟩ := List.forall_mem_cons.mp hstack
      exact (notes_combine (hrest a List.mem_cons_self) hb).map

theorem notes_run {steps : List Step} (hstack : ∀ a ∈ stack, a.Within names)
    (hsteps : ∀ o, Step.operand o ∈ steps → o.Within names) :
    (run (.standard ε) ctx stack steps).Notes (ctx.Writes names) := by
  induction steps generalizing stack with
  | nil => exact Logged.notes_of_nil rfl
  | cons s rest ih =>
    refine (notes_step hstack).bind fun next hnext => ?_
    have hwithin := within_step hstack (fun o ho => hsteps o (ho ▸ List.mem_cons_self)) hnext
    exact ih hwithin fun o ho => hsteps o (List.mem_cons_of_mem s ho)

theorem notes_verdict {a : Operand} (ha : a.Within names) :
    (verdict ctx a).Notes (ctx.Writes names) := by
  cases a with
  | property name =>
    have hname := ha name rfl
    refine (Logged.notes_ask hname).bind fun answer _ => ?_
    split
    · exact Logged.notes_of_nil rfl
    · refine (Logged.notes_ask hname).bind fun declared _ => ?_
      split
      · exact Logged.notes_of_nil rfl
      · exact Logged.notes_of_nil rfl
  | bool _ | number _ | enum _ _ | null => exact Logged.notes_of_nil rfl

end Machine

/-- An evaluation asks about the fields that the condition mentions only. -/
theorem notes_evaluate (ε : Float) (ctx : Context) (c : Condition) :
    (evaluate (.standard ε) ctx c).Notes (ctx.Writes c.names) := by
  have hempty : ∀ a ∈ ([] : List Operand), a.Within c.names := nofun
  refine (Machine.notes_run hempty c.within_names).bind fun st hst => ?_
  split
  · next a =>
    have ha := Machine.within_run hempty c.within_names hst a List.mem_cons_self
    refine (Machine.notes_verdict ha).bind fun b _ => ?_
    have hdebug : (Logged.note (.debug .evaluation ("evaluated \"" ++ c.source ++ "\" against " ++
        ctx.name ++ " -> " ++ (Operand.bool b).text)) : Logged Fault Unit).Notes
        (ctx.Writes c.names) := by
      intro n hn
      obtain rfl := List.mem_singleton.mp hn
      exact .debug _
    exact hdebug.bind fun _ _ => Logged.notes_of_nil rfl
  · exact Logged.notes_of_nil rfl

end FieldGuard
