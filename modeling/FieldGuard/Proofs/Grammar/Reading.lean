import FieldGuard.Proofs.Grammar.Unambiguous
import FieldGuard.Proofs.Grammar.Waiting

/-! Reading tokens, step by step. A derivation that fits behind the waiting operators is read to its
end, with some of its own operators still waiting. -/
namespace FieldGuard
namespace Postfix

/-- All that reading one token can do. -/
inductive Accepts : State → Placed Token → List (Placed Step) → State → Prop
  | operand {waiting last} (o : Operand) (p : Nat) :
    Accepts ⟨waiting, true, last⟩ ⟨.operand o, p⟩ [⟨.operand o, p⟩] ⟨waiting, false, last⟩
  | not {waiting last} (p : Nat) :
    Accepts ⟨waiting, true, last⟩ ⟨.symbol .not, p⟩ []
      ⟨⟨.not, p⟩ :: waiting, true, some ⟨.not, p⟩⟩
  | leftParen {waiting last} (p : Nat) :
    Accepts ⟨waiting, true, last⟩ ⟨.symbol .leftParen, p⟩ []
      ⟨⟨.group, p⟩ :: waiting, true, some ⟨.leftParen, p⟩⟩
  | rightParen {waiting last out rest} (p : Nat) (h : closeGroup? waiting = some (out, rest)) :
    Accepts ⟨waiting, false, last⟩ ⟨.symbol .rightParen, p⟩ out
      ⟨rest, false, some ⟨.rightParen, p⟩⟩
  | binary {waiting last} (op : BinaryOp) (p : Nat) :
    Accepts ⟨waiting, false, last⟩ ⟨.symbol (.binary op), p⟩ (release op.tier waiting).1
      ⟨⟨.binary op, p⟩ :: (release op.tier waiting).2, true, some ⟨.binary op, p⟩⟩

theorem step_eq_ok_iff {s next : State} {t : Placed Token} {out : List (Placed Step)} :
    step s t = .ok (out, next) ↔ Accepts s t out next := by
  constructor
  · intro h
    obtain ⟨waiting, expecting, last⟩ := s
    obtain ⟨item, p⟩ := t
    rcases item with (op | _ | _ | _) | o
    · cases expecting with
      | true => simp [step] at h
      | false =>
        cases h
        exact .binary op p
    · cases expecting with
      | true =>
        cases h
        exact .not p
      | false => simp [step] at h
    · cases expecting with
      | true =>
        cases h
        exact .leftParen p
      | false => simp [step] at h
    · cases expecting with
      | true => simp [step] at h
      | false =>
        cases hc : closeGroup? waiting with
        | none => simp [step, hc] at h
        | some r =>
          simp only [step, hc] at h
          cases h
          exact .rightParen p hc
    · cases expecting with
      | true =>
        cases h
        exact .operand o p
      | false => simp [step] at h
  · intro h
    cases h with
    | rightParen p hc => simp [step, hc]
    | _ => rfl

/-- After a token an operand is expected as the token says. -/
theorem Accepts.expecting {s next : State} {t : Placed Token} {out : List (Placed Step)}
    (h : Accepts s t out next) : next.expecting = t.item.opensOperand := by
  cases h <;> rfl

theorem Accepts.lastSymbol {s next : State} {x : Symbol} {p : Nat} {out : List (Placed Step)}
    (h : Accepts s ⟨.symbol x, p⟩ out next) : next.lastSymbol = some ⟨x, p⟩ := by
  cases h <;> rfl

/-- The steps that tokens emit from a state on, and the state behind them. -/
inductive Reads : State → List (Placed Token) → List (Placed Step) → State → Prop
  | nil (s : State) : Reads s [] [] s
  | cons {s next last t ts out rest} (head : Accepts s t out next)
    (tail : Reads next ts rest last) : Reads s (t :: ts) (out ++ rest) last

theorem Reads.append {s next last : State} {xs ys : List (Placed Token)}
    {out rest : List (Placed Step)} (hx : Reads s xs out next) (hy : Reads next ys rest last) :
    Reads s (xs ++ ys) (out ++ rest) last := by
  induction hx with
  | nil => exact hy
  | cons head _ ih =>
    rw [List.append_assoc]
    exact .cons head (ih hy)

theorem Reads.split {s last : State} {xs ys : List (Placed Token)} {steps : List (Placed Step)}
    (h : Reads s (xs ++ ys) steps last) :
    ∃ out next rest, Reads s xs out next ∧ Reads next ys rest last ∧ out ++ rest = steps := by
  induction xs generalizing s steps with
  | nil => exact ⟨[], s, steps, .nil s, h, rfl⟩
  | cons x xs ih =>
    cases h with
    | cons head tail =>
      obtain ⟨out, next, rest, hx, hy, rfl⟩ := ih tail
      exact ⟨_, next, rest, .cons head hx, hy, List.append_assoc _ _ _⟩

theorem Accepts.unique {s next next' : State} {t : Placed Token} {out out' : List (Placed Step)}
    (h : Accepts s t out next) (h' : Accepts s t out' next') : out = out' ∧ next = next' := by
  have heq := (step_eq_ok_iff.mpr h).symm.trans (step_eq_ok_iff.mpr h')
  simpa using heq

theorem Reads.unique {s last last' : State} {ts : List (Placed Token)}
    {out out' : List (Placed Step)} (h : Reads s ts out last) (h' : Reads s ts out' last') :
    out = out' ∧ last = last' := by
  induction h generalizing out' with
  | nil =>
    cases h'
    exact ⟨rfl, rfl⟩
  | cons head _ ih =>
    cases h' with
    | cons head' tail' =>
      obtain ⟨rfl, rfl⟩ := head.unique head'
      obtain ⟨rfl, rfl⟩ := ih tail'
      exact ⟨rfl, rfl⟩

theorem run_eq_ok_iff {s : State} {ts : List (Placed Token)} {steps : List (Placed Step)} :
    run s ts = .ok steps ↔
      ∃ out last rest, Reads s ts out last ∧ finish last = .ok rest ∧ steps = out ++ rest := by
  induction ts generalizing s steps with
  | nil =>
    constructor
    · intro h
      exact ⟨[], s, steps, .nil s, h, rfl⟩
    · rintro ⟨out, last, rest, hr, hf, rfl⟩
      cases hr
      exact hf
  | cons t ts ih =>
    constructor
    · intro h
      cases hs : step s t with
      | error e => simp [run, hs, bind, Except.bind] at h
      | ok r =>
        obtain ⟨o, next⟩ := r
        cases hr : run next ts with
        | error e => simp [run, hs, hr, bind, Except.bind] at h
        | ok steps' =>
          obtain ⟨out, last, rest, hreads, hf, rfl⟩ := ih.mp hr
          refine ⟨o ++ out, last, rest, .cons (step_eq_ok_iff.mp hs) hreads, hf, ?_⟩
          simp only [run, hs, hr, bind, Except.bind, pure, Except.pure] at h
          rw [List.append_assoc]
          exact (Except.ok.inj h).symm
    · rintro ⟨out, last, rest, hr, hf, rfl⟩
      cases hr with
      | cons head tail =>
        have hn := ih.mpr ⟨_, last, rest, tail, hf, rfl⟩
        simp [run, step_eq_ok_iff.mpr head, hn, bind, Except.bind, pure, Except.pure]

/-- A run fails at a token that is not accepted behind those before it, or at the end. -/
theorem run_eq_error_iff {s : State} {ts : List (Placed Token)} {e : GrammarError} :
    run s ts = .error e ↔
      (∃ front t rest out next, ts = front ++ t :: rest ∧ Reads s front out next ∧
        step next t = .error e) ∨
      ∃ out last, Reads s ts out last ∧ finish last = .error e := by
  constructor
  · intro h
    induction ts generalizing s with
    | nil => exact .inr ⟨[], s, .nil s, h⟩
    | cons t ts ih =>
      cases hs : step s t with
      | error e' =>
        obtain rfl : e' = e := by simpa [run, hs, bind, Except.bind] using h
        exact .inl ⟨[], t, ts, [], s, rfl, .nil s, hs⟩
      | ok r =>
        obtain ⟨o, next⟩ := r
        have hhead := step_eq_ok_iff.mp hs
        have hr : run next ts = .error e := by
          cases hr : run next ts with
          | error e' => simpa [run, hs, hr, bind, Except.bind] using h
          | ok steps => simp [run, hs, hr, bind, Except.bind, pure, Except.pure] at h
        obtain ⟨front, u, rest, out, last, rfl, hreads, hu⟩ | ⟨out, last, hreads, hf⟩ := ih hr
        · exact .inl ⟨t :: front, u, rest, _, last, rfl, .cons hhead hreads, hu⟩
        · exact .inr ⟨_, last, .cons hhead hreads, hf⟩
  · rintro (⟨front, t, rest, out, next, rfl, hreads, ht⟩ | ⟨out, last, hreads, hf⟩)
    · induction hreads with
      | nil => simp [run, ht, bind, Except.bind]
      | cons head _ ih =>
        simp [run, step_eq_ok_iff.mpr head, ih ht, bind, Except.bind]
    · induction hreads with
      | nil => exact hf
      | cons head _ ih => simp [run, step_eq_ok_iff.mpr head, ih hf, bind, Except.bind]

/-- A derivation that fits behind the waiting operators is read to its end. -/
theorem reads_tokens {k : Nat} (d : Derivation k) (waiting : List (Placed Waiting))
    (last : Option (Placed Symbol)) (h : k ≤ room waiting) :
    ∃ out pending last',
      Reads ⟨waiting, true, last⟩ d.tokens out ⟨pending ++ waiting, false, last'⟩ ∧
      out ++ released pending = d.steps ∧ ∀ w ∈ pending, w.item.Within k := by
  induction d generalizing waiting last with
  | operand o p => exact ⟨_, [], last, .cons (.operand o p) (.nil _), rfl, by simp⟩
  | group p body q ih =>
    obtain ⟨out, pending, last', hr, hs, hw⟩ := ih (⟨.group, p⟩ :: waiting) _ (Nat.le_refl 4)
    have hc : closeGroup? (pending ++ ⟨.group, p⟩ :: waiting) = some (released pending, waiting) :=
      closeGroup?_eq_some_iff.mpr ⟨p, by simp [release_append hw]⟩
    refine ⟨out ++ released pending, [], some ⟨.rightParen, q⟩, ?_, by simpa [released] using hs,
      by simp⟩
    have hclose : Accepts ⟨pending ++ ⟨.group, p⟩ :: waiting, false, last'⟩
        ⟨.symbol .rightParen, q⟩ (released pending) ⟨waiting, false, some ⟨.rightParen, q⟩⟩ :=
      .rightParen q hc
    simpa [Derivation.tokens] using
      Reads.cons (.leftParen p) (hr.append (.cons hclose (.nil _)))
  | not p body ih =>
    obtain ⟨out, pending, last', hr, hs, hw⟩ := ih (⟨.not, p⟩ :: waiting) _ (Nat.zero_le _)
    refine ⟨out, pending ++ [⟨.not, p⟩], last', ?_, ?_, ?_⟩
    · simpa [Derivation.tokens] using Reads.cons (.not p) hr
    · rw [released_append, ← List.append_assoc, hs]
      rfl
    · simpa [or_imp, forall_and, Waiting.Within] using hw
  | raise body ih =>
    obtain ⟨out, pending, last', hr, hs, hw⟩ := ih waiting last (by omega)
    exact ⟨out, pending, last', hr, hs, fun w hm => (hw w hm).mono (Nat.le_succ _)⟩
  | @binary k op member p left right ihl ihr =>
    have tier := BinaryOp.mem_ofTier_iff.mp member
    obtain ⟨outl, pendingl, lastl, hl, hsl, hwl⟩ := ihl waiting last h
    -- The operator releases what the left side left waiting, and nothing below that.
    have hrel : release op.tier (pendingl ++ waiting) = (released pendingl, waiting) := by
      rw [tier, release_append hwl, release_of_room (Nat.succ_pos k) h, List.append_nil]
    have hop : Accepts ⟨pendingl ++ waiting, false, lastl⟩ ⟨.symbol (.binary op), p⟩
        (released pendingl) ⟨⟨.binary op, p⟩ :: waiting, true, some ⟨.binary op, p⟩⟩ := by
      have hacc : Accepts ⟨pendingl ++ waiting, false, lastl⟩ ⟨.symbol (.binary op), p⟩ _ _ :=
        .binary op p
      rw [hrel] at hacc
      exact hacc
    obtain ⟨outr, pendingr, lastr, hr, hsr, hwr⟩ :=
      ihr (⟨.binary op, p⟩ :: waiting) (some ⟨.binary op, p⟩) (by simp [room, tier])
    refine ⟨outl ++ (released pendingl ++ outr), pendingr ++ [⟨.binary op, p⟩], lastr, ?_, ?_, ?_⟩
    · simpa [Derivation.tokens] using hl.append (.cons hop hr)
    · rw [released_append, Derivation.steps_binary, ← hsl, ← hsr]
      simp [released]
    · intro w hm
      rcases List.mem_append.mp hm with hm | hm
      · exact (hwr w hm).mono (Nat.le_succ k)
      · obtain rfl := List.mem_singleton.mp hm
        exact Nat.le_of_eq tier

end Postfix
end FieldGuard
