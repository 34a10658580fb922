import Mathlib.Data.List.Basic
import FieldGuard.Proofs.Grammar.Viable

/-! Which mistake is named. Tokens without a postfix sequence either hold a first token behind which
nothing can make a sentence any more, and the mistake is that of this token; or they only end too
early, and the mistake is what is still open: an operator without its operand, else the innermost
group. -/
namespace FieldGuard

/-- The mistake of a token that no sentence has behind the tokens read so far, of which `before` is
the last. An operator in front of a `)` is at fault itself. -/
def mistake (before : Option (Placed Token)) (t : Placed Token) : GrammarError :=
  match t.item, before with
  | .operand o, _ => .unexpectedOperand o t.position
  | .symbol (.binary op), _ => .missingOperand (.binary op) t.position
  | .symbol .not, _ => .unexpectedSymbol .not t.position
  | .symbol .leftParen, _ => .unexpectedSymbol .leftParen t.position
  | .symbol .rightParen, some ⟨.symbol (.binary op), p⟩ => .missingOperand (.binary op) p
  | .symbol .rightParen, some ⟨.symbol .not, p⟩ => .missingOperand .not p
  | .symbol .rightParen, some ⟨.symbol .leftParen, _⟩ => .unexpectedSymbol .rightParen t.position
  | .symbol .rightParen, none => .unexpectedSymbol .rightParen t.position
  | .symbol .rightParen, some ⟨.symbol .rightParen, _⟩ => .unmatchedRight t.position
  | .symbol .rightParen, some ⟨.operand _, _⟩ => .unmatchedRight t.position

/-- Tokens that close every group they open, and no other. -/
structure Balanced (ts : List (Placed Token)) : Prop where
  depth_eq : depth ts = 0
  front_nonneg : ∀ xs, xs <+: ts → 0 ≤ depth xs

/-- What is wrong with tokens. -/
inductive HasMistake : List (Placed Token) → GrammarError → Prop
  | empty : HasMistake [] .empty
  /-- A token ends the shortest part from the front that nothing can complete; what is behind it has
  no say. -/
  | misplaced {front t} (rest) (viable : ∀ xs, xs <+: front → Viable xs)
      (stuck : ¬ Viable (front ++ [t])) : HasMistake (front ++ t :: rest) (mistake front.getLast? t)
  /-- The last token is an operator or a `(`, and more tokens could complete the whole. -/
  | unfinished {front x p} (viable : Viable (front ++ [⟨.symbol x, p⟩])) (opens : x ≠ .rightParen) :
      HasMistake (front ++ [⟨.symbol x, p⟩]) (.missingOperand x p)
  /-- The last token is an operand or a `)`, and more tokens could complete the whole: the innermost
  group is not closed, since those opened behind it are. -/
  | unclosed {front p rest t} (viable : Viable (front ++ ⟨.symbol .leftParen, p⟩ :: rest))
      (last : (front ++ ⟨.symbol .leftParen, p⟩ :: rest).getLast? = some t)
      (ends : t.item.opensOperand = false) (innermost : Balanced rest) :
      HasMistake (front ++ ⟨.symbol .leftParen, p⟩ :: rest) (.unmatchedLeft p)

theorem Derivation.balanced {k : Nat} (d : Derivation k) : Balanced d.tokens where
  depth_eq := d.depth_tokens
  front_nonneg := by
    rintro xs ⟨ys, h⟩
    exact d.depth_front_nonneg h.symm

/-- No group inside balanced tokens is left open by balanced tokens behind it. -/
theorem Balanced.not_append {xs ys : List (Placed Token)} {p : Nat} (h : Balanced ys) :
    ¬ Balanced (xs ++ ⟨.symbol .leftParen, p⟩ :: ys) := by
  intro hall
  have hxs := hall.front_nonneg xs (List.prefix_append _ _)
  have hdepth := hall.depth_eq
  have hys := h.depth_eq
  simp only [depth_append, depth_cons, Token.depth_leftParen] at hdepth
  omega

/-- There is one innermost group that is not closed. -/
theorem Balanced.position_eq {front front' rest rest' : List (Placed Token)} {p p' : Nat}
    (h : Balanced rest) (h' : Balanced rest')
    (heq : front ++ ⟨.symbol .leftParen, p⟩ :: rest = front' ++ ⟨.symbol .leftParen, p'⟩ :: rest') :
    p = p' := by
  rcases List.append_eq_append_iff.mp heq with ⟨as, -, has⟩ | ⟨as, -, has⟩
  · rcases List.cons_eq_append_iff.mp has with ⟨-, hp⟩ | ⟨bs, -, rfl⟩
    · exact (by simpa using hp.symm : p = p' ∧ rest = rest').1
    · exact absurd h h'.not_append
  · rcases List.cons_eq_append_iff.mp has with ⟨-, hp⟩ | ⟨bs, -, rfl⟩
    · exact (by simpa using hp : p = p' ∧ rest = rest').1
    · exact absurd h' h.not_append

namespace Postfix

/-- All the ways in which a token is not accepted. -/
inductive Refuses : State → Placed Token → GrammarError → Prop
  | operand {waiting last} (o : Operand) (p : Nat) :
    Refuses ⟨waiting, false, last⟩ ⟨.operand o, p⟩ (.unexpectedOperand o p)
  | not {waiting last} (p : Nat) :
    Refuses ⟨waiting, false, last⟩ ⟨.symbol .not, p⟩ (.unexpectedSymbol .not p)
  | leftParen {waiting last} (p : Nat) :
    Refuses ⟨waiting, false, last⟩ ⟨.symbol .leftParen, p⟩ (.unexpectedSymbol .leftParen p)
  | binary {waiting last} (op : BinaryOp) (p : Nat) :
    Refuses ⟨waiting, true, last⟩ ⟨.symbol (.binary op), p⟩ (.missingOperand (.binary op) p)
  | early {waiting last} (p : Nat) :
    Refuses ⟨waiting, true, last⟩ ⟨.symbol .rightParen, p⟩ (emptyGroup last p)
  | unmatched {waiting last} (p : Nat) (h : closeGroup? waiting = none) :
    Refuses ⟨waiting, false, last⟩ ⟨.symbol .rightParen, p⟩ (.unmatchedRight p)

theorem step_eq_error_iff {s : State} {t : Placed Token} {e : GrammarError} :
    step s t = .error e ↔ Refuses s t e := by
  constructor
  · intro h
    obtain ⟨waiting, expecting, last⟩ := s
    obtain ⟨item, p⟩ := t
    rcases item with (op | _ | _ | _) | o
    · cases expecting with
      | true =>
        cases h
        exact .binary op p
      | false => cases h
    · cases expecting with
      | true => cases h
      | false =>
        cases h
        exact .not p
    · cases expecting with
      | true => cases h
      | false =>
        cases h
        exact .leftParen p
    · cases expecting with
      | true =>
        cases h
        exact .early p
      | false =>
        cases hc : closeGroup? waiting with
        | some r => simp [step, hc] at h
        | none =>
          simp only [step, hc] at h
          cases h
          exact .unmatched p hc
    · cases expecting with
      | true => cases h
      | false =>
        cases h
        exact .operand o p
  · intro h
    cases h with
    | unmatched p hc => simp [step, hc]
    | _ => rfl

variable {s : State} {front ts : List (Placed Token)} {out : List (Placed Step)} {e : GrammarError}

/-- Behind a token, an operand is expected as the token says, and a symbol is remembered. -/
theorem Reads.last {t : Placed Token} (h : Reads start (front ++ [t]) out s) :
    s.expecting = t.item.opensOperand ∧
      ∀ x, t.item = .symbol x → s.lastSymbol = some ⟨x, t.position⟩ := by
  obtain ⟨_, next, _, -, htail, -⟩ := h.split
  cases htail with
  | cons head tail =>
    cases tail
    refine ⟨head.expecting, fun x hx => ?_⟩
    obtain ⟨item, p⟩ := t
    obtain rfl : item = .symbol x := hx
    exact head.lastSymbol

/-- The token in front tells the mistake of a `)`. -/
theorem mistake_rightParen_of_expecting (h : Reads start front out s) (he : s.expecting = true)
    (p : Nat) : mistake front.getLast? ⟨.symbol .rightParen, p⟩ = emptyGroup s.lastSymbol p := by
  rcases List.eq_nil_or_concat' front with rfl | ⟨xs, ⟨item, q⟩, rfl⟩
  · cases h
    rfl
  · obtain ⟨hexpecting, hlast⟩ := h.last
    rw [List.getLast?_append_of_ne_nil _ (by simp), List.getLast?_singleton]
    cases item with
    | operand o => simp [hexpecting, Token.opensOperand] at he
    | symbol x =>
      rw [hlast x rfl]
      cases x with
      | rightParen => simp [hexpecting, Token.opensOperand] at he
      | binary _ | not | leftParen => rfl

theorem mistake_rightParen_of_not_expecting (h : Reads start front out s)
    (he : s.expecting = false) (p : Nat) :
    mistake front.getLast? ⟨.symbol .rightParen, p⟩ = .unmatchedRight p := by
  rcases List.eq_nil_or_concat' front with rfl | ⟨xs, ⟨item, q⟩, rfl⟩
  · cases h
    cases he
  · obtain ⟨hexpecting, -⟩ := h.last
    rw [List.getLast?_append_of_ne_nil _ (by simp), List.getLast?_singleton]
    rw [he] at hexpecting
    cases item with
    | operand o => rfl
    | symbol x =>
      cases x with
      | rightParen => rfl
      | binary _ | not | leftParen => cases hexpecting

theorem eq_mistake_of_refuses {t : Placed Token} (h : Reads start front out s)
    (ht : Refuses s t e) : e = mistake front.getLast? t := by
  cases ht with
  | early p => exact (mistake_rightParen_of_expecting h rfl p).symm
  | unmatched p _ => exact (mistake_rightParen_of_not_expecting h rfl p).symm
  | operand _ _ | not _ | leftParen _ | binary _ _ => rfl

/-- What stands behind the innermost open group is a phrase, so no group in it is open. -/
theorem exists_unclosed {last : Option (Placed Symbol)} {waiting : List (Placed Waiting)}
    (h : Represents ⟨waiting, false, last⟩ ts out) (hd : drain waiting = .error e) :
    ∃ front p rest, ts = front ++ ⟨.symbol .leftParen, p⟩ :: rest ∧ Balanced rest ∧
      e = .unmatchedLeft p := by
  cases h with
  | closed _ ho d =>
    obtain ⟨front', out', phrase, ho', ht, -⟩ := ho.release d (Nat.zero_le _) (Nat.zero_le 4)
    have hroom := le_room_release waiting (Nat.le_refl 4)
    rw [drain_eq_release] at hd
    rcases hrel : release 4 waiting with ⟨steps, _ | ⟨⟨item, p⟩, left⟩⟩
    · simp [hrel] at hd
    · rw [hrel] at ho' hroom
      obtain rfl : e = .unmatchedLeft p := by simpa [hrel, eq_comm] using hd
      cases ho' with
      | not => exact absurd hroom (by simp [room])
      | binary op => exact absurd hroom (by cases op <;> simp [room, BinaryOp.tier])
      | @group front _ _ _ _ =>
        exact ⟨front, p, phrase.tokens, by simp [← ht], phrase.balanced, rfl⟩

/-- What is still open at the end of tokens. -/
theorem hasMistake_of_finish (h : Reads start ts out s) (hf : finish s = .error e) :
    HasMistake ts e := by
  rcases List.eq_nil_or_concat' ts with rfl | ⟨front, t, rfl⟩
  · cases h
    obtain rfl : e = .empty := by simpa [finish, start, eq_comm] using hf
    exact .empty
  · obtain ⟨hexpecting, hlast⟩ := h.last
    cases he : s.expecting with
    | true =>
      obtain ⟨x | o, p⟩ := t
      · obtain rfl : e = .missingOperand x p := by simpa [finish, he, hlast x rfl, eq_comm] using hf
        refine .unfinished h.viable ?_
        rintro rfl
        simp [hexpecting, Token.opensOperand] at he
      · simp [hexpecting, Token.opensOperand] at he
    | false =>
      obtain ⟨waiting, expecting, last⟩ := s
      obtain rfl : expecting = false := he
      have hstart : Represents start [] [] := .opened none .nil
      obtain ⟨front', p, rest, hts, hrest, rfl⟩ := exists_unclosed (hstart.reads h) hf
      have hviable := h.viable
      have hend : (front ++ [t]).getLast? = some t := List.getLast?_concat
      rw [List.nil_append] at hts
      rw [hts] at hviable hend ⊢
      exact .unclosed hviable hend hexpecting.symm hrest

end Postfix

open Postfix

theorem hasMistake_of_toPostfix {tokens : List (Placed Token)} {e : GrammarError}
    (h : toPostfix tokens = .error e) : HasMistake tokens e := by
  obtain ⟨front, t, rest, _, _, rfl, hreads, ht⟩ | ⟨_, _, hreads, hf⟩ := run_eq_error_iff.mp h
  · rw [eq_mistake_of_refuses hreads (step_eq_error_iff.mp ht)]
    exact .misplaced rest (fun xs hxs => hreads.viable.of_prefix hxs) (not_viable_of_step hreads ht)
  · exact hasMistake_of_finish hreads hf

theorem HasMistake.toPostfix_eq {tokens : List (Placed Token)} {e : GrammarError}
    (h : HasMistake tokens e) : toPostfix tokens = .error e := by
  cases h with
  | empty => rfl
  | @misplaced front t rest hviable hstuck =>
    obtain ⟨_, s, hreads⟩ := viable_iff_reads.mp (hviable front List.prefix_rfl)
    cases ht : step s t with
    | ok r =>
      have hnext := hreads.append (.cons (step_eq_ok_iff.mp ht) (.nil _))
      exact absurd hnext.viable hstuck
    | error e =>
      rw [← eq_mistake_of_refuses hreads (step_eq_error_iff.mp ht)]
      exact run_eq_error_iff.mpr (.inl ⟨front, t, rest, _, s, rfl, hreads, ht⟩)
  | @unfinished front x p hviable hx =>
    obtain ⟨_, s, hreads⟩ := viable_iff_reads.mp hviable
    obtain ⟨hexpecting, hlast⟩ := hreads.last
    refine run_eq_error_iff.mpr (.inr ⟨_, s, hreads, ?_⟩)
    simp [finish, hexpecting, Token.opensOperand, hx, hlast x rfl]
  | @unclosed front p rest t hviable hlast hends hinner =>
    cases hp : toPostfix (front ++ ⟨.symbol .leftParen, p⟩ :: rest) with
    | ok steps =>
      obtain ⟨d, hd, -⟩ := toPostfix_eq_ok_iff.mp hp
      exact absurd (hd ▸ d.balanced) hinner.not_append
    | error e =>
      have hmistake := hasMistake_of_toPostfix hp
      generalize heq : front ++ ⟨.symbol .leftParen, p⟩ :: rest = tokens at *
      cases hmistake with
      | empty => simp at heq
      | misplaced rest' _ hstuck =>
        exact absurd (hviable.of_prefix ⟨rest', by simp⟩) hstuck
      | unfinished _ hx =>
        obtain rfl := (by simpa using hlast : _ = t)
        simp [Token.opensOperand, hx] at hends
      | unclosed _ _ _ hinner' => rw [hinner.position_eq hinner' heq]

/-- Tokens without a postfix sequence have one mistake, and it is the one that is named: that of the
first token behind which nothing can make a sentence any more, or else what is open at the end. Once
nothing can complete the tokens read, no token behind them changes the outcome. -/
theorem toPostfix_names_first_mistake (tokens : List (Placed Token)) :
    (∀ e, toPostfix tokens = .error e ↔ HasMistake tokens e) ∧
      (¬ Viable tokens → ∀ rest, toPostfix (tokens ++ rest) = toPostfix tokens) := by
  refine ⟨fun e => ⟨hasMistake_of_toPostfix, HasMistake.toPostfix_eq⟩, fun hstuck rest => ?_⟩
  cases hp : toPostfix tokens with
  | ok steps =>
    obtain ⟨d, rfl, -⟩ := toPostfix_eq_ok_iff.mp hp
    exact absurd d.viable hstuck
  | error e =>
    obtain ⟨front, t, behind, out, s, rfl, hreads, ht⟩ | ⟨_, _, hreads, -⟩ :=
      run_eq_error_iff.mp hp
    · refine run_eq_error_iff.mpr (.inl ⟨front, t, behind ++ rest, out, s, ?_, hreads, ht⟩)
      simp
    · exact absurd hreads.viable hstuck

/-- Of `(A&&)B` the `&&` is named: nothing completes `(A&&)`, whether `B` follows or not. -/
theorem first_mistake_before_closing :
    let tokens : List (Placed Token) :=
      [⟨.symbol .leftParen, 0⟩, ⟨.operand (.property "A"), 1⟩, ⟨.symbol (.binary .and), 2⟩,
        ⟨.symbol .rightParen, 4⟩]
    HasMistake tokens (.missingOperand (.binary .and) 2) ∧ ¬ Viable tokens ∧
      toPostfix (tokens ++ [⟨.operand (.property "B"), 5⟩]) = toPostfix tokens := by
  intro tokens
  obtain ⟨hmistake, hrest⟩ := toPostfix_names_first_mistake tokens
  have hstuck : ¬ Viable tokens := by
    rintro ⟨rest, d, hd⟩
    have hok := toPostfix_eq_ok_iff.mpr ⟨d, hd, rfl⟩
    cases hok
  exact ⟨(hmistake _).mp rfl, hstuck, hrest hstuck _⟩

end FieldGuard
