import FieldGuard.Proofs.Source.Front

/-! Reading a source from one place between its tokens to another. A passage tells the tokens that
are read on the way. The text behind it may be exchanged for one that stands apart, and all of it
may be moved to another position. -/
namespace FieldGuard

/-- The same item some bytes further on. -/
def Placed.shift {α : Type} (k : Nat) (x : Placed α) : Placed α :=
  { x with position := x.position + k }

namespace Lexeme

/-- The state in which a source is read between two tokens. -/
structure Reader where
  expecting : Bool
  position : Nat
  rest : List Char

def Reader.start (source : String) : Reader where
  expecting := true
  position := 0
  rest := source.toList

@[simp] theorem Reader.position_start (source : String) : (Reader.start source).position = 0 := rfl

/-- One reader comes to stand where the other stands, with these tokens read on the way. -/
inductive Passes : Reader → List (Placed Token) → Reader → Prop
  | stay (r : Reader) : Passes r [] r
  | blank {expecting position c rest tokens r} (hc : isBlank c = true)
      (h : Passes ⟨expecting, position + c.utf8Size, rest⟩ tokens r) :
    Passes ⟨expecting, position, c :: rest⟩ tokens r
  | token {expecting position c lexeme rest t tokens r} (hc : isBlank c = false)
      (hnext : next expecting c (lexeme ++ rest) = .ok (t, lexeme.length))
      (h : Passes ⟨t.opensOperand, position + byteLength (c :: lexeme), rest⟩ tokens r) :
    Passes ⟨expecting, position, c :: (lexeme ++ rest)⟩ (⟨t, position⟩ :: tokens) r

theorem run_nil (expecting : Bool) (p : Nat) : run expecting p [] = .ok [] := by
  unfold run
  rfl

theorem run_error {expecting : Bool} {c : Char} {cs : List Char} {cause : TokenCause}
    (hc : isBlank c = false) (hnext : next expecting c cs = .error cause) (p : Nat) :
    run expecting p (c :: cs) = .error ⟨cause, p⟩ := by
  unfold run
  simp only [hc, hnext, Bool.false_eq_true, if_false]

theorem run_blank {c : Char} (hc : isBlank c = true) (expecting : Bool) (p : Nat)
    (cs : List Char) : run expecting p (c :: cs) = run expecting (p + c.utf8Size) cs := by
  conv => lhs; unfold run
  exact if_pos hc

/-- A token that is read leaves the text behind it, and whether an operand is expected there. -/
theorem run_token {expecting : Bool} {c : Char} {lexeme rest : List Char} {t : Token}
    (hc : isBlank c = false) (hnext : next expecting c (lexeme ++ rest) = .ok (t, lexeme.length))
    (p : Nat) :
    run expecting p (c :: (lexeme ++ rest)) =
      (run t.opensOperand (p + byteLength (c :: lexeme)) rest).map (⟨t, p⟩ :: ·) := by
  rw [byteLength_cons, ← Nat.add_assoc]
  -- Only on the left: what follows the token is a run too.
  conv => lhs; unfold run
  simp only [hc, hnext, Bool.false_eq_true, if_false, List.take_left, List.drop_left]

namespace Passes

variable {r s u : Reader} {xs ys tokens : List (Placed Token)}

theorem append (hx : Passes r xs s) (hy : Passes s ys u) : Passes r (xs ++ ys) u := by
  induction hx with
  | stay => exact hy
  | blank hc _ ih => exact .blank hc (ih hy)
  | token hc hnext _ ih => exact .token hc hnext (ih hy)

theorem skip {blanks : List Char} (h : ∀ c ∈ blanks, isBlank c = true) (expecting : Bool)
    (p : Nat) (rest : List Char) :
    Passes ⟨expecting, p, blanks ++ rest⟩ [] ⟨expecting, p + byteLength blanks, rest⟩ := by
  induction blanks generalizing p with
  | nil => exact .stay _
  | cons c cs ih =>
    obtain ⟨hc, hcs⟩ := List.forall_mem_cons.mp h
    have hrest := ih hcs (p + c.utf8Size)
    rw [Nat.add_assoc, ← byteLength_cons] at hrest
    exact .blank hc hrest

/-- What is read takes the front of the text, and the position says how much that is. -/
theorem suffix (h : Passes r tokens s) :
    ∃ front, r.rest = front ++ s.rest ∧ s.position = r.position + byteLength front := by
  induction h with
  | stay => exact ⟨[], rfl, rfl⟩
  | @blank e p c rest _ _ _ _ ih =>
    obtain ⟨front, hrest, hpos⟩ := ih
    dsimp only at hrest hpos
    exact ⟨c :: front, by rw [hrest]; rfl, by rw [hpos, byteLength_cons, Nat.add_assoc]⟩
  | @token e p c lexeme rest _ _ _ _ _ _ ih =>
    obtain ⟨front, hrest, hpos⟩ := ih
    dsimp only at hrest hpos
    refine ⟨c :: lexeme ++ front, by simp [hrest], ?_⟩
    rw [hpos, byteLength_append, Nat.add_assoc]

/-- No token is read before the place where reading starts. -/
theorem position_le (h : Passes r tokens s) : ∀ t ∈ tokens, r.position ≤ t.position := by
  induction h with
  | stay => simp
  | blank _ _ ih => exact fun t ht => Nat.le_trans (Nat.le_add_right _ _) (ih t ht)
  | token _ _ _ ih =>
    refine List.forall_mem_cons.mpr ⟨Nat.le_refl _, fun t ht => ?_⟩
    exact Nat.le_trans (Nat.le_add_right _ _) (ih t ht)

/-- Every token is read before the place where reading stops. -/
theorem position_lt (h : Passes r tokens s) : ∀ t ∈ tokens, t.position < s.position := by
  induction h with
  | stay => simp
  | blank _ _ ih => exact ih
  | @token _ p c _ _ _ _ _ _ _ h ih =>
    refine List.forall_mem_cons.mpr ⟨?_, ih⟩
    obtain ⟨front, -, hpos⟩ := h.suffix
    have hc := c.utf8Size_pos
    rw [hpos]
    dsimp only
    rw [byteLength_cons]
    omega

theorem shift (k : Nat) (h : Passes r tokens s) :
    Passes { r with position := r.position + k } (tokens.map (·.shift k))
      { s with position := s.position + k } := by
  induction h with
  | stay => exact .stay _
  | blank hc _ ih =>
    dsimp only at ih ⊢
    rw [Nat.add_right_comm] at ih
    exact .blank hc ih
  | token hc hnext _ ih =>
    dsimp only at ih ⊢
    rw [Nat.add_right_comm] at ih
    exact .token hc hnext ih

/-- A text apart takes the place of the text behind what is read. -/
theorem exchange {front rest : List Char} (h : Passes r tokens s) (hr : r.rest = front ++ s.rest)
    (hrest : Apart rest) :
    Passes { r with rest := front ++ rest } tokens { s with rest := rest } := by
  induction h generalizing front with
  | stay r =>
    obtain rfl := List.self_eq_append_left.mp hr
    exact .stay _
  | @blank e p c cs tokens s hc h ih =>
    obtain ⟨front', hcs, -⟩ := h.suffix
    dsimp only at hcs hr
    rw [hcs, ← List.cons_append] at hr
    obtain rfl := List.append_cancel_right hr
    exact .blank hc (ih hcs)
  | @token e p c lexeme cs t tokens s hc hnext h ih =>
    obtain ⟨front', hcs, -⟩ := h.suffix
    dsimp only at hcs hr
    rw [hcs, ← List.append_assoc, ← List.cons_append] at hr
    obtain rfl := List.append_cancel_right hr
    rw [hcs] at hnext
    have hsettled := next_eq_ok_iff.mpr ((next_eq_ok_iff.mp hnext).settled hrest)
    rw [List.cons_append, List.append_assoc]
    exact .token hc hsettled (ih hcs)

/-- A passage is what `run` reads first. -/
theorem run_eq (h : Passes r tokens s) :
    run r.expecting r.position r.rest =
      (run s.expecting s.position s.rest).map (tokens ++ ·) := by
  induction h with
  | stay => cases run _ _ _ <;> rfl
  | blank hc _ ih => rw [run_blank hc, ih]
  | token hc hnext _ ih =>
    rw [run_token hc hnext, ih]
    cases run _ _ _ <;> rfl

/-- What is read with no token is blank. -/
theorem exists_blanks (h : Passes r [] s) :
    ∃ gap, r.rest = gap ++ s.rest ∧ ∀ c ∈ gap, isBlank c = true := by
  generalize htokens : [] = tokens at h
  induction h with
  | stay => exact ⟨[], rfl, by simp⟩
  | @blank e p c rest tokens s hc _ ih =>
    obtain ⟨gap, hrest, hgap⟩ := ih htokens
    dsimp only at hrest
    exact ⟨c :: gap, by rw [hrest]; rfl, List.forall_mem_cons.mpr ⟨hc, hgap⟩⟩
  | token => cases htokens

/-- A token that is read stands behind blanks, and reading goes on behind it. -/
theorem exists_token {t : Placed Token} (h : Passes r (t :: tokens) s) :
    ∃ gap c lexeme rest, r.rest = gap ++ c :: (lexeme ++ rest) ∧
      (∀ c ∈ gap, isBlank c = true) ∧ t.position = r.position + byteLength gap ∧
      next r.expecting c (lexeme ++ rest) = .ok (t.item, lexeme.length) ∧
      Passes ⟨t.item.opensOperand, t.position + byteLength (c :: lexeme), rest⟩ tokens s := by
  generalize hall : t :: tokens = all at h
  induction h with
  | stay => cases hall
  | @blank e p c rest all s hc _ ih =>
    obtain ⟨gap, d, lexeme, rest', hrest, hgap, hpos, hnext, hpasses⟩ := ih hall
    dsimp only at hrest hpos
    refine ⟨c :: gap, d, lexeme, rest', by rw [hrest]; rfl,
      List.forall_mem_cons.mpr ⟨hc, hgap⟩, ?_, hnext, hpasses⟩
    rw [hpos, byteLength_cons, Nat.add_assoc]
  | @token e p c lexeme rest _ _ _ _ hnext h _ =>
    cases hall
    exact ⟨[], c, lexeme, rest, rfl, by simp, rfl, hnext, h⟩

/-- Every token that is read is one in front of some text. -/
theorem exists_front (h : Passes r tokens s) :
    ∀ t ∈ tokens, ∃ expecting lexeme rest, Front expecting rest lexeme t.item := by
  induction h with
  | stay => simp
  | blank _ _ ih => exact ih
  | token _ hnext _ ih =>
    exact List.forall_mem_cons.mpr ⟨⟨_, _, _, next_eq_ok_iff.mp hnext⟩, ih⟩

/-- There is a place between any two tokens. -/
theorem split (h : Passes r (xs ++ ys) s) : ∃ u, Passes r xs u ∧ Passes u ys s := by
  generalize hall : xs ++ ys = all at h
  induction h generalizing xs with
  | stay r =>
    obtain ⟨rfl, rfl⟩ := List.append_eq_nil_iff.mp hall
    exact ⟨r, .stay r, .stay r⟩
  | blank hc _ ih =>
    obtain ⟨u, hx, hy⟩ := ih hall
    exact ⟨u, .blank hc hx, hy⟩
  | @token e p c lexeme rest t all s hc hnext h ih =>
    cases xs with
    | nil =>
      subst hall
      exact ⟨_, .stay _, .token hc hnext h⟩
    | cons x xs =>
      cases hall
      obtain ⟨u, hx, hy⟩ := ih rfl
      exact ⟨u, .token hc hnext hx, hy⟩

end Passes

/-- A text that is read is passed to its end. -/
theorem passes_of_run {expecting : Bool} {p : Nat} {cs : List Char} {tokens : List (Placed Token)}
    (h : run expecting p cs = .ok tokens) :
    ∃ s, Passes ⟨expecting, p, cs⟩ tokens s ∧ s.rest = [] := by
  fun_induction run expecting p cs generalizing tokens with
  | case1 =>
    cases h
    exact ⟨_, .stay _, rfl⟩
  | case2 e p c cs hc ih =>
    obtain ⟨s, hpasses, hs⟩ := ih h
    exact ⟨s, .blank hc hpasses, hs⟩
  | case3 => cases h
  | case4 e p c cs hc t n hnext ih =>
    obtain ⟨lexeme, rest, rfl, rfl, -⟩ := takes_of_next hnext
    rw [List.take_left, List.drop_left, Nat.add_assoc, ← byteLength_cons] at h ih
    cases hrun : run t.opensOperand (p + byteLength (c :: lexeme)) rest with
    | error e =>
      rw [hrun] at h
      cases h
    | ok tokens' =>
      obtain ⟨s, hpasses, hs⟩ := ih hrun
      rw [hrun] at h
      cases h
      exact ⟨s, .token (Bool.eq_false_iff.mpr hc) hnext hpasses, hs⟩

/-- A text that cannot be read is passed to the place of the mistake. -/
theorem passes_of_run_error {expecting : Bool} {p : Nat} {cs : List Char} {e : TokenError}
    (h : run expecting p cs = .error e) :
    ∃ tokens s c rest, Passes ⟨expecting, p, cs⟩ tokens s ∧ s.position = e.position ∧
      s.rest = c :: rest ∧ isBlank c = false ∧ next s.expecting c rest = .error e.cause := by
  fun_induction run expecting p cs with
  | case1 => cases h
  | case2 expecting p c cs hc ih =>
    obtain ⟨tokens, s, d, rest, hpasses, hpos, hrest, hd, hnext⟩ := ih h
    exact ⟨tokens, s, d, rest, .blank hc hpasses, hpos, hrest, hd, hnext⟩
  | case3 expecting p c cs hc cause hnext =>
    cases h
    exact ⟨[], _, c, cs, .stay _, rfl, rfl, Bool.eq_false_iff.mpr hc, hnext⟩
  | case4 expecting p c cs hc t n hnext ih =>
    obtain ⟨lexeme, behind, rfl, rfl, -⟩ := takes_of_next hnext
    rw [List.take_left, List.drop_left, Nat.add_assoc, ← byteLength_cons] at h ih
    cases hrun : run t.opensOperand (p + byteLength (c :: lexeme)) behind with
    | ok tokens =>
      rw [hrun] at h
      cases h
    | error e' =>
      rw [hrun] at h
      cases h
      obtain ⟨tokens, s, d, rest, hpasses, hpos, hrest, hd, hfail⟩ := ih hrun
      exact ⟨⟨t, p⟩ :: tokens, s, d, rest, .token (Bool.eq_false_iff.mpr hc) hnext hpasses, hpos,
        hrest, hd, hfail⟩

/-- What is read behind a place does not depend on what was read in front of it. -/
theorem Passes.behind {r u : Reader} {xs ys : List (Placed Token)} (hx : Passes r xs u)
    (h : run r.expecting r.position r.rest = .ok (xs ++ ys)) :
    ∃ s, Passes u ys s ∧ s.rest = [] := by
  rw [hx.run_eq] at h
  cases hrun : run u.expecting u.position u.rest with
  | error e =>
    rw [hrun] at h
    cases h
  | ok tokens =>
    rw [hrun] at h
    obtain rfl := List.append_cancel_left (Except.ok.inj h)
    exact passes_of_run hrun

theorem tokenize_eq_ok_iff {source : String} {tokens : List (Placed Token)} :
    tokenize source = .ok tokens ↔ ∃ s, Passes (.start source) tokens s ∧ s.rest = [] := by
  constructor
  · exact passes_of_run
  · rintro ⟨s, h, hs⟩
    have hrun := h.run_eq
    rw [hs, run_nil] at hrun
    refine hrun.trans ?_
    rw [Except.map, List.append_nil]

/-- The front of a source, cut off where reading stands, has the tokens read so far. -/
theorem Passes.tokenize_front {source : String} {front : List Char} {s : Reader}
    {tokens : List (Placed Token)} (h : Passes (.start source) tokens s)
    (hfront : source.toList = front ++ s.rest) : tokenize (.ofList front) = .ok tokens := by
  have hcut := h.exchange hfront .nil
  rw [List.append_nil, ← String.toList_ofList (l := front)] at hcut
  exact tokenize_eq_ok_iff.mpr ⟨_, hcut, rfl⟩

/-- A lexeme by itself is read as its one token. -/
theorem Front.tokenize_eq {expecting : Bool} {rest lexeme : List Char} {t : Token}
    (h : Front expecting rest lexeme t) : tokenize (.ofList lexeme) = .ok [⟨t, 0⟩] := by
  obtain ⟨c, cs, rfl, hblank, hnext⟩ := h.alone.next_eq
  have hread : run true 0 (c :: (cs ++ [])) = .ok [⟨t, 0⟩] := by
    rw [run_token hblank hnext, run_nil]
    rfl
  rwa [List.append_nil, ← String.toList_ofList (l := c :: cs)] at hread

end Lexeme
end FieldGuard
