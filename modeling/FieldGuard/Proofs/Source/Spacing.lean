import FieldGuard.Proofs.Source.Passage

/-! Blanks between tokens. Wherever only blanks stand between a place in a source and the next
token, or the end, more blanks may be put in: the same tokens are read, and those behind the place
are moved by the bytes put in. -/
namespace FieldGuard

/-- Moves what stands at a place or behind it. -/
def Placed.shiftFrom {α : Type} (place k : Nat) (x : Placed α) : Placed α :=
  if x.position < place then x else x.shift k

theorem Placed.map_shiftFrom {α : Type} {before after : List (Placed α)} {place k : Nat}
    (hbefore : ∀ x ∈ before, x.position < place) (hafter : ∀ x ∈ after, place ≤ x.position) :
    (before ++ after).map (·.shiftFrom place k) = before ++ after.map (·.shift k) := by
  rw [List.map_append]
  congr 1
  · exact (List.map_congr_left fun x hx => if_pos (hbefore x hx)).trans (List.map_id before)
  · exact List.map_congr_left fun x hx => if_neg (Nat.not_lt.mpr (hafter x hx))

def Blank (text : String) : Prop := ∀ c ∈ text.toList, isBlank c = true

instance (text : String) : Decidable (Blank text) :=
  List.decidableBAll (fun c => isBlank c = true) text.toList

/-- A place between the tokens of a source: what is between it and a token, or the end, is blank. -/
def Boundary (tokens : List (Placed Token)) (front back : String) : Prop :=
  ∃ gap behind, back = gap ++ behind ∧ Blank gap ∧
    (behind = "" ∨ ∃ t ∈ tokens, t.position = (front ++ gap).utf8ByteSize)

theorem boundary_ofList {tokens : List (Placed Token)} {front behind : List Char}
    (gap : List Char) (hgap : ∀ c ∈ gap, isBlank c = true)
    (hbehind : behind = [] ∨ ∃ t ∈ tokens, t.position = byteLength (front ++ gap)) :
    Boundary tokens (.ofList front) (.ofList (gap ++ behind)) := by
  refine ⟨.ofList gap, .ofList behind, String.ofList_append, ?_, ?_⟩
  · rwa [Blank, String.toList_ofList]
  · rw [← String.ofList_append, ← byteLength_ofList]
    exact hbehind.imp_left fun h => by rw [h, String.ofList_nil]

/-- Blanks that stand where a text with another character in it stands too end within it. -/
theorem byteLength_lt_of_blanks {gap behind text rest : List Char} {c : Char}
    (hgap : ∀ c ∈ gap, isBlank c = true) (hc : c ∈ text) (hblank : isBlank c = false)
    (h : gap ++ behind = text ++ rest) : behind ≠ [] ∧ byteLength gap < byteLength text := by
  obtain ⟨more, rfl, rfl⟩ | ⟨more, rfl, -⟩ := List.append_eq_append_iff.mp h
  · cases more with
    | nil =>
      rw [List.append_nil] at hc
      exact absurd rfl (ne_of_isBlank (hgap c hc) hblank)
    | cons d more =>
      have hd := d.utf8Size_pos
      refine ⟨by simp, ?_⟩
      rw [byteLength_append, byteLength_cons]
      omega
  · exact absurd rfl (ne_of_isBlank (hgap c (List.mem_append_left _ hc)) hblank)

namespace Lexeme
namespace Passes

variable {r s : Reader} {tokens : List (Placed Token)}

/-- Between two tokens only blanks are left out. -/
theorem exists_gap (h : Passes r tokens s) (hs : s.rest = []) :
    ∃ gap behind, r.rest = gap ++ behind ∧ (∀ c ∈ gap, isBlank c = true) ∧
      (behind = [] ∨ ∃ t ∈ tokens, t.position = r.position + byteLength gap) := by
  cases tokens with
  | nil =>
    obtain ⟨gap, hrest, hgap⟩ := h.exists_blanks
    exact ⟨gap, [], hs ▸ hrest, hgap, .inl rfl⟩
  | cons t tokens =>
    obtain ⟨gap, c, lexeme, rest, hrest, hgap, hpos, -, -⟩ := h.exists_token
    exact ⟨gap, _, hrest, hgap, .inr ⟨t, List.mem_cons_self, hpos⟩⟩

/-- Each token takes its lexeme, and only blanks stand between it and the next token, or the end. -/
theorem exists_lexeme {xs ys : List (Placed Token)} {t : Placed Token}
    (h : Passes r (xs ++ t :: ys) s) (hs : s.rest = []) :
    ∃ front lexeme gap behind, r.rest = front ++ (lexeme ++ (gap ++ behind)) ∧ lexeme ≠ [] ∧
      t.position = r.position + byteLength front ∧ (∀ c ∈ gap, isBlank c = true) ∧
      (behind = [] ∨ ∃ u ∈ ys, u.position = r.position + byteLength (front ++ lexeme ++ gap)) ∧
      (∀ u ∈ xs, u.position < t.position) ∧
      ∀ u ∈ ys, r.position + byteLength (front ++ lexeme) ≤ u.position := by
  obtain ⟨u, hbefore, hbehind⟩ := h.split
  obtain ⟨front, hfront, hu⟩ := hbefore.suffix
  obtain ⟨gap, c, lexeme, back, hrest, -, hpos, -, hafter⟩ := hbehind.exists_token
  obtain ⟨gap', behind, rfl, hgap', hplace⟩ := hafter.exists_gap hs
  have hposition : t.position = r.position + byteLength (front ++ gap) := by
    rw [hpos, hu, byteLength_append, Nat.add_assoc]
  refine ⟨front ++ gap, c :: lexeme, gap', behind, ?_, by simp, hposition, hgap', ?_, ?_, ?_⟩
  · rw [hfront, hrest]
    simp
  · rwa [byteLength_append, byteLength_append, ← Nat.add_assoc, ← Nat.add_assoc, ← hposition]
  · intro v hv
    have hlt := hbefore.position_lt v hv
    omega
  · rw [byteLength_append, ← Nat.add_assoc, ← hposition]
    exact hafter.position_le

/-- A place from which only blanks lead to a token, or to the end, is not inside a token. -/
theorem behind_lexeme {expecting : Bool} {c : Char} {lexeme cs front gap behind : List Char}
    {t : Token} {p : Nat} (hnext : next expecting c (lexeme ++ cs) = .ok (t, lexeme.length))
    (h : Passes ⟨t.opensOperand, p + byteLength (c :: lexeme), cs⟩ tokens s)
    (hcs : lexeme ++ cs = front ++ (gap ++ behind)) (hgap : ∀ c ∈ gap, isBlank c = true)
    (hbehind : behind = [] ∨ ∃ u ∈ (⟨t, p⟩ : Placed Token) :: tokens,
      u.position = p + byteLength (c :: front ++ gap)) :
    ∃ front', front = lexeme ++ front' ∧ cs = front' ++ (gap ++ behind) := by
  obtain ⟨front', hfront, hrest⟩ | ⟨inner, rfl, hrest⟩ := List.append_eq_append_iff.mp hcs
  · exact ⟨front', hfront, hrest⟩
  · cases inner with
    | nil => exact ⟨[], by simp, by simp [hrest]⟩
    | cons d ds =>
      -- The rest of the token ends in a character that is no blank, so the blanks end before it.
      have hlast : (c :: (front ++ d :: ds)).getLast? = some ((d :: ds).getLast (by simp)) := by
        rw [← List.cons_append, List.getLast?_append, List.getLast?_eq_some_getLast (by simp)]
        rfl
      have hblank := (next_eq_ok_iff.mp hnext).isBlank_eq_false hlast
      obtain ⟨hne, hlt⟩ := byteLength_lt_of_blanks hgap (List.getLast_mem _) hblank hrest
      obtain hnil | ⟨u, hu, hpos⟩ := hbehind
      · exact absurd hnil hne
      · have hc := c.utf8Size_pos
        rw [byteLength_append, byteLength_cons] at hpos
        obtain rfl | hu := List.mem_cons.mp hu
        · dsimp only at hpos
          omega
        · have hle := h.position_le u hu
          dsimp only at hle
          rw [byteLength_cons, byteLength_append] at hle
          omega

/-- Reading comes to stand at every place from which only blanks lead to a token, or to the end. -/
theorem stop {front gap behind : List Char} (h : Passes r tokens s) (hs : s.rest = [])
    (hr : r.rest = front ++ (gap ++ behind)) (hgap : ∀ c ∈ gap, isBlank c = true)
    (hbehind : behind = [] ∨ ∃ t ∈ tokens, t.position = r.position + byteLength (front ++ gap)) :
    ∃ before after u, tokens = before ++ after ∧ Passes r before u ∧ Passes u after s ∧
      u.position = r.position + byteLength front ∧ u.rest = gap ++ behind := by
  induction h generalizing front with
  | stay r =>
    rw [hs] at hr
    obtain ⟨rfl, hback⟩ := List.append_eq_nil_iff.mp hr.symm
    exact ⟨[], [], r, rfl, .stay r, .stay r, rfl, hs.trans hback.symm⟩
  | @blank e p c cs tokens s hc h ih =>
    cases front with
    | nil => exact ⟨[], tokens, _, rfl, .stay _, .blank hc h, rfl, hr⟩
    | cons d front =>
      obtain ⟨rfl, hcs⟩ := List.cons.inj hr
      dsimp only at hbehind
      rw [List.cons_append, byteLength_cons, ← Nat.add_assoc] at hbehind
      obtain ⟨before, after, u, heq, hbefore, hafter, hpos, hrest⟩ := ih hs hcs hbehind
      refine ⟨before, after, u, heq, .blank hc hbefore, hafter, ?_, hrest⟩
      rw [hpos, byteLength_cons, Nat.add_assoc]
  | @token e p c lexeme cs t tokens s hc hnext h ih =>
    cases front with
    | nil => exact ⟨[], _, _, rfl, .stay _, .token hc hnext h, rfl, hr⟩
    | cons d front =>
      obtain ⟨rfl, hcs⟩ := List.cons.inj hr
      obtain ⟨front, rfl, rfl⟩ := h.behind_lexeme hnext hcs hgap hbehind
      have hbehind' : behind = [] ∨ ∃ u ∈ tokens,
          u.position = p + byteLength (c :: lexeme) + byteLength (front ++ gap) := by
        refine hbehind.imp_right fun ⟨u, hu, hpos⟩ => ?_
        simp only [byteLength_append, byteLength_cons] at hpos ⊢
        obtain rfl | hu := List.mem_cons.mp hu
        · have hc := c.utf8Size_pos
          dsimp only at hpos
          omega
        · exact ⟨u, hu, by omega⟩
      obtain ⟨before, after, u, rfl, hbefore, hafter, hpos, hrest⟩ := ih hs rfl hbehind'
      refine ⟨⟨t, p⟩ :: before, after, u, rfl, .token hc hnext hbefore, hafter, ?_, hrest⟩
      simp only [hpos, byteLength_cons, byteLength_append, Nat.add_assoc]

/-- Blanks put in where reading stands move what is read behind them. -/
theorem insert {u : Reader} {before after : List (Placed Token)} {front blanks : List Char}
    (hbefore : Passes r before u) (hafter : Passes u after s) (hr : r.rest = front ++ u.rest)
    (hblanks : ∀ c ∈ blanks, isBlank c = true) :
    Passes { r with rest := front ++ (blanks ++ u.rest) }
      (before ++ after.map (·.shift (byteLength blanks)))
      { s with position := s.position + byteLength blanks } := by
  have hfront : Passes { r with rest := front ++ (blanks ++ u.rest) } before
      { u with rest := blanks ++ u.rest } := by
    cases blanks with
    | nil =>
      rw [List.nil_append, ← hr]
      exact hbefore
    | cons c cs =>
      exact hbefore.exchange hr (.blank (hblanks c List.mem_cons_self) (cs ++ u.rest))
  have hskip : Passes { u with rest := blanks ++ u.rest } []
      { u with position := u.position + byteLength blanks } :=
    skip hblanks u.expecting u.position u.rest
  have hmoved := hskip.append (hafter.shift (byteLength blanks))
  exact hfront.append hmoved

end Passes
end Lexeme

/-- Each token takes its lexeme off the source, with a boundary in front of it and one behind it. At
every boundary any blanks may be put in: the source is read as the same tokens, and those behind the
boundary are moved by the bytes put in. -/
theorem tokenize_insert_blanks {source : String} {tokens : List (Placed Token)}
    (h : tokenize source = .ok tokens) :
    (∀ t ∈ tokens, ∃ front lexeme back, source = front ++ lexeme ++ back ∧ lexeme ≠ "" ∧
      front.utf8ByteSize = t.position ∧ Boundary tokens front (lexeme ++ back) ∧
      Boundary tokens (front ++ lexeme) back ∧
      ∀ u ∈ tokens, u.position ≤ t.position ∨ (front ++ lexeme).utf8ByteSize ≤ u.position) ∧
    ∀ front back blanks, source = front ++ back → Boundary tokens front back → Blank blanks →
      tokenize (front ++ blanks ++ back) =
        .ok (tokens.map (·.shiftFrom front.utf8ByteSize blanks.utf8ByteSize)) := by
  obtain ⟨s, hpasses, hs⟩ := Lexeme.tokenize_eq_ok_iff.mp h
  constructor
  · intro t ht
    obtain ⟨xs, ys, rfl⟩ := List.append_of_mem ht
    obtain ⟨front, lexeme, gap, behind, hsource, hne, hposition, hgap, hplace, hxs, hys⟩ :=
      hpasses.exists_lexeme hs
    rw [Lexeme.Reader.position_start, Nat.zero_add] at hposition hplace hys
    refine ⟨.ofList front, .ofList lexeme, .ofList (gap ++ behind), ?_, by simpa using hne, ?_, ?_,
      ?_, ?_⟩
    · rw [← String.ofList_append, ← String.ofList_append, List.append_assoc]
      exact String.ofList_toList.symm.trans (congrArg String.ofList hsource)
    · rw [hposition, byteLength_ofList]
    · rw [← String.ofList_append]
      refine boundary_ofList [] (by simp) (.inr ⟨t, ht, ?_⟩)
      rw [hposition, List.append_nil]
    · rw [← String.ofList_append]
      refine boundary_ofList gap hgap (hplace.imp_right fun ⟨v, hv, hvpos⟩ => ⟨v, ?_, hvpos⟩)
      exact List.mem_append_right _ (List.mem_cons_of_mem _ hv)
    · rw [← String.ofList_append, ← byteLength_ofList]
      intro v hv
      obtain hv | hv := List.mem_append.mp hv
      · exact .inl (Nat.le_of_lt (hxs v hv))
      · obtain rfl | hv := List.mem_cons.mp hv
        · exact .inl (Nat.le_refl _)
        · exact .inr (hys v hv)
  · intro front back blanks hsource hboundary hblanks
    obtain ⟨gap, behind, rfl, hgap, hbehind⟩ := hboundary
    have hchars : source.toList = front.toList ++ (gap.toList ++ behind.toList) := by
      rw [hsource, String.toList_append, String.toList_append]
    have hplace : behind.toList = [] ∨ ∃ t ∈ tokens,
        t.position = 0 + byteLength (front.toList ++ gap.toList) := by
      rw [Nat.zero_add, ← String.toList_append, byteLength_toList]
      exact hbehind.imp_left fun h => by rw [h]; rfl
    obtain ⟨before, after, u, rfl, hbefore, hafter, hpos, hrest⟩ :=
      hpasses.stop hs hchars hgap hplace
    have hposition : u.position = front.utf8ByteSize := by
      rw [hpos, byteLength_toList, Lexeme.Reader.position_start, Nat.zero_add]
    have hinsert := hbefore.insert hafter (hrest ▸ hchars) hblanks
    rw [byteLength_toList, hrest] at hinsert
    rw [← hposition, Placed.map_shiftFrom hbefore.position_lt hafter.position_le]
    refine Lexeme.tokenize_eq_ok_iff.mpr
      ⟨{ s with position := s.position + blanks.utf8ByteSize }, ?_, hs⟩
    have hstart : Lexeme.Reader.start (front ++ blanks ++ (gap ++ behind)) =
        { Lexeme.Reader.start source with
          rest := front.toList ++ (blanks.toList ++ (gap.toList ++ behind.toList)) } := by
      simp [Lexeme.Reader.start]
    rw [hstart]
    exact hinsert

/-- A wide blank goes between a numeral and a name that touch, at either end of the source. -/
theorem tokenize_insert_blanks_touching :
    tokenize "5.x<=1e" = .ok
      [⟨.operand (.number (Binary64.ofDecimal false 5 0)), 0⟩, ⟨.operand (.property ".x"), 1⟩,
        ⟨.symbol (.binary .lessEqual), 3⟩,
        ⟨.operand (.number (Binary64.ofDecimal false 1 0)), 5⟩, ⟨.operand (.property "e"), 6⟩] ∧
    tokenize "5\u2003.x<=1e" = .ok
      [⟨.operand (.number (Binary64.ofDecimal false 5 0)), 0⟩, ⟨.operand (.property ".x"), 4⟩,
        ⟨.symbol (.binary .lessEqual), 6⟩,
        ⟨.operand (.number (Binary64.ofDecimal false 1 0)), 8⟩, ⟨.operand (.property "e"), 9⟩] ∧
    tokenize "5.x<=1\u2003e" = .ok
      [⟨.operand (.number (Binary64.ofDecimal false 5 0)), 0⟩, ⟨.operand (.property ".x"), 1⟩,
        ⟨.symbol (.binary .lessEqual), 3⟩,
        ⟨.operand (.number (Binary64.ofDecimal false 1 0)), 5⟩, ⟨.operand (.property "e"), 9⟩] := by
  have h : tokenize "5.x<=1e" = .ok
      [⟨.operand (.number (Binary64.ofDecimal false 5 0)), 0⟩, ⟨.operand (.property ".x"), 1⟩,
        ⟨.symbol (.binary .lessEqual), 3⟩,
        ⟨.operand (.number (Binary64.ofDecimal false 1 0)), 5⟩, ⟨.operand (.property "e"), 6⟩] := by
    refine Lexeme.tokenize_eq_ok_iff.mpr ⟨⟨false, 7, []⟩, ?_, rfl⟩
    exact @Lexeme.Passes.token true 0 '5' [] ['.', 'x', '<', '=', '1', 'e'] _ _ _ rfl rfl <|
      @Lexeme.Passes.token false 1 '.' ['x'] ['<', '=', '1', 'e'] _ _ _ rfl rfl <|
      @Lexeme.Passes.token false 3 '<' ['='] ['1', 'e'] _ _ _ rfl rfl <|
      @Lexeme.Passes.token true 5 '1' [] ['e'] _ _ _ rfl rfl <|
      @Lexeme.Passes.token false 6 'e' [] [] _ _ _ rfl rfl <| .stay _
  obtain ⟨-, hinsert⟩ := tokenize_insert_blanks h
  have hblank : Blank "\u2003" := by decide
  have hempty : Blank "" := by decide
  refine ⟨h, hinsert "5" ".x<=1e" "\u2003" rfl ?_ hblank,
    hinsert "5.x<=1" "e" "\u2003" rfl ?_ hblank⟩
  · exact ⟨"", ".x<=1e", rfl, hempty, .inr ⟨⟨.operand (.property ".x"), 1⟩, by simp, rfl⟩⟩
  · exact ⟨"", "e", rfl, hempty, .inr ⟨⟨.operand (.property "e"), 6⟩, by simp, rfl⟩⟩

end FieldGuard
