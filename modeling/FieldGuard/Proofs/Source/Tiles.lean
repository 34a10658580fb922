import FieldGuard.Proofs.Source.Spacing

/-! Tokens tile their source. Blanks and lexemes follow one another from its first byte to its last.
Each token stands where its lexeme starts, and a lexeme by itself is read as its token. -/
namespace FieldGuard

/-- A lexeme with what is left out in front of it, and its token. -/
structure Tile where
  gap : String
  lexeme : String
  token : Token

namespace Tile

/-- The text that a tile covers. -/
def text (t : Tile) : String := t.gap ++ t.lexeme

/-- The text that tiles cover, one behind the other. -/
def source (tiles : List Tile) : String := String.join (tiles.map text)

/-- The tokens of tiles laid from a byte on, each where its lexeme starts. -/
def place : Nat → List Tile → List (Placed Token)
  | _, [] => []
  | p, t :: ts => ⟨t.token, p + t.gap.utf8ByteSize⟩ :: place (p + t.text.utf8ByteSize) ts

/-- Only blanks are left out, and the lexeme by itself is the token. -/
structure Fits (t : Tile) : Prop where
  blank : Blank t.gap
  nonempty : t.lexeme ≠ ""
  alone : tokenize t.lexeme = .ok [⟨t.token, 0⟩]

@[simp] theorem source_nil : source [] = "" := rfl

@[simp] theorem source_cons (t : Tile) (ts : List Tile) :
    source (t :: ts) = t.text ++ source ts := by
  rw [← String.toList_inj]
  simp [source]

@[simp] theorem utf8ByteSize_text (t : Tile) :
    t.text.utf8ByteSize = t.gap.utf8ByteSize + t.lexeme.utf8ByteSize :=
  String.utf8ByteSize_append

variable {tiles : List Tile}

theorem le_position_of_mem_place {p : Nat} :
    ∀ u ∈ place p tiles, p ≤ u.position := by
  induction tiles generalizing p with
  | nil => simp [place]
  | cons t ts ih =>
    refine List.forall_mem_cons.mpr ⟨Nat.le_add_right _ _, ?_⟩
    intro u hu
    have hle := ih u hu
    omega

/-- Tokens with something written for each stand one behind the other. -/
theorem pairwise_place (h : ∀ t ∈ tiles, t.lexeme ≠ "") (p : Nat) :
    (place p tiles).Pairwise fun u v => u.position < v.position := by
  induction tiles generalizing p with
  | nil => exact .nil
  | cons t ts ih =>
    obtain ⟨ht, hts⟩ := List.forall_mem_cons.mp h
    refine List.pairwise_cons.mpr ⟨?_, ih hts _⟩
    intro u hu
    have hle := le_position_of_mem_place u hu
    have hsize : t.lexeme.utf8ByteSize ≠ 0 := by rwa [ne_eq, String.utf8ByteSize_eq_zero_iff]
    rw [utf8ByteSize_text] at hle
    dsimp only
    omega

/-- Every token stands between two parts of the text that the tiles cover. -/
theorem exists_front_of_mem_place {p : Nat} {u : Placed Token} (h : u ∈ place p tiles) :
    ∃ front back, source tiles = front ++ back ∧ u.position = p + front.utf8ByteSize := by
  induction tiles generalizing p with
  | nil => cases h
  | cons t ts ih =>
    rw [source_cons]
    obtain rfl | hu := List.mem_cons.mp h
    · exact ⟨t.gap, t.lexeme ++ source ts, by rw [text, String.append_assoc], rfl⟩
    · obtain ⟨front, back, heq, hpos⟩ := ih hu
      refine ⟨t.text ++ front, back, by rw [heq, String.append_assoc], ?_⟩
      rw [hpos, String.utf8ByteSize_append, Nat.add_assoc]

end Tile

namespace Lexeme

variable {expecting : Bool} {lexeme rest : List Char} {t : Token}

/-- Behind blanks a lexeme is a tile. -/
theorem Front.fits (h : Front expecting rest lexeme t) {gap : List Char}
    (hgap : ∀ c ∈ gap, isBlank c = true) : Tile.Fits ⟨.ofList gap, .ofList lexeme, t⟩ where
  blank := by rwa [Blank, String.toList_ofList]
  nonempty := by
    obtain ⟨c, cs, rfl, -⟩ := h.next_eq
    simp
  alone := h.tokenize_eq

/-- What is read to the end is laid out in tiles, with blanks behind the last one. -/
theorem Passes.exists_tiles {r s : Reader} {tokens : List (Placed Token)} (h : Passes r tokens s)
    (hs : s.rest = []) :
    ∃ tiles tail, String.ofList r.rest = Tile.source tiles ++ tail ∧ Blank tail ∧
      tokens = Tile.place r.position tiles ∧ ∀ t ∈ tiles, t.Fits := by
  induction tokens generalizing r with
  | nil =>
    obtain ⟨gap, hrest, hgap⟩ := h.exists_blanks
    refine ⟨[], .ofList gap, ?_, ?_, rfl, by simp⟩
    · rw [hrest, hs, List.append_nil, Tile.source_nil, String.empty_append]
    · rwa [Blank, String.toList_ofList]
  | cons t tokens ih =>
    obtain ⟨gap, c, lexeme, rest, hrest, hgap, hpos, hnext, hafter⟩ := h.exists_token
    obtain ⟨tiles, tail, htext, htail, rfl, htiles⟩ := ih hafter
    have hfits := (next_eq_ok_iff.mp hnext).fits hgap
    refine ⟨⟨.ofList gap, .ofList (c :: lexeme), t.item⟩ :: tiles, tail, ?_, htail, ?_,
      List.forall_mem_cons.mpr ⟨hfits, htiles⟩⟩
    · rw [hrest, Tile.source_cons, Tile.text, String.append_assoc, String.append_assoc, ← htext,
        ← String.ofList_append, ← String.ofList_append, List.cons_append]
    · rw [Tile.place, Tile.utf8ByteSize_text, ← byteLength_ofList, ← byteLength_ofList,
        ← Nat.add_assoc, ← hpos]

end Lexeme

/-- The tokens of a source tile it. It is made of the lexemes of its tokens in their order, with
nothing but blanks in front of each and behind the last; every token stands at the byte at which its
lexeme starts, between two characters and behind the tokens before it, and every lexeme by itself is
read as its one token. -/
theorem tokens_tile_source {source : String} {tokens : List (Placed Token)}
    (h : tokenize source = .ok tokens) :
    ∃ tiles tail, source = Tile.source tiles ++ tail ∧ Blank tail ∧ tokens = Tile.place 0 tiles ∧
      (∀ t ∈ tiles, t.Fits) ∧ (tokens.Pairwise fun t u => t.position < u.position) ∧
      ∀ t ∈ tokens, String.Pos.Raw.IsValid source ⟨t.position⟩ := by
  obtain ⟨s, hpasses, hs⟩ := Lexeme.tokenize_eq_ok_iff.mp h
  obtain ⟨tiles, tail, hsource, htail, rfl, htiles⟩ := hpasses.exists_tiles hs
  have htext : source = Tile.source tiles ++ tail := String.ofList_toList.symm.trans hsource
  refine ⟨tiles, tail, htext, htail, rfl, htiles, ?_, ?_⟩
  · exact Tile.pairwise_place (fun t ht => (htiles t ht).nonempty) 0
  · intro t ht
    obtain ⟨front, back, hsplit, hpos⟩ := Tile.exists_front_of_mem_place ht
    refine String.Pos.Raw.isValid_iff_exists_append.mpr ⟨front, back ++ tail, ?_, ?_⟩
    · rw [htext, hsplit, String.append_assoc]
    · rw [hpos, Lexeme.Reader.position_start, Nat.zero_add]
      rfl

/-- A minus between operands and one that belongs to a numeral, behind a character of two bytes. -/
theorem tokens_tile_minus :
    let source := "é-5== -.5e"
    let tokens : List (Placed Token) :=
      [⟨.operand (.property "é"), 0⟩, ⟨.symbol (.binary .subtract), 2⟩,
        ⟨.operand (.number (Binary64.ofDecimal false 5 0)), 3⟩, ⟨.symbol (.binary .equal), 4⟩,
        ⟨.operand (.number (Binary64.ofDecimal true 5 (-1))), 7⟩, ⟨.operand (.property "e"), 10⟩]
    tokenize source = .ok tokens ∧
      ∃ tiles tail, source = Tile.source tiles ++ tail ∧ Blank tail ∧
        tokens = Tile.place 0 tiles ∧ (∀ t ∈ tiles, t.Fits) ∧
        (tokens.Pairwise fun t u => t.position < u.position) ∧
        ∀ t ∈ tokens, String.Pos.Raw.IsValid source ⟨t.position⟩ := by
  dsimp only
  refine (fun h => ⟨h, tokens_tile_source h⟩) ?_
  refine Lexeme.tokenize_eq_ok_iff.mpr ⟨⟨false, 11, []⟩, ?_, rfl⟩
  exact @Lexeme.Passes.token true 0 'é' [] ['-', '5', '=', '=', ' ', '-', '.', '5', 'e'] _ _ _
      rfl rfl <|
    @Lexeme.Passes.token false 2 '-' [] ['5', '=', '=', ' ', '-', '.', '5', 'e'] _ _ _ rfl rfl <|
    @Lexeme.Passes.token true 3 '5' [] ['=', '=', ' ', '-', '.', '5', 'e'] _ _ _ rfl rfl <|
    @Lexeme.Passes.token false 4 '=' ['='] [' ', '-', '.', '5', 'e'] _ _ _ rfl rfl <|
    .blank rfl <| @Lexeme.Passes.token true 7 '-' ['.', '5'] ['e'] _ _ _ rfl rfl <|
    @Lexeme.Passes.token false 10 'e' [] [] _ _ _ rfl rfl <| .stay _

end FieldGuard
