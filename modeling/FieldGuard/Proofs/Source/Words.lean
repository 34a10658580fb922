import FieldGuard.Proofs.Source.Passage

/-! Sources written as words with one blank between them. A word is a symbol or an operand; each is
read as its token, if operands stand only where they are expected. -/
namespace FieldGuard

/-- An operand as it is written. -/
inductive Leaf where
  | bool (value : Bool)
  | null
  | number (spelling : Numeral.Spelling)
  | property (quote : Name.Quote) (name : Name.Plain)
  | enum (quote : Name.Quote) (type member : Name.Part)

namespace Leaf

def operand : Leaf → Operand
  | .bool b => .bool b
  | .null => .null
  | .number n => .number n.value
  | .property _ name => .property name.text
  | .enum _ type member => .enum type.text member.text

def chars : Leaf → List Char
  | .bool true => ['t', 'r', 'u', 'e']
  | .bool false => ['f', 'a', 'l', 's', 'e']
  | .null => ['n', 'u', 'l', 'l', 'p', 't', 'r']
  | .number n => n.chars
  | .property q name => Name.quoted q name.text.toList
  | .enum q type member =>
    Name.quoted q (type.text.toList ++ ':' :: ':' :: member.text.toList)

end Leaf

/-- A token as it is written. -/
inductive Word where
  | symbol (s : Symbol)
  | leaf (l : Leaf)

namespace Word

def token : Word → Token
  | .symbol s => .symbol s
  | .leaf l => .operand l.operand

def chars : Word → List Char
  | .symbol s => s.text.toList
  | .leaf l => l.chars

def text (w : Word) : String := String.ofList w.chars

end Word

/-- In front of a text apart a symbol is read as it is written, and is no sign of a numeral. -/
theorem Symbol.exists_chars {rest : List Char} (s : Symbol) (h : Apart rest) :
    ∃ c cs, s.text.toList = c :: cs ∧ read? c (cs ++ rest) = some (s, cs.length) ∧
      Numeral.signedLength (c :: (cs ++ rest)) = 0 := by
  have single {c : Char} (htext : s.text.toList = [c]) (hread : read? c [] = some (s, 0)) :
      ∃ c cs, s.text.toList = c :: cs ∧ read? c (cs ++ rest) = some (s, cs.length) ∧
        Numeral.signedLength (c :: (cs ++ rest)) = 0 :=
    ⟨c, [], htext, (read?_settled h hread).trans hread, Numeral.signedLength_cons_of_apart c h⟩
  cases s with
  | binary op => cases op <;> first | exact single rfl rfl | exact ⟨_, [_], rfl, rfl, rfl⟩
  | not => exact single rfl rfl
  | leftParen => exact single rfl rfl
  | rightParen => exact single rfl rfl

namespace Lexeme

variable {expecting : Bool} {rest : List Char}

/-- A word is read whole: its first character is no blank, and the token takes the others. -/
def Reads (expecting : Bool) (w : Word) (rest : List Char) : Prop :=
  ∃ c cs, w.chars = c :: cs ∧ isBlank c = false ∧
    next expecting c (cs ++ rest) = .ok (w.token, cs.length)

theorem reads_symbol (expecting : Bool) (s : Symbol) (h : Apart rest) :
    Reads expecting (.symbol s) rest := by
  obtain ⟨c, cs, hchars, hread, hsign⟩ := s.exists_chars h
  have hfront : Front expecting rest (c :: cs) (.symbol s) := .symbol s (fun _ => hsign) hread
  rw [← hchars] at hfront
  exact hfront.next_eq

theorem reads_bool (b : Bool) (h : Apart rest) : Reads true (.leaf (.bool b)) rest := by
  have hends := Name.ends_of_apart h
  cases b with
  | true => exact (Front.word (by decide) rfl rfl rfl hends).next_eq
  | false => exact (Front.word (by decide) rfl rfl rfl hends).next_eq

theorem reads_null (h : Apart rest) : Reads true (.leaf .null) rest :=
  (Front.word (by decide) rfl rfl rfl (Name.ends_of_apart h)).next_eq

theorem reads_number (n : Numeral.Spelling) (h : Apart rest) :
    Reads true (.leaf (.number n)) rest := by
  cases hs : n.sign with
  | none =>
    have hchars : n.chars = n.body := Numeral.Spelling.chars_of_sign hs
    have hlength := n.unsignedLength_body h
    rw [← hchars] at hlength
    exact (Front.unsigned n hs hlength).next_eq
  | some s =>
    have hsign : n.sign ≠ none := hs ▸ Option.some_ne_none s
    have hlength := n.signedLength_chars h
    rw [if_neg hsign] at hlength
    exact (Front.signed n rfl hsign hlength).next_eq

/-- Between quotes a name is read as it is. -/
theorem reads_quoted {l : Leaf} {q : Name.Quote} {name : List Char}
    (hl : l.chars = Name.quoted q name) (ho : Name.toOperand name = .ok l.operand) :
    Reads true (.leaf l) rest := by
  have hraw := Name.quotedLength?_escape q name []
  have hoperand : Name.toOperand (Name.unescape (Name.escape q name)) = .ok l.operand := by
    rw [Name.unescape_escape, ho]
  have hfront : Front true rest (Name.quoted q name) (.operand l.operand) := .quoted q hraw hoperand
  rw [← hl] at hfront
  exact hfront.next_eq

theorem reads_leaf (l : Leaf) (h : Apart rest) : Reads true (.leaf l) rest := by
  cases l with
  | bool b => exact reads_bool b h
  | null => exact reads_null h
  | number n => exact reads_number n h
  | property q name => exact reads_quoted rfl (Name.toOperand_plain name)
  | enum q type member => exact reads_quoted rfl (Name.toOperand_parts type member)

/-- A word that is read leaves the text behind it, and whether an operand is expected there. -/
theorem run_word {w : Word} (h : Reads expecting w rest) (p : Nat) :
    run expecting p (w.chars ++ rest) =
      (run w.token.opensOperand (p + byteLength w.chars) rest).map (⟨w.token, p⟩ :: ·) := by
  obtain ⟨c, cs, hchars, hblank, hnext⟩ := h
  rw [hchars, List.cons_append, run_token hblank hnext]

end Lexeme

namespace Word

/-- Operands stand only where they are expected. -/
def Alternates (expecting : Bool) : List Word → Prop
  | [] => True
  | .symbol s :: ws => Alternates (s != .rightParen) ws
  | .leaf _ :: ws => expecting = true ∧ Alternates false ws

/-- The tokens of words from a byte on, with one byte between them. -/
def place : Nat → List Word → List (Placed Token)
  | _, [] => []
  | p, w :: ws => ⟨w.token, p⟩ :: place (p + byteLength w.chars + 1) ws

theorem items_place (p : Nat) (ws : List Word) : (place p ws).map (·.item) = ws.map token := by
  induction ws generalizing p with
  | nil => rfl
  | cons w ws ih => rw [place, List.map_cons, List.map_cons, ih]

/-- Words with one blank between them. -/
def source (ws : List Word) : String := " ".intercalate (ws.map text)

/-- Words with a blank before each. -/
def behind (ws : List Word) : List Char := ws.flatMap fun w => ' ' :: w.chars

theorem toList_source_cons (w : Word) (ws : List Word) :
    (source (w :: ws)).toList = w.chars ++ behind ws := by
  induction ws generalizing w with
  | nil => simp [source, behind, text]
  | cons v ws ih =>
    have hsplit : source (w :: v :: ws) = w.text ++ " " ++ source (v :: ws) :=
      String.intercalate_cons_cons
    rw [hsplit, String.toList_append, ih]
    simp [text, behind]

theorem apart_behind (ws : List Word) : Apart (behind ws) := by
  cases ws with
  | nil => exact .nil
  | cons w ws => exact .blank rfl _

variable {expecting : Bool}

/-- The first of some words is read where it stands, and the others are left. -/
theorem Alternates.reads {w : Word} {ws : List Word} (h : Alternates expecting (w :: ws)) :
    Lexeme.Reads expecting w (behind ws) ∧ Alternates w.token.opensOperand ws := by
  cases w with
  | symbol s => exact ⟨Lexeme.reads_symbol expecting s (apart_behind ws), h⟩
  | leaf l =>
    obtain ⟨rfl, h⟩ := h
    exact ⟨Lexeme.reads_leaf l (apart_behind ws), h⟩

theorem run_behind {ws : List Word} (h : Alternates expecting ws) (p : Nat) :
    Lexeme.run expecting p (behind ws) = .ok (place (p + 1) ws) := by
  induction ws generalizing expecting p with
  | nil => exact Lexeme.run_nil expecting p
  | cons w ws ih =>
    obtain ⟨hreads, hws⟩ := h.reads
    rw [behind, List.flatMap_cons, List.cons_append, Lexeme.run_blank rfl]
    have hword := Lexeme.run_word hreads (p + 1)
    rw [ih hws] at hword
    exact hword

/-- Words with one blank between them are read as their tokens. -/
theorem tokenize_source {ws : List Word} (h : Alternates true ws) :
    tokenize (source ws) = .ok (place 0 ws) := by
  unfold tokenize
  cases ws with
  | nil => exact Lexeme.run_nil true 0
  | cons w ws =>
    obtain ⟨hreads, hws⟩ := h.reads
    rw [toList_source_cons, Lexeme.run_word hreads, run_behind hws]
    rfl

end Word
end FieldGuard
