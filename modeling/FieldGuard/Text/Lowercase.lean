import FieldGuard.Text.CaseTable
import FieldGuard.Text.Classes

/-! The lower-case form of a text. -/
namespace FieldGuard
namespace Lowercase

def isCased (c : Char) : Bool := inRanges CaseTable.casedRanges c.toNat

def isIgnorable (c : Char) : Bool := inRanges CaseTable.ignorableRanges c.toNat

/-- The lower-case form of a character that has one of one character, else the character itself. -/
def ofChar (c : Char) : Char :=
  if c.toNat < 0x80 then c.toLower
  else
    match CaseTable.lowercaseRuns.find? fun (first, last, stride, _) =>
      first ≤ c.toNat && c.toNat ≤ last && (c.toNat - first) % stride == 0 with
    | some (_, _, _, distance) => Char.ofNat (c.toNat + distance).toNat
    | none => c

/-- Whether a character with case comes first in a text when ignorable characters are passed over.
-/
def startsCased (cs : List Char) : Bool :=
  match cs.dropWhile isIgnorable with
  | c :: _ => isCased c
  | [] => false

/-- The lower-case form of a text behind the characters `before`, nearest first. A capital sigma at
the end of a word has the final form, and a capital I with dot becomes two characters. -/
def ofChars (before : List Char) : List Char → List Char
  | [] => []
  | c :: rest =>
    let lower :=
      if c = 'Σ' then
        if startsCased before && !startsCased rest then ['ς'] else ['σ']
      else if c = 'İ' then ['i', '\u0307']
      else [ofChar c]
    lower ++ ofChars (c :: before) rest

end Lowercase

/-- The lower-case form of a text. -/
def lowercase (s : String) : String :=
  String.ofList (Lowercase.ofChars [] s.toList)

example : lowercase "ΑΣ Σ" = "ας σ" := by decide +kernel
example : lowercase "STRAßE Ķ" = "straße ķ" := by decide +kernel

end FieldGuard
