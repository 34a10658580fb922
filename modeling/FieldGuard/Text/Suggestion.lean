import FieldGuard.Text.Lowercase

/-! Names that somebody may have meant: those within a small edit distance, closest first. -/
namespace FieldGuard

namespace EditDistance

/-- The entries of a row behind its first one. `left` is the entry before them, `diagonal` the one
above that, and the row above goes on with `ups`. -/
def rowBehind (c : Char) (left diagonal : Nat) : List Char → List Nat → List Nat
  | d :: ds, up :: ups =>
    let entry := min (min (up + 1) (left + 1)) (diagonal + if c = d then 0 else 1)
    entry :: rowBehind c entry up ds ups
  | _, _ => []

/-- The distances of one more character of the first text to each prefix of the second. -/
def nextRow (b : List Char) (row : List Nat) (c : Char) : List Nat :=
  match row with
  | first :: rest => (first + 1) :: rowBehind c (first + 1) first b rest
  | [] => []

end EditDistance

/-- The least number of characters to insert, delete or replace to turn one text into another. -/
def editDistance (a b : List Char) : Nat :=
  ((a.foldl (EditDistance.nextRow b) (List.range (b.length + 1))).getLast?).getD 0

/-- The distance of two names in lower case. -/
def nameDistance (a b : String) : Nat :=
  editDistance (lowercase a).toList (lowercase b).toList

/-- Closer names come first, equally close ones in the order of their bytes. -/
def closerName (query a b : String) : Bool :=
  let da := nameDistance query a
  let db := nameDistance query b
  da < db || (da == db && a ≤ b)

/-- The candidates other than the query itself within distance two of it. -/
def suggestions (query : String) (candidates : List String) : List String :=
  (candidates.filter fun c => nameDistance query c ≤ 2 && c ≠ query).mergeSort (closerName query)

@[simp] theorem mem_suggestions {query name : String} {candidates : List String} :
    name ∈ suggestions query candidates ↔
      name ∈ candidates ∧ nameDistance query name ≤ 2 ∧ name ≠ query := by
  simp [suggestions]

example : editDistance "kitten".toList "sitting".toList = 3 := by decide
example : nameDistance "Mod" "mode" = 1 := by decide +kernel

end FieldGuard
