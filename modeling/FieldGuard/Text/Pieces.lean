/-! The pieces of a text between separators. -/
namespace FieldGuard

/-- The runs of characters before, between and behind the separators; there is one more than there
are separators. -/
def runsBetween (separator : Char) : List Char → List (List Char)
  | [] => [[]]
  | c :: cs =>
    match runsBetween separator cs with
    | [] => [[c]]
    | run :: runs => if c = separator then [] :: run :: runs else (c :: run) :: runs

/-- The pieces that are not empty. -/
def pieces (separator : Char) (text : String) : List String :=
  ((runsBetween separator text.toList).filter (· ≠ [])).map String.ofList

example : pieces ',' "a,,bc," = ["a", "bc"] := by decide +kernel

end FieldGuard
