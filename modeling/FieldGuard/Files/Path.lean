import FieldGuard.Text.Pieces

/-! Paths as text: parts between slashes, the folder a path lies in, and the extension of a name. -/
namespace FieldGuard
namespace Path

/-- A text without the slashes and the parts `.` at its end; `.` alone and the root stay. -/
def trimEnd : List Char → List Char := fun path => (go path.reverse).reverse
where
  go : List Char → List Char
    | ['/'] => ['/']
    | '/' :: rest => go rest
    | '.' :: '/' :: rest => go ('/' :: rest)
    | rest => rest
  termination_by cs => cs.length

/-- The last part of a path. -/
def lastPart (path : String) : String :=
  String.ofList ((trimEnd path.toList).reverse.takeWhile (· ≠ '/')).reverse

/-- The path of the folder that a path lies in; the empty path and the root lie in none. -/
def parent? (path : String) : Option String :=
  match trimEnd path.toList with
  | [] => none
  | ['/'] => none
  | trimmed => some (String.ofList (trimEnd (trimmed.reverse.dropWhile (· ≠ '/')).reverse))

/-- The last part of a path behind its last point; a point at its start does not count. -/
def extension? (path : String) : Option String :=
  let name := (lastPart path).toList
  if name = ['.', '.'] then none
  else
    match name.reverse.dropWhile (· ≠ '.') with
    | _ :: _ :: _ => some (String.ofList (name.reverse.takeWhile (· ≠ '.')).reverse)
    | _ => none

/-- A name inside a folder. -/
def inside (folder name : String) : String :=
  if folder.toList.getLast? = some '/' then folder ++ name else folder ++ "/" ++ name

/-- The parts of a path from the current folder or the root on; empty parts say nothing. -/
def parts (path : String) : List String :=
  let named := pieces '/' path
  if path.toList.head? = some '/' then "/" :: named else named

/-- Whether the last part of a path is marked as a folder. -/
def endsInSlash (path : String) : Bool :=
  path.toList.getLast? = some '/'

/-- A path and the paths of the folders it lies in, innermost first; the current folder and the root
are left out. -/
def ancestors (path : String) : List String := go (path.length + 1) path
where
  go : Nat → String → List String
    | 0, _ => []
    | fuel + 1, path =>
      match parent? path with
      | none => []
      | some parent => path :: go fuel parent

end Path

example : Path.parent? "a/b.json" = some "a" ∧ Path.parent? "b" = some "" := by decide +kernel
example : Path.parent? "/b" = some "/" := by decide +kernel
example : Path.ancestors "a/./b/../c" = ["a/./b/../c", "a/./b/..", "a/./b", "a"] := by
  decide +kernel
example : Path.extension? "d.x/s.JSON5" = some "JSON5" := by decide +kernel
example : Path.extension? ".json5" = none := by decide +kernel

end FieldGuard
