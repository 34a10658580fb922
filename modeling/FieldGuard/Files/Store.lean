import FieldGuard.Files.Path
import FieldGuard.Files.Program

/-! File stores: folders and files by the parts of their paths, and what a program does to a store.
-/
namespace FieldGuard

structure FileStore where
  /-- The content of each file; of two entries for one path the first counts. -/
  files : List (List String × String)
  folders : List (List String)
  deriving DecidableEq, Repr

/-- What a path leads to. -/
inductive FileNode where
  | file (content : String)
  | folder
  deriving DecidableEq, Repr

namespace FileStore

variable {α β : Type}

/-- Folders that are there before anything is created: the current one, those above it and the root.
-/
def isGiven (place : List String) : Bool :=
  place == ["/"] || place.all (· == "..")

def isFolder (s : FileStore) (place : List String) : Bool :=
  isGiven place || s.folders.contains place ||
    s.files.any fun (file, _) => file.length > place.length && place.isPrefixOf file

def nodeAt? (s : FileStore) (place : List String) : Option FileNode :=
  if s.isFolder place then some .folder else (s.files.lookup place).map .file

/-- One part further; `.` stays and `..` leads back. -/
def child (place : List String) (part : String) : List String :=
  if part = "." then place
  else if part ≠ ".." then place ++ [part]
  else if place = ["/"] then place
  else if place.all (· == "..") then place ++ [part]
  else place.dropLast

/-- The place of a part in a folder, and what is there. A name has at most 255 bytes. -/
def enter (s : FileStore) (folder : List String) (part : String) :
    Except FileError (List String × Option FileNode) :=
  if 255 < part.utf8ByteSize then .error .nameTooLong
  else .ok (child folder part, s.nodeAt? (child folder part))

/-- The place that parts lead to from a folder, and what is there; all parts but the last must lead
to folders. -/
def walk (s : FileStore) (folder : List String) :
    List String → Except FileError (List String × Option FileNode)
  | [] => .ok (folder, some .folder)
  | [last] => s.enter folder last
  | part :: rest =>
    match s.enter folder part with
    | .error e => .error e
    | .ok (next, some .folder) => walk s next rest
    | .ok (_, some (.file _)) => .error .notFolder
    | .ok (_, none) => .error .missing

/-- The place that a path leads to, and what is there. A path has at most 4095 bytes. -/
def locate (s : FileStore) (path : String) : Except FileError (List String × Option FileNode) :=
  if path = "" then .error .missing
  else if 4095 < path.utf8ByteSize then .error .nameTooLong
  else s.walk [] (Path.parts path)

/-- What a path leads to. -/
def node (s : FileStore) (path : String) : Except FileError FileNode :=
  match s.locate path with
  | .error e => .error e
  | .ok (_, none) => .error .missing
  | .ok (_, some .folder) => .ok .folder
  | .ok (_, some (.file content)) =>
    if Path.endsInSlash path then .error .notFolder else .ok (.file content)

def has (s : FileStore) (path : String) : Bool :=
  match s.node path with
  | .ok _ => true
  | .error _ => false

def read (s : FileStore) (path : String) : Except FileError String :=
  match s.node path with
  | .ok (.file content) => .ok content
  | .ok .folder => .error .isFolder
  | .error e => .error e

/-- The store with a folder at a path where nothing is; the folder it lies in must be there. -/
def makeFolder (s : FileStore) (path : String) : Except FileError FileStore :=
  match s.locate path with
  | .error e => .error e
  | .ok (_, some _) => .error .exists
  | .ok (place, none) => .ok { s with folders := place :: s.folders }

/-- Makes a folder at a path, unless there is one. -/
def ensureFolder (s : FileStore) (path : String) : Except FileError Unit × FileStore :=
  match s.makeFolder path with
  | .ok t => (.ok (), t)
  | .error e =>
    match e, s.node path with
    | .exists, .ok .folder => (.ok (), s)
    | _, _ => (.error e, s)

/-- Makes a folder at the first of some paths; where the folder it lies in is missing, that is made
first, at the next path. -/
def ensureFolders (s : FileStore) : List String → Except FileError Unit × FileStore
  | [] => (.ok (), s)
  | path :: outer =>
    match s.ensureFolder path with
    | (.error .missing, _) =>
      match ensureFolders s outer with
      | (.ok (), t) => t.ensureFolder path
      | failed => failed
    | result => result

/-- The store with the content of a file replaced; the folder of the file must be there. -/
def write (s : FileStore) (path content : String) : Except FileError FileStore :=
  match s.locate path with
  | .error e => .error e
  | .ok (_, some .folder) => .error .isFolder
  | .ok (place, _) =>
    if Path.endsInSlash path then .error .isFolder
    else .ok { s with files := (place, content) :: s.files.filter (·.1 != place) }

/-- The store after an operation; one that fails changes nothing. -/
def after (s : FileStore) : Except FileError FileStore → Except FileError Unit × FileStore
  | .ok t => (.ok (), t)
  | .error e => (.error e, s)

/-- What a program results in on a store, and the store after it. -/
def run : FileProgram α → FileStore → α × FileStore
  | .done a, s => (a, s)
  | .probe path next, s => run (next (s.has path)) s
  | .read path next, s => run (next (s.read path)) s
  | .createFolders path next, s =>
    let r := s.ensureFolders (Path.ancestors path)
    run (next r.1) r.2
  | .write path content next, s =>
    let r := s.after (s.write path content)
    run (next r.1) r.2

/-- A store that holds files at paths. -/
def ofFiles (files : List (String × String)) : FileStore where
  files := files.map fun (path, content) => ((Path.parts path).foldl child [], content)
  folders := []

end FileStore
end FieldGuard
