/-! Programs that work on files. A program is a tree of requests: each is answered by whoever runs
the program, and the program goes on with the answer. -/
namespace FieldGuard

/-- Why a request on a file fails. -/
inductive FileError where
  | missing
  | notFolder
  | isFolder
  | exists
  | nameTooLong
  | notText
  | other (text : String)
  deriving DecidableEq, Repr

def FileError.message : FileError → String
  | .missing => "No such file or directory (os error 2)"
  | .notFolder => "Not a directory (os error 20)"
  | .isFolder => "Is a directory (os error 21)"
  | .exists => "File exists (os error 17)"
  | .nameTooLong => "File name too long (os error 36)"
  | .notText => "stream did not contain valid UTF-8"
  | .other text => text

inductive FileProgram (α : Type) where
  | done (result : α)
  /-- Whether a path leads to a file or folder. -/
  | probe (path : String) (next : Bool → FileProgram α)
  | read (path : String) (next : Except FileError String → FileProgram α)
  /-- Creates a folder and the folders on the way to it, where they are missing. -/
  | createFolders (path : String) (next : Except FileError Unit → FileProgram α)
  /-- Replaces the content of a file. -/
  | write (path : String) (content : String) (next : Except FileError Unit → FileProgram α)

namespace FileProgram

variable {α β γ : Type}

/-- Goes on with another program where one is done. -/
def andThen (f : α → FileProgram β) : FileProgram α → FileProgram β
  | .done a => f a
  | .probe path next => .probe path fun answer => andThen f (next answer)
  | .read path next => .read path fun answer => andThen f (next answer)
  | .createFolders path next => .createFolders path fun answer => andThen f (next answer)
  | .write path content next => .write path content fun answer => andThen f (next answer)

instance : Monad FileProgram where
  pure := .done
  bind p f := andThen f p

theorem bind_def (p : FileProgram α) (f : α → FileProgram β) : p >>= f = andThen f p := rfl

theorem andThen_done (p : FileProgram α) : andThen .done p = p := by
  induction p with
  | done a => rfl
  | probe path next ih => exact congrArg (probe path) (funext ih)
  | read path next ih => exact congrArg (read path) (funext ih)
  | createFolders path next ih => exact congrArg (createFolders path) (funext ih)
  | write path content next ih => exact congrArg (write path content) (funext ih)

theorem andThen_andThen (f : α → FileProgram β) (g : β → FileProgram γ) (p : FileProgram α) :
    andThen g (andThen f p) = andThen (fun a => andThen g (f a)) p := by
  induction p with
  | done a => rfl
  | probe path next ih => exact congrArg (probe path) (funext ih)
  | read path next ih => exact congrArg (read path) (funext ih)
  | createFolders path next ih => exact congrArg (createFolders path) (funext ih)
  | write path content next ih => exact congrArg (write path content) (funext ih)

instance : LawfulMonad FileProgram := LawfulMonad.mk' FileProgram
  (fun p => by simpa [Functor.map] using andThen_done p)
  (fun _ _ => rfl)
  (fun p f g => andThen_andThen f g p)

/-- Asks whether a path leads anywhere. -/
def probed (path : String) : FileProgram Bool := .probe path .done

def readText (path : String) : FileProgram (Except FileError String) := .read path .done

def foldersCreated (path : String) : FileProgram (Except FileError Unit) :=
  .createFolders path .done

def written (path content : String) : FileProgram (Except FileError Unit) :=
  .write path content .done

end FileProgram
end FieldGuard
