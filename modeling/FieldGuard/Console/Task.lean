import FieldGuard.Console.Answer
import FieldGuard.Files.Store

/-! Tasks: programs on files that keep a log and may fail. -/
namespace FieldGuard

def Task (α : Type) : Type := FileProgram (Logged Failure α)

namespace Task

variable {α β ε : Type}

def ofProgram (p : FileProgram (Logged Failure α)) : Task α := p

def toProgram (t : Task α) : FileProgram (Logged Failure α) := t

/-- Goes on with a logged outcome: a failure ends the task, and notes are kept in order. -/
def continueWith (f : α → FileProgram (Logged Failure β)) (r : Logged Failure α) :
    FileProgram (Logged Failure β) :=
  match r.outcome with
  | .ok a => (fun q => ⟨r.notes ++ q.notes, q.outcome⟩) <$> f a
  | .error e => pure ⟨r.notes, .error e⟩

instance : Monad Task where
  pure a := ofProgram (pure (pure a))
  bind t f := ofProgram (t.toProgram >>= continueWith fun a => (f a).toProgram)

def fail (f : Failure) : Task α := ofProgram (pure (.fail f))

/-- A computation without files. -/
def logged (f : ε → Failure) (x : Logged ε α) : Task α := ofProgram (pure (x.mapError f))

def except (f : ε → Failure) (x : Except ε α) : Task α := logged f ⟨[], x⟩

/-- A program on files that may fail. -/
def files (f : ε → Failure) (p : FileProgram (Except ε α)) : Task α :=
  ofProgram ((fun x => Logged.mapError f ⟨[], x⟩) <$> p)

/-- A program on files that keeps a log and may fail. -/
def loggedFiles (f : ε → Failure) (p : FileProgram (Logged ε α)) : Task α :=
  ofProgram ((·.mapError f) <$> p)

end Task
end FieldGuard
