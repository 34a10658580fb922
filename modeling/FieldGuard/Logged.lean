/-! Computations that may fail and note what they did on the way. Two views determine one: its
outcome and its notes, in order. -/
namespace FieldGuard

/-- The part of the library that writes an entry of a log. -/
inductive Area where
  | parsing
  | evaluation
  | selection
  | settings
  deriving DecidableEq, Repr

/-- One entry of a log. -/
inductive Note where
  | trace (area : Area) (text : String)
  | debug (area : Area) (text : String)
  /-- A problem for the reporter, with the subject it concerns. -/
  | report (context : Option String) (message : String)
  deriving DecidableEq, Repr

/-- An outcome together with the notes taken before it was reached. -/
structure Logged (ε α : Type) where
  notes : List Note
  outcome : Except ε α

namespace Logged

variable {ε α β : Type}

def note (n : Note) : Logged ε Unit := ⟨[n], .ok ()⟩

def fail (e : ε) : Logged ε α := ⟨[], .error e⟩

/-- The value of an optional answer, or a failure where there is none. -/
def require (e : ε) : Option α → Logged ε α
  | some a => ⟨[], .ok a⟩
  | none => fail e

/-- The same computation with its failure seen as another. -/
def mapError {ε' : Type} (f : ε → ε') (x : Logged ε α) : Logged ε' α :=
  ⟨x.notes, x.outcome.mapError f⟩

/-- A failure ends the computation; what was noted before it stays. -/
instance : Monad (Logged ε) where
  pure a := ⟨[], .ok a⟩
  bind x f :=
    match x.outcome with
    | .ok a => ⟨x.notes ++ (f a).notes, (f a).outcome⟩
    | .error e => ⟨x.notes, .error e⟩

@[ext] theorem ext {x y : Logged ε α} (hn : x.notes = y.notes) (ho : x.outcome = y.outcome) :
    x = y := by
  cases x; cases y; simp_all

@[simp] theorem outcome_pure (a : α) : (pure a : Logged ε α).outcome = .ok a := rfl
@[simp] theorem notes_pure (a : α) : (pure a : Logged ε α).notes = [] := rfl
@[simp] theorem outcome_fail (e : ε) : (fail e : Logged ε α).outcome = .error e := rfl
@[simp] theorem notes_fail (e : ε) : (fail e : Logged ε α).notes = [] := rfl
@[simp] theorem outcome_note (n : Note) : (note n : Logged ε Unit).outcome = .ok () := rfl
@[simp] theorem notes_note (n : Note) : (note n : Logged ε Unit).notes = [n] := rfl

@[simp] theorem outcome_mapError {ε' : Type} (f : ε → ε') (x : Logged ε α) :
    (x.mapError f).outcome = x.outcome.mapError f := rfl

@[simp] theorem notes_mapError {ε' : Type} (f : ε → ε') (x : Logged ε α) :
    (x.mapError f).notes = x.notes := rfl

@[simp] theorem outcome_bind (x : Logged ε α) (f : α → Logged ε β) :
    (x >>= f).outcome = x.outcome.bind fun a => (f a).outcome := by
  obtain ⟨n, o⟩ := x
  cases o <;> rfl

@[simp] theorem outcome_map (f : α → β) (x : Logged ε α) :
    (f <$> x).outcome = x.outcome.map f := by
  obtain ⟨n, o⟩ := x
  cases o <;> rfl

theorem notes_bind (x : Logged ε α) (f : α → Logged ε β) :
    (x >>= f).notes =
      x.notes ++ match x.outcome with
        | .ok a => (f a).notes
        | .error _ => [] := by
  obtain ⟨n, o⟩ := x
  cases o with
  | ok a => rfl
  | error e => exact (List.append_nil n).symm

theorem bind_eq_ok_iff {x : Logged ε α} {f : α → Logged ε β} {b : β} :
    (x >>= f).outcome = .ok b ↔ ∃ a, x.outcome = .ok a ∧ (f a).outcome = .ok b := by
  obtain ⟨n, o⟩ := x
  cases o <;> simp [Except.bind]

theorem map_eq_ok_iff {f : α → β} {x : Logged ε α} {b : β} :
    (f <$> x).outcome = .ok b ↔ ∃ a, x.outcome = .ok a ∧ f a = b := by
  obtain ⟨n, o⟩ := x
  cases o <;> simp [Except.map]

instance : LawfulMonad (Logged ε) := LawfulMonad.mk' (Logged ε)
  (fun ⟨n, o⟩ => by cases o <;> simp [Functor.map])
  (fun a f => ext (by simp [notes_bind]) (by simp [Except.bind]))
  (fun ⟨n, o⟩ f g => by
    cases o with
    | error e => rfl
    | ok a => cases h : (f a).outcome <;> simp [Bind.bind, h, List.append_assoc])

@[simp] theorem outcome_require (e : ε) (a : Option α) :
    (require e a).outcome = match a with
      | some a => .ok a
      | none => .error e := by
  cases a <;> rfl

@[simp] theorem notes_require (e : ε) (a : Option α) : (require e a).notes = [] := by
  cases a <;> rfl

end Logged
end FieldGuard
