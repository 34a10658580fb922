import FieldGuard.Text.Suggestion

/-! What the edit distance of two texts is: the least number of changes of one character each that
turn one text into the other (`editDistance_le_iff`). The table of distances is filled row by row
from the fronts of the texts, so its entries are told by the characters read so far, the last one
first. -/
namespace FieldGuard

/-- One text becomes another when a character is put in, taken out or replaced. -/
inductive Change : List Char → List Char → Prop
  | insert (front back : List Char) (c : Char) : Change (front ++ back) (front ++ c :: back)
  | delete (front back : List Char) (c : Char) : Change (front ++ c :: back) (front ++ back)
  | replace (front back : List Char) (c d : Char) :
    Change (front ++ c :: back) (front ++ d :: back)

/-- One text becomes another by so many changes, one after the other. -/
inductive Changes : Nat → List Char → List Char → Prop
  | none (a : List Char) : Changes 0 a a
  | more {n : Nat} {a b c : List Char} (h : Change a b) (hs : Changes n b c) : Changes (n + 1) a c

/-- The distance of two texts, told by their first characters. -/
def frontDistance : List Char → List Char → Nat
  | [], b => b.length
  | a, [] => a.length
  | x :: a, y :: b =>
    min (min (frontDistance a (y :: b) + 1) (frontDistance (x :: a) b + 1))
      (frontDistance a b + if x = y then 0 else 1)
  termination_by a b => a.length + b.length

section Changes

variable {m n : Nat} {a b : List Char}

theorem Change.cons (x : Char) (h : Change a b) : Change (x :: a) (x :: b) := by
  cases h with
  | insert front back c => exact .insert (x :: front) back c
  | delete front back c => exact .delete (x :: front) back c
  | replace front back c d => exact .replace (x :: front) back c d

theorem Changes.cons (x : Char) (h : Changes n a b) : Changes n (x :: a) (x :: b) := by
  induction h with
  | none a => exact .none (x :: a)
  | more h _ ih => exact .more (h.cons x) ih

theorem Changes.min (hm : Changes m a b) (hn : Changes n a b) : Changes (min m n) a b := by
  rw [Nat.min_def]
  split
  · exact hm
  · exact hn

theorem Change.reverse (h : Change a b) : Change a.reverse b.reverse := by
  cases h with
  | insert front back c => simpa using Change.insert back.reverse front.reverse c
  | delete front back c => simpa using Change.delete back.reverse front.reverse c
  | replace front back c d => simpa using Change.replace back.reverse front.reverse c d

/-- Texts are as far apart when they are read backwards. -/
theorem changes_reverse_iff : Changes n a.reverse b.reverse ↔ Changes n a b := by
  have turn {a b : List Char} (h : Changes n a b) : Changes n a.reverse b.reverse := by
    induction h with
    | none a => exact .none a.reverse
    | more h _ ih => exact .more h.reverse ih
  refine ⟨fun h => ?_, turn⟩
  simpa using turn h

end Changes

section FrontDistance

variable {n : Nat} {a b c : List Char}

@[simp] theorem frontDistance_nil_left (b : List Char) : frontDistance [] b = b.length := by
  rw [frontDistance]

@[simp] theorem frontDistance_nil_right (a : List Char) : frontDistance a [] = a.length := by
  cases a <;> simp [frontDistance]

theorem frontDistance_cons_cons (x y : Char) (a b : List Char) :
    frontDistance (x :: a) (y :: b) =
      min (min (frontDistance a (y :: b) + 1) (frontDistance (x :: a) b + 1))
        (frontDistance a b + if x = y then 0 else 1) := by
  rw [frontDistance]

@[simp] theorem frontDistance_self (a : List Char) : frontDistance a a = 0 := by
  induction a with
  | nil => simp
  | cons x a ih => simp [frontDistance_cons_cons, ih]

theorem changes_nil_left (b : List Char) : Changes b.length [] b := by
  induction b with
  | nil => exact .none []
  | cons y b ih => exact .more (.insert [] [] y) (ih.cons y)

theorem changes_nil_right (a : List Char) : Changes a.length a [] := by
  induction a with
  | nil => exact .none []
  | cons x a ih => exact .more (.delete [] a x) ih

/-- As many changes as the distance says are enough. -/
theorem changes_frontDistance (a b : List Char) : Changes (frontDistance a b) a b := by
  fun_induction frontDistance a b with
  | case1 b => exact changes_nil_left b
  | case2 a => exact changes_nil_right a
  | case3 x a y b hdelete hinsert hboth =>
    refine .min (.min (.more (.delete [] a x) hdelete) ?_) ?_
    · exact .more (.insert [] (x :: a) y) (hinsert.cons y)
    · split
      · next h =>
        subst h
        exact hboth.cons x
      · exact .more (.replace [] a x y) (hboth.cons y)

theorem frontDistance_cons_left_le (x : Char) (a c : List Char) :
    frontDistance (x :: a) c ≤ frontDistance a c + 1 := by
  cases c with
  | nil => simp
  | cons z c =>
    rw [frontDistance_cons_cons]
    omega

theorem frontDistance_cons_right_le (a : List Char) (z : Char) (c : List Char) :
    frontDistance a (z :: c) ≤ frontDistance a c + 1 := by
  cases a with
  | nil => simp
  | cons x a =>
    rw [frontDistance_cons_cons]
    omega

theorem frontDistance_le_cons_left (x : Char) (a c : List Char) :
    frontDistance a c ≤ frontDistance (x :: a) c + 1 := by
  induction c with
  | nil =>
    rw [frontDistance_nil_right, frontDistance_nil_right, List.length_cons]
    omega
  | cons z c ih =>
    have hright := frontDistance_cons_right_le a z c
    rw [frontDistance_cons_cons]
    omega

theorem frontDistance_replace_le (x y : Char) (a c : List Char) :
    frontDistance (x :: a) c ≤ frontDistance (y :: a) c + 1 := by
  induction c with
  | nil => simp
  | cons z c ih =>
    rw [frontDistance_cons_cons, frontDistance_cons_cons]
    split <;> split <;> omega

theorem frontDistance_cons_le (x : Char) (h : ∀ c, frontDistance a c ≤ frontDistance b c + 1)
    (c : List Char) : frontDistance (x :: a) c ≤ frontDistance (x :: b) c + 1 := by
  induction c with
  | nil => simpa using h []
  | cons z c ih =>
    have hdelete := h (z :: c)
    have hboth := h c
    rw [frontDistance_cons_cons, frontDistance_cons_cons]
    omega

/-- One change brings a text nearer to another by one at most. -/
theorem Change.frontDistance_le (h : Change a b) (c : List Char) :
    frontDistance a c ≤ frontDistance b c + 1 := by
  have within (front : List Char) {a b : List Char}
      (h : ∀ c, frontDistance a c ≤ frontDistance b c + 1) :
      ∀ c, frontDistance (front ++ a) c ≤ frontDistance (front ++ b) c + 1 := by
    induction front with
    | nil => exact h
    | cons x front ih => exact frontDistance_cons_le x ih
  cases h with
  | insert front back x => exact within front (frontDistance_le_cons_left x back) c
  | delete front back x => exact within front (frontDistance_cons_left_le x back) c
  | replace front back x y => exact within front (frontDistance_replace_le x y back) c

/-- No fewer changes than the distance says are enough. -/
theorem Changes.frontDistance_le (h : Changes n a b) : frontDistance a b ≤ n := by
  induction h with
  | none a => simp
  | more h _ ih => exact Nat.le_trans (h.frontDistance_le _) (Nat.succ_le_succ ih)

end FrontDistance

namespace EditDistance

/-- The entries for the text `b` behind the characters `q` of it, where the characters `p` of the
other text are read; both are told with the last one first. -/
def rowFrom (p q : List Char) : List Char → List Nat
  | [] => []
  | d :: ds => frontDistance p (d :: q) :: rowFrom p (d :: q) ds

/-- All entries for a text, where the characters `p` of the other text are read. -/
def row (p b : List Char) : List Nat := p.length :: rowFrom p [] b

variable (p q : List Char) (c : Char)

theorem rowBehind_rowFrom (ds : List Char) :
    rowBehind c (frontDistance (c :: p) q) (frontDistance p q) ds (rowFrom p q ds) =
      rowFrom (c :: p) q ds := by
  induction ds generalizing q with
  | nil => rfl
  | cons d ds ih =>
    rw [rowFrom, rowBehind, rowFrom, ← frontDistance_cons_cons]
    exact congrArg _ (ih (d :: q))

/-- A row is made from the one above it. -/
theorem nextRow_row (b : List Char) : nextRow b (row p b) c = row (c :: p) b := by
  have h := rowBehind_rowFrom p [] c b
  rw [frontDistance_nil_right, frontDistance_nil_right] at h
  exact congrArg _ h

theorem foldl_nextRow_row (a b : List Char) :
    a.foldl (nextRow b) (row p b) = row (a.reverse ++ p) b := by
  induction a generalizing p with
  | nil => rfl
  | cons c a ih => rw [List.foldl_cons, nextRow_row, ih, List.reverse_cons, List.append_cons]

/-- Above all rows stand the lengths of the prefixes. -/
theorem row_nil (b : List Char) : row [] b = List.range (b.length + 1) := by
  have behind (q ds : List Char) : rowFrom [] q ds = List.range' (q.length + 1) ds.length := by
    induction ds generalizing q with
    | nil => rfl
    | cons d ds ih => rw [rowFrom, ih, frontDistance_nil_left, List.length_cons, List.length_cons,
        List.range'_succ]
  rw [row, behind, List.range_eq_range', List.range'_succ]
  rfl

theorem getLast?_row (b : List Char) : (row p b).getLast? = some (frontDistance p b.reverse) := by
  have behind (q ds : List Char) : (frontDistance p q :: rowFrom p q ds).getLast? =
      some (frontDistance p (ds.reverse ++ q)) := by
    induction ds generalizing q with
    | nil => rfl
    | cons d ds ih =>
      rw [rowFrom, List.getLast?_cons_cons, ih, List.reverse_cons, List.append_assoc]
      rfl
  have h := behind [] b
  rwa [frontDistance_nil_right, List.append_nil] at h

end EditDistance

/-- The last entry of the last row is the distance of the texts, told from their ends. -/
theorem editDistance_eq (a b : List Char) :
    editDistance a b = frontDistance a.reverse b.reverse := by
  rw [editDistance, ← EditDistance.row_nil, EditDistance.foldl_nextRow_row,
    EditDistance.getLast?_row, Option.getD_some, List.append_nil]

/-- The edit distance of two texts is the least number of changes that turn one into the other. -/
theorem editDistance_le_iff {a b : List Char} {n : Nat} :
    editDistance a b ≤ n ↔ ∃ k ≤ n, Changes k a b := by
  rw [editDistance_eq]
  constructor
  · intro h
    exact ⟨_, h, changes_reverse_iff.mp (changes_frontDistance a.reverse b.reverse)⟩
  · rintro ⟨k, hk, h⟩
    exact Nat.le_trans (changes_reverse_iff.mpr h).frontDistance_le hk

end FieldGuard
