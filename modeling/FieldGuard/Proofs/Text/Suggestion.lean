import FieldGuard.Proofs.Text.Bytes
import FieldGuard.Proofs.Text.EditDistance

/-! Suggestions for a name. All candidates that are near enough are there, each as often as it is a
candidate, the nearest first and equally near ones in the order of their bytes. Two names that
neither comes before the other are the same name, so the order of the candidates does not show. -/
namespace FieldGuard

/-- One name is nearer to a query than another, or as near and not behind it in bytes. -/
def Precedes (query a b : String) : Prop :=
  nameDistance query a < nameDistance query b ∨
    nameDistance query a = nameDistance query b ∧ utf8 a.toList ≤ utf8 b.toList

/-- A name is near to a query and not the query itself. -/
def Near (query name : String) : Prop := nameDistance query name ≤ 2 ∧ name ≠ query

instance (query name : String) : Decidable (Near query name) :=
  inferInstanceAs (Decidable (_ ∧ _))

section Order

variable {query a b c : String}

theorem closerName_iff : closerName query a b = true ↔ Precedes query a b := by
  simp only [closerName, Bool.or_eq_true, Bool.and_eq_true, decide_eq_true_eq, beq_iff_eq, Precedes,
    utf8_le_utf8_iff]

theorem Precedes.trans (hab : Precedes query a b) (hbc : Precedes query b c) :
    Precedes query a c := by
  unfold Precedes at *
  obtain hab | ⟨hab, hle⟩ := hab
  · left
    omega
  · obtain hbc | ⟨hbc, hle'⟩ := hbc
    · left
      omega
    · exact .inr ⟨hab.trans hbc, List.le_trans hle hle'⟩

theorem Precedes.total (query a b : String) : Precedes query a b ∨ Precedes query b a := by
  unfold Precedes
  obtain hlt | heq | hgt := Nat.lt_trichotomy (nameDistance query a) (nameDistance query b)
  · exact .inl (.inl hlt)
  · obtain hle | hle := List.le_total (utf8 a.toList) (utf8 b.toList)
    · exact .inl (.inr ⟨heq, hle⟩)
    · exact .inr (.inr ⟨heq.symm, hle⟩)
  · exact .inr (.inl hgt)

/-- Names that come before each other are the same. -/
theorem Precedes.antisymm (hab : Precedes query a b) (hba : Precedes query b a) : a = b := by
  unfold Precedes at *
  obtain ⟨-, hle⟩ : nameDistance query a = nameDistance query b ∧ _ :=
    hab.resolve_left fun hlt => by omega
  obtain ⟨-, hle'⟩ : nameDistance query b = nameDistance query a ∧ _ :=
    hba.resolve_left fun hlt => by omega
  rw [utf8_le_utf8_iff] at hle hle'
  exact String.le_antisymm hle hle'

end Order

section Suggestions

variable (query : String)

theorem suggestions_eq (candidates : List String) : suggestions query candidates =
    (candidates.filter (Near query ·)).mergeSort (closerName query) := by
  have hnear : (fun c => decide (nameDistance query c ≤ 2) && decide (c ≠ query)) =
      (Near query ·) := funext fun _ => (Bool.decide_and _ _).symm
  rw [suggestions, hnear]

theorem suggestions_perm_filter (candidates : List String) :
    (suggestions query candidates).Perm (candidates.filter (Near query ·)) := by
  rw [suggestions_eq]
  exact List.mergeSort_perm _ _

theorem count_suggestions (candidates : List String) (name : String) :
    (suggestions query candidates).count name =
      if Near query name then candidates.count name else 0 := by
  rw [(suggestions_perm_filter query candidates).count_eq]
  split
  · next h => exact List.count_filter (decide_eq_true h)
  · next h =>
    refine List.count_eq_zero_of_not_mem fun hmem => h ?_
    exact of_decide_eq_true (List.mem_filter.mp hmem).2

theorem pairwise_suggestions (candidates : List String) :
    (suggestions query candidates).Pairwise (Precedes query) := by
  rw [suggestions_eq]
  refine (List.pairwise_mergeSort (fun a b c hab hbc => ?_) (fun a b => ?_) _).imp closerName_iff.mp
  · exact closerName_iff.mpr ((closerName_iff.mp hab).trans (closerName_iff.mp hbc))
  · rw [Bool.or_eq_true, closerName_iff, closerName_iff]
    exact Precedes.total query a b

/-- Two sorted lists of the same names are one list, because only one name stands at a place. -/
theorem suggestions_eq_of_perm {candidates others : List String} (h : candidates.Perm others) :
    suggestions query candidates = suggestions query others := by
  refine List.Perm.eq_of_pairwise (fun a b _ _ => Precedes.antisymm)
    (pairwise_suggestions query candidates) (pairwise_suggestions query others) ?_
  calc (suggestions query candidates).Perm (candidates.filter (Near query ·)) :=
        suggestions_perm_filter query candidates
    List.Perm _ (others.filter (Near query ·)) := h.filter _
    List.Perm _ (suggestions query others) := (suggestions_perm_filter query others).symm

end Suggestions

/-- The candidates near to a query are suggested, each as often as it is a candidate, the nearest
first and equally near ones in the order of their bytes; so any order of the candidates gives the
same suggestions. How far a name is tells the least number of changes in lower case. -/
theorem near_candidates_suggested_in_order (query : String) (candidates : List String) :
    (∀ name, (suggestions query candidates).count name =
      if Near query name then candidates.count name else 0) ∧
    (suggestions query candidates).Pairwise (Precedes query) ∧
    (∀ others, candidates.Perm others →
      suggestions query candidates = suggestions query others) ∧
    ∀ name n, nameDistance query name ≤ n ↔
      ∃ k ≤ n, Changes k (lowercase query).toList (lowercase name).toList :=
  ⟨count_suggestions query candidates, pairwise_suggestions query candidates,
    fun _ h => suggestions_eq_of_perm query h, fun _ _ => editDistance_le_iff⟩

/-- Names that differ in case only are equally near, and one of them is there twice. -/
theorem near_candidates_in_any_case :
    ["mode", "MODE", "mod", "mode"].Perm ["mode", "mode", "mod", "MODE"] ∧
    suggestions "mod" ["mode", "MODE", "mod", "mode"] =
      suggestions "mod" ["mode", "mode", "mod", "MODE"] ∧
    (suggestions "mod" ["mode", "MODE", "mod", "mode"]).count "mode" = 2 ∧
    (suggestions "mod" ["mode", "MODE", "mod", "mode"]).count "mod" = 0 := by
  obtain ⟨hcount, -, hperm, -⟩ :=
    near_candidates_suggested_in_order "mod" ["mode", "MODE", "mod", "mode"]
  have hothers : ["mode", "MODE", "mod", "mode"].Perm ["mode", "mode", "mod", "MODE"] := by decide
  refine ⟨hothers, hperm _ hothers, ?_, ?_⟩
  · rw [hcount]
    decide +kernel
  · rw [hcount]
    decide +kernel

end FieldGuard
