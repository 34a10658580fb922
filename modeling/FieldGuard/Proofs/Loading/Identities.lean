import Mathlib.Data.List.Nodup
import FieldGuard.Subject.Document

/-! The names of objects that are met while a document is read. New names are added behind those met
before, so a name keeps its id; and what was read once reads the same where more names are known
(`fieldValue_settled`). -/
namespace FieldGuard

namespace Identities

variable {ids final : Identities} {name : String}

theorem prefix_intern (ids : Identities) (name : String) : ids <+: (ids.intern name).2 := by
  rw [intern]
  split
  · exact List.prefix_rfl
  · exact List.prefix_append ids [name]

theorem mem_intern_iff {other : String} :
    other ∈ (ids.intern name).2 ↔ other ∈ ids ∨ other = name := by
  rw [intern]
  split
  · rename_i hmem
    exact ⟨.inl, fun h => h.elim id fun heq => heq ▸ hmem⟩
  · simp

theorem nodup_intern (h : ids.Nodup) (name : String) : (ids.intern name).2.Nodup := by
  rw [intern]
  split
  · exact h
  · rename_i hnew
    exact List.nodup_append_comm.mp (List.nodup_cons.mpr ⟨hnew, h⟩)

/-- A new name has its id as if it had been among the names before. -/
theorem intern_fst (ids : Identities) (name : String) :
    (ids.intern name).1 = base + (ids.intern name).2.idxOf name := by
  by_cases h : name ∈ ids
  · simp [intern, h]
  · simp [intern, h, List.idxOf_append_of_notMem, List.idxOf_of_notMem]

theorem intern_of_mem (h : name ∈ ids) : ids.intern name = (base + ids.idxOf name, ids) := by
  rw [intern, if_pos h]

/-- A name keeps its id when names are added. -/
theorem intern_of_prefix (h : (ids.intern name).2 <+: final) :
    final.intern name = ((ids.intern name).1, final) := by
  have hmem : name ∈ (ids.intern name).2 := mem_intern_iff.mpr (.inr rfl)
  rw [intern_of_mem (h.mem hmem), intern_fst, h.idxOf_eq_of_mem hmem]

end Identities

namespace SubjectDocument

variable {enums : Enums} {ids after final : Identities} {type : FieldType} {json : Json}
  {value : FieldValue}

/-- The name of an object is added to the names; no other value has to do with them. -/
theorem fieldValue_cases (h : fieldValue enums ids type json = .ok (value, after)) :
    (after = ids ∧ ∀ others, fieldValue enums others type json = .ok (value, others)) ∨
      ∃ pointer name, type = .object pointer ∧ json = .string name ∧
        value = .object (.object (ids.intern name).1) ∧ after = (ids.intern name).2 := by
  revert h
  fun_cases fieldValue enums ids type json with
  | case3 | case6 | case8 | case12 | case13 | case15 => nofun
  | case1 | case4 | case9 =>
    rintro ⟨⟩
    exact .inl ⟨rfl, fun _ => rfl⟩
  | case2 _ _ _ hread | case5 _ _ _ hread | case7 _ _ _ hread =>
    rintro ⟨⟩
    exact .inl ⟨rfl, fun _ => by simp only [fieldValue, hread]⟩
  | case10 _ _ _ hread hzero =>
    rintro ⟨⟩
    exact .inl ⟨rfl, fun _ => by simp only [fieldValue, hread, if_pos hzero]⟩
  | case11 _ _ _ hread hzero hrange =>
    rintro ⟨⟩
    exact .inl ⟨rfl, fun _ => by simp only [fieldValue, hread, if_neg hzero, if_pos hrange]⟩
  | case14 pointer name id ids' hintern =>
    rintro ⟨⟩
    exact .inr ⟨pointer, name, rfl, rfl, by rw [hintern], by rw [hintern]⟩

/-- A value that was read is read again where its names, and maybe others, are known. -/
theorem fieldValue_settled (h : fieldValue enums ids type json = .ok (value, after))
    (hfinal : after <+: final) : fieldValue enums final type json = .ok (value, final) := by
  obtain ⟨-, hread⟩ | ⟨pointer, name, rfl, rfl, rfl, rfl⟩ := fieldValue_cases h
  · exact hread final
  · simp only [fieldValue, Identities.intern_of_prefix hfinal]

theorem prefix_of_fieldValue (h : fieldValue enums ids type json = .ok (value, after)) :
    ids <+: after := by
  obtain ⟨rfl, -⟩ | ⟨-, name, -, -, -, rfl⟩ := fieldValue_cases h
  · exact List.prefix_rfl
  · exact Identities.prefix_intern ids name

end SubjectDocument
end FieldGuard
