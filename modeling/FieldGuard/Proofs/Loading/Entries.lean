import Mathlib.Data.List.Forall2
import FieldGuard.Dictionary

/-! Entries that are read one by one into a dictionary. Where no two of them have one name, the
dictionary holds of each name what its entry was read as. -/
namespace FieldGuard

/-- A list is related to some list exactly if each of its entries is related to something. -/
theorem exists_forall₂_iff {α β : Type} {R : α → β → Prop} {xs : List α} :
    (∃ ys, List.Forall₂ R xs ys) ↔ ∀ x ∈ xs, ∃ y, R x y := by
  induction xs with
  | nil => exact ⟨fun _ => nofun, fun _ => ⟨[], .nil⟩⟩
  | cons x xs ih =>
    rw [List.forall_mem_cons, ← ih]
    constructor
    · rintro ⟨ys, h⟩
      cases h with
      | cons hx hxs => exact ⟨⟨_, hx⟩, _, hxs⟩
    · rintro ⟨⟨y, hy⟩, ys, hys⟩
      exact ⟨y :: ys, .cons hy hys⟩

/-- What stands in a list is related to something in the other. -/
theorem exists_of_forall₂ {α β : Type} {R : α → β → Prop} {xs : List α} {ys : List β}
    (h : List.Forall₂ R xs ys) {x : α} (hx : x ∈ xs) : ∃ y ∈ ys, R x y := by
  induction h with
  | nil => cases hx
  | @cons z y xs ys hxy _ ih =>
    obtain rfl | hx := List.mem_cons.mp hx
    · exact ⟨y, List.mem_cons_self, hxy⟩
    · obtain ⟨y', hy', hr⟩ := ih hx
      exact ⟨y', List.mem_cons_of_mem y hy', hr⟩

/-- Related things stand at one place. -/
theorem getElem?_forall₂ {α β : Type} {R : α → β → Prop} {xs : List α} {ys : List β}
    (h : List.Forall₂ R xs ys) {k : Nat} {x : α} (hx : xs[k]? = some x) :
    ∃ y, ys[k]? = some y ∧ R x y := by
  obtain ⟨hk, rfl⟩ := List.getElem?_eq_some_iff.mp hx
  have hk' : k < ys.length := h.length_eq ▸ hk
  exact ⟨ys[k], List.getElem?_eq_getElem hk', h.get hk hk'⟩

namespace Dictionary

variable {α β : Type}

/-- Entries under the same names, each read as something that it is related to. -/
def ReadBy (R : String → α → β → Prop) (e : String × α) (r : String × β) : Prop :=
  r.1 = e.1 ∧ R e.1 e.2 r.2

variable {R : String → α → β → Prop} {es : List (String × α)} {rs : List (String × β)}

theorem exists_readBy_iff :
    (∃ rs, List.Forall₂ (ReadBy R) es rs) ↔ ∀ e ∈ es, ∃ b, R e.1 e.2 b := by
  refine exists_forall₂_iff.trans (forall₂_congr fun e _ => ?_)
  exact ⟨fun ⟨r, _, h⟩ => ⟨r.2, h⟩, fun ⟨b, h⟩ => ⟨(e.1, b), rfl, h⟩⟩

/-- The dictionary with further entries. -/
def insertAll (d : Dictionary β) (rs : List (String × β)) : Dictionary β :=
  rs.foldl (fun d r => d.insert r.1 r.2) d

/-- A dictionary is loaded exactly if each entry can be read. -/
theorem exists_loaded_iff {d : Dictionary β} {loads : Dictionary β → Prop}
    (h : ∀ {loaded}, loads loaded ↔
      ∃ rs, List.Forall₂ (ReadBy R) es rs ∧ loaded = d.insertAll rs) :
    (∃ loaded, loads loaded) ↔ ∀ e ∈ es, ∃ b, R e.1 e.2 b := by
  rw [← exists_readBy_iff]
  constructor
  · rintro ⟨loaded, hloaded⟩
    obtain ⟨rs, hrs, -⟩ := h.mp hloaded
    exact ⟨rs, hrs⟩
  · rintro ⟨rs, hrs⟩
    exact ⟨_, h.mpr ⟨rs, hrs, rfl⟩⟩

/-- Of distinct names, each stands for what its own entry was read as. -/
theorem get?_insertAll (h : List.Forall₂ (ReadBy R) es rs)
    (hes : es.Pairwise fun a b => a.1 ≠ b.1) (d : Dictionary β) (name : String) :
    (∀ a, es.lookup name = some a → ∃ b, R name a b ∧ (d.insertAll rs).get? name = some b) ∧
    (es.lookup name = none → (d.insertAll rs).get? name = d.get? name) := by
  induction h generalizing d with
  | nil => exact ⟨nofun, fun _ => rfl⟩
  | @cons e r es rs her _ ih =>
    obtain ⟨key, a⟩ := e
    obtain ⟨key', b⟩ := r
    obtain ⟨rfl, hb⟩ := her
    obtain ⟨hkey, hrest⟩ := List.pairwise_cons.mp hes
    obtain ⟨hsome, hnone⟩ := ih hrest (d.insert key' b)
    rw [lookup_cons_if]
    by_cases hname : name = key'
    · subst hname
      -- The entry is not overwritten, since no later one has its name.
      have habsent : es.lookup name = none :=
        List.lookup_eq_none_iff.mpr fun e he => bne_iff_ne.mpr (hkey e he)
      rw [if_pos rfl]
      refine ⟨fun a' ha => ?_, nofun⟩
      obtain rfl := Option.some.inj ha
      exact ⟨b, hb, (hnone habsent).trans ((get?_insert ..).trans (if_pos rfl))⟩
    · rw [if_neg hname]
      refine ⟨hsome, fun ha => ?_⟩
      rw [insertAll, List.foldl_cons]
      exact (hnone ha).trans ((get?_insert ..).trans (if_neg hname))

end Dictionary
end FieldGuard
