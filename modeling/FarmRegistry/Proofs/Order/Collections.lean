import Mathlib.Data.List.Forall2
import Mathlib.Data.List.Perm.Basic
import Std.Data.ExtTreeMap

namespace FarmRegistry

theorem forall₂_zip_right {α β γ : Type} {R : α → β → Prop} {S : β × α → γ → Prop} {l : List α} {n : List γ} :
    (∃ m, List.Forall₂ R l m ∧ List.Forall₂ S (m.zip l) n) ↔
      List.Forall₂ (fun a c => ∃ b, R a b ∧ S (b, a) c) l n := by
  constructor
  · rintro ⟨m, hm, hn⟩
    induction hm generalizing n with
    | nil => cases hn; exact .nil
    | cons hR _ ih =>
      cases hn with
      | cons hS hrest => exact .cons ⟨_, hR, hS⟩ (ih hrest)
  · intro h
    induction h with
    | nil => exact ⟨[], .nil, .nil⟩
    | cons hac _ ih =>
      obtain ⟨b, hR, hS⟩ := hac
      obtain ⟨m, hm, hn⟩ := ih
      exact ⟨b :: m, .cons hR hm, .cons hS hn⟩

theorem exists_forall₂ {α β : Type} {R : α → β → Prop} {l : List α} (h : ∀ a ∈ l, ∃ b, R a b) :
    ∃ m, List.Forall₂ R l m := by
  induction l with
  | nil => exact ⟨[], .nil⟩
  | cons a l ih =>
    obtain ⟨ha, hrest⟩ := List.forall_mem_cons.mp h
    obtain ⟨b, hb⟩ := ha
    obtain ⟨m, hm⟩ := ih hrest
    exact ⟨b :: m, .cons hb hm⟩

theorem forall₂_mem_left {α β : Type} {R : α → β → Prop} {l : List α} {m : List β} (h : List.Forall₂ R l m)
    {a : α} (ha : a ∈ l) : ∃ b ∈ m, R a b := by
  induction h with
  | nil => cases ha
  | cons hR _ ih =>
    rcases List.mem_cons.mp ha with rfl | ha
    · exact ⟨_, List.mem_cons_self, hR⟩
    · obtain ⟨b, hb, hab⟩ := ih ha
      exact ⟨b, List.mem_cons_of_mem _ hb, hab⟩

theorem exists_map_of_perm {α β : Type} {f : α → β} {l : List β} {m : List α} (h : l.Perm (m.map f)) :
    ∃ k : List α, l = k.map f ∧ k.Perm m := by
  have hmap : List.Forall₂ (fun b a => b = f a) (m.map f) m :=
    List.forall₂_map_left_iff.mpr (List.forall₂_same.mpr fun _ _ => rfl)
  obtain ⟨k, hk, hperm⟩ := List.perm_comp_forall₂ h hmap
  have heq : List.Forall₂ Eq l (k.map f) := List.forall₂_map_right_iff.mpr hk
  rw [List.forall₂_eq_eq_eq] at heq
  exact ⟨k, heq, hperm⟩

section Entries

variable {α β : Type} [Ord α] [Std.TransOrd α] {m : Std.ExtTreeMap α β} {k : α} {v : β}

theorem mem_iff_exists_getElem? : k ∈ m ↔ ∃ v, m[k]? = some v :=
  Std.ExtTreeMap.mem_iff_isSome_getElem?.trans Option.isSome_iff_exists

variable [Std.LawfulEqOrd α]

theorem nodup_toList : m.toList.Nodup := by
  apply m.distinct_keys_toList.imp
  rintro a b hab rfl
  exact hab Std.ReflCmp.compare_self

theorem insert_getElem? [DecidableEq α] (j : α) : (m.insert k v)[j]? = if k = j then some v else m[j]? := by
  rw [Std.ExtTreeMap.getElem?_insert]
  by_cases h : k = j
  · simp [h]
  · simp [h, mt Std.LawfulEqCmp.eq_of_compare h]

theorem erase_getElem? [DecidableEq α] (j : α) : (m.erase k)[j]? = if k = j then none else m[j]? := by
  rw [Std.ExtTreeMap.getElem?_erase]
  by_cases h : k = j
  · simp [h]
  · simp [h, mt Std.LawfulEqCmp.eq_of_compare h]

theorem insert_of_getElem? (h : m[k]? = some v) : m.insert k v = m := by
  ext j
  rw [Std.ExtTreeMap.getElem?_insert]
  split
  · rename_i hkj
    rw [← Std.LawfulEqCmp.eq_of_compare hkj, h]
  · rfl

theorem erase_insert : (m.insert k v).erase k = m.erase k := by
  ext j
  rw [Std.ExtTreeMap.getElem?_erase, Std.ExtTreeMap.getElem?_erase, Std.ExtTreeMap.getElem?_insert]
  split <;> rfl

theorem erase_of_absent (h : m[k]? = none) : m.erase k = m := by
  ext j
  rw [Std.ExtTreeMap.getElem?_erase]
  split
  · rename_i hjk
    rw [← Std.LawfulEqCmp.eq_of_compare hjk, h]
  · rfl

theorem map_insert {γ : Type} (f : α → β → γ) : (m.insert k v).map f = (m.map f).insert k (f k v) := by
  ext j
  rw [Std.ExtTreeMap.getElem?_map, Std.ExtTreeMap.getElem?_insert, Std.ExtTreeMap.getElem?_insert,
    Std.ExtTreeMap.getElem?_map]
  split
  · rename_i hkj
    rw [Std.LawfulEqCmp.eq_of_compare hkj, Option.map_some]
  · rfl

theorem map_erase {γ : Type} (f : α → β → γ) : (m.erase k).map f = (m.map f).erase k := by
  ext j
  rw [Std.ExtTreeMap.getElem?_map, Std.ExtTreeMap.getElem?_erase, Std.ExtTreeMap.getElem?_erase,
    Std.ExtTreeMap.getElem?_map]
  split <;> rfl

theorem toList_perm_cons_erase (h : m[k]? = some v) : m.toList.Perm ((k, v) :: (m.erase k).toList) := by
  have hleft : (k, v) ∉ (m.erase k).toList := by
    rw [Std.ExtTreeMap.mem_toList_iff_getElem?_eq_some]
    simp
  apply (List.perm_ext_iff_of_nodup nodup_toList (List.nodup_cons.mpr ⟨hleft, nodup_toList⟩)).mpr
  rintro ⟨j, w⟩
  rw [List.mem_cons, Std.ExtTreeMap.mem_toList_iff_getElem?_eq_some, Std.ExtTreeMap.mem_toList_iff_getElem?_eq_some,
    Std.ExtTreeMap.getElem?_erase, Prod.mk.injEq]
  by_cases hjk : k = j
  · subst hjk
    simp [h, eq_comm]
  · have hne : ¬compare k j = .eq := mt Std.LawfulEqCmp.eq_of_compare hjk
    simp [hne, Ne.symm hjk]

end Entries

end FarmRegistry
