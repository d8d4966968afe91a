import FarmRegistry.Order.Runs
import Mathlib.Data.List.Sort

namespace FarmRegistry

section Sorting

variable {α : Type} [DecidableEq α] {le : α → α → Bool}

theorem pairwise_collapse (hanti : ∀ a b, le a b → le b a → a = b) {l : List α} (h : l.Pairwise fun a b => le a b) :
    (collapse l).Pairwise fun a b => le a b ∧ a ≠ b := by
  induction l using collapse.induct with
  | case1 => exact List.Pairwise.nil
  | case2 a => exact List.pairwise_singleton _ a
  | case3 b rest ih =>
    rw [collapse, if_pos rfl]
    exact ih h.tail
  | case4 a b rest hab ih =>
    rw [collapse, if_neg hab]
    obtain ⟨hfirst, hrest⟩ := List.pairwise_cons.mp h
    refine List.pairwise_cons.mpr ⟨?_, ih hrest⟩
    intro c hc
    have hmem : c ∈ b :: rest := mem_collapse.mp hc
    refine ⟨hfirst c hmem, ?_⟩
    rintro rfl
    -- What equals the first lies no further than the second, which differs from it.
    rcases List.mem_cons.mp hmem with rfl | hc
    · exact hab rfl
    · exact hab (hanti a b (hfirst b List.mem_cons_self) ((List.pairwise_cons.mp hrest).1 a hc))

theorem pairwise_sortDistinct (htrans : ∀ a b c, le a b → le b c → le a c) (htotal : ∀ a b, le a b || le b a)
    (hanti : ∀ a b, le a b → le b a → a = b) (l : List α) :
    (sortDistinct le l).Pairwise fun a b => le a b ∧ a ≠ b :=
  pairwise_collapse hanti (List.pairwise_mergeSort htrans htotal l)

theorem sortDistinct_eq (htrans : ∀ a b c, le a b → le b c → le a c) (htotal : ∀ a b, le a b || le b a)
    (hanti : ∀ a b, le a b → le b a → a = b) {l sorted : List α} (hsorted : sorted.Pairwise fun a b => le a b ∧ a ≠ b)
    (hmem : ∀ a, a ∈ sortDistinct le l ↔ a ∈ sorted) : sortDistinct le l = sorted := by
  let lt : α → α → Prop := fun a b => le a b ∧ a ≠ b
  have hirrefl : Std.Irrefl lt := ⟨fun a h => h.2 rfl⟩
  have hantisymm : Std.Antisymm lt := ⟨fun a b hab hba => hanti a b hab.1 hba.1⟩
  have hfirst : (sortDistinct le l).Pairwise lt := pairwise_sortDistinct htrans htotal hanti l
  exact hfirst.eq_of_mem_iff hsorted hmem

end Sorting

theorem eq_of_pairwise_rank {α : Type} (rank : α → Nat) {l m : List α} (hl : l.Pairwise fun a b => rank a < rank b)
    (hm : m.Pairwise fun a b => rank a < rank b) (h : ∀ a, a ∈ l ↔ a ∈ m) : l = m := by
  let before : α → α → Prop := fun a b => rank a < rank b
  have hirrefl : Std.Irrefl before := ⟨fun a => Nat.lt_irrefl (rank a)⟩
  have hantisymm : Std.Antisymm before := ⟨fun a b hab hba => absurd hab (Nat.lt_asymm hba)⟩
  have hfirst : l.Pairwise before := hl
  exact hfirst.eq_of_mem_iff hm h

end FarmRegistry
