import FarmRegistry.Proofs.Geometry.Edges

namespace FarmRegistry.Ring

variable {es rest : List Segment} {s t : Segment} {i j k l count : ℕ}

def Tangled (es : List Segment) (i j : ℕ) : Prop :=
  i < j ∧ ∃ s t, es[i]? = some s ∧ es[j]? = some t ∧ conflict (areNeighbours es.length i j) s t

def Untangled (es : List Segment) : Prop :=
  ∀ i j, ¬Tangled es i j

theorem drop_cons (h : es.drop j = t :: rest) : es[j]? = some t ∧ es.drop (j + 1) = rest := by
  constructor
  · rw [← List.head?_drop, h, List.head?_cons]
  · rw [← List.tail_drop, h, List.tail_cons]

theorem conflictAfter_none (hes : es.drop j = rest) (h : conflictAfter count i s j rest = none) (hk : j ≤ k)
    (ht : es[k]? = some t) : ¬conflict (areNeighbours count i k) s t := by
  induction rest generalizing j with
  | nil =>
    rw [List.getElem?_eq_none ((List.drop_eq_nil_iff.mp hes).trans hk)] at ht
    cases ht
  | cons u rest ih =>
    obtain ⟨hu, hrest⟩ := drop_cons hes
    rw [conflictAfter] at h
    split at h
    · cases h
    · rename_i hfree
      rcases hk.eq_or_lt with rfl | hlater
      · rw [hu] at ht
        cases ht
        exact hfree
      · exact ih hrest h hlater

theorem conflictAfter_some (hes : es.drop j = rest) (h : conflictAfter count i s j rest = some k) :
    j ≤ k ∧ (∃ t, es[k]? = some t ∧ conflict (areNeighbours count i k) s t) ∧
      ∀ m t, j ≤ m → m < k → es[m]? = some t → ¬conflict (areNeighbours count i m) s t := by
  induction rest generalizing j with
  | nil => cases h
  | cons u rest ih =>
    obtain ⟨hu, hrest⟩ := drop_cons hes
    rw [conflictAfter] at h
    split at h
    · rename_i hconflict
      cases h
      exact ⟨le_rfl, ⟨u, hu, hconflict⟩, fun m t hm hlt => absurd hm hlt.not_ge⟩
    · rename_i hfree
      obtain ⟨hle, hfound, hfirst⟩ := ih hrest h
      refine ⟨by omega, hfound, ?_⟩
      intro m t hm hlt ht
      rcases hm.eq_or_lt with rfl | hlater
      · rw [hu] at ht
        cases ht
        exact hfree
      · exact hfirst m t hlater hlt ht

theorem firstConflict_none (hes : es.drop k = rest) (h : firstConflict es.length k rest = none) (hk : k ≤ i) :
    ¬Tangled es i j := by
  induction rest generalizing k with
  | nil =>
    rintro ⟨_, s, _, hs, _⟩
    rw [List.getElem?_eq_none ((List.drop_eq_nil_iff.mp hes).trans hk)] at hs
    cases hs
  | cons u rest ih =>
    obtain ⟨hu, hrest⟩ := drop_cons hes
    rw [firstConflict] at h
    split at h
    · cases h
    · rename_i hfree
      rcases hk.eq_or_lt with rfl | hlater
      · rintro ⟨hij, s, t, hs, ht, hconflict⟩
        rw [hu] at hs
        cases hs
        exact conflictAfter_none hrest hfree hij ht hconflict
      · exact ih hrest h hlater

theorem firstConflict_some (hes : es.drop k = rest) (h : firstConflict es.length k rest = some (i, j)) :
    k ≤ i ∧ Tangled es i j ∧ ∀ m n, k ≤ m → Tangled es m n → i < m ∨ i = m ∧ j ≤ n := by
  induction rest generalizing k with
  | nil => cases h
  | cons u rest ih =>
    obtain ⟨hu, hrest⟩ := drop_cons hes
    rw [firstConflict] at h
    split at h
    · rename_i j' hafter
      cases h
      obtain ⟨hle, ⟨t, ht, hconflict⟩, hfirst⟩ := conflictAfter_some hrest hafter
      refine ⟨le_rfl, ⟨hle, u, t, hu, ht, hconflict⟩, ?_⟩
      rintro m n hm ⟨hmn, s, t', hs, ht', hconflict'⟩
      rcases hm.eq_or_lt with rfl | hlater
      · rw [hu] at hs
        cases hs
        refine .inr ⟨rfl, ?_⟩
        by_contra hlt
        exact hfirst n t' hmn (by omega) ht' hconflict'
      · exact .inl hlater
    · rename_i hfree
      obtain ⟨hle, htangled, hfirst⟩ := ih hrest h
      refine ⟨by omega, htangled, ?_⟩
      intro m n hm hmn
      rcases hm.eq_or_lt with rfl | hlater
      · obtain ⟨hlt, s, t, hs, ht, hconflict⟩ := hmn
        rw [hu] at hs
        cases hs
        exact absurd hconflict (conflictAfter_none hrest hfree hlt ht)
      · exact hfirst m n hlater hmn

theorem firstConflict_eq_none_iff : firstConflict es.length 0 es = none ↔ Untangled es := by
  constructor
  · intro h i j
    exact firstConflict_none List.drop_zero h (Nat.zero_le i)
  · intro h
    cases hfirst : firstConflict es.length 0 es with
    | none => rfl
    | some ij => exact absurd (firstConflict_some List.drop_zero hfirst).2.1 (h ij.1 ij.2)

theorem firstConflict_eq_some_iff :
    firstConflict es.length 0 es = some (i, j) ↔
      Tangled es i j ∧ ∀ m n, Tangled es m n → i < m ∨ i = m ∧ j ≤ n := by
  constructor
  · intro h
    obtain ⟨_, htangled, hfirst⟩ := firstConflict_some List.drop_zero h
    exact ⟨htangled, fun m n => hfirst m n (Nat.zero_le m)⟩
  · rintro ⟨htangled, hleast⟩
    cases hfound : firstConflict es.length 0 es with
    | none => exact absurd htangled (firstConflict_eq_none_iff.mp hfound i j)
    | some ij =>
      obtain ⟨i', j'⟩ := ij
      obtain ⟨_, htangled', hfirst⟩ := firstConflict_some List.drop_zero hfound
      have hle := hleast i' j' htangled'
      have hge := hfirst i j (Nat.zero_le i) htangled
      rw [Option.some.injEq, Prod.mk.injEq]
      omega

end FarmRegistry.Ring
