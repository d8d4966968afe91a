import FarmRegistry.Proofs.Geometry.Simple
import FarmRegistry.Geometry.Winding

namespace FarmRegistry

theorem between_of_proportional {u v u' v' : ℤ} (h : u * v' = v * u') (hu : 0 < u) (hle : u ≤ u') :
    0 ≤ v ∧ v ≤ v' ∨ v' ≤ v ∧ v ≤ 0 := by
  rcases le_total 0 v' with hv | hv
  · have hnonneg : 0 ≤ v * u' := h ▸ mul_nonneg hu.le hv
    have hbound : v * u' ≤ v' * u' := by nlinarith
    exact .inl ⟨nonneg_of_mul_nonneg_left hnonneg (by omega), le_of_mul_le_mul_right hbound (by omega)⟩
  · have hnonpos : v * u' ≤ 0 * u' := by nlinarith
    have hbound : v' * u' ≤ v * u' := by nlinarith
    exact .inr ⟨le_of_mul_le_mul_right hbound (by omega), le_of_mul_le_mul_right hnonpos (by omega)⟩

namespace Point

variable {a b m q : Point}

theorem isBefore_iff : a.isBefore b ↔ a.x < b.x ∨ a.x = b.x ∧ a.y < b.y := by
  simp only [isBefore, Bool.or_eq_true, Bool.and_eq_true, decide_eq_true_eq]

theorem eq_of_not_isBefore (hab : ¬a.isBefore b) (hba : ¬b.isBefore a) : a = b := by
  rw [isBefore_iff] at hab hba
  obtain ⟨x, y⟩ := a
  obtain ⟨x', y'⟩ := b
  rw [mk.injEq]
  simp only at hab hba
  omega

theorem isBefore_of_ne (h : ¬a.isBefore m) (hne : a ≠ m) : m.isBefore a := by
  by_contra hm
  exact hne (eq_of_not_isBefore h hm)

theorem not_isBefore_self (a : Point) : ¬a.isBefore a := by
  rw [isBefore_iff]
  omega

theorem isBefore_asymm (h : a.isBefore b) : ¬b.isBefore a := by
  rw [isBefore_iff] at *
  omega

theorem not_isBefore_trans {c : Point} (hab : ¬a.isBefore b) (hbc : ¬b.isBefore c) : ¬a.isBefore c := by
  rw [isBefore_iff] at *
  omega

theorem ne_of_isBefore (h : m.isBefore a) : m ≠ a := by
  rintro rfl
  exact not_isBefore_self m h

theorem turn_reverse (a m b : Point) : turn b m a = -turn a m b := by
  unfold turn
  ring

theorem mem_carrier_of_straight (ha : m.isBefore a) (hb : m.isBefore b) (hturn : turn a m b = 0) :
    a.position ∈ Segment.carrier ⟨m, b⟩ ∨ b.position ∈ Segment.carrier ⟨m, a⟩ := by
  have hturn' : turn m b a = 0 := by
    rw [← hturn]
    unfold turn
    ring
  have hturn'' : turn m a b = 0 := by
    rw [← Int.neg_eq_zero, ← hturn]
    unfold turn
    ring
  rw [← Segment.boxHolds_iff (ne_of_isBefore hb) hturn', ← Segment.boxHolds_iff (ne_of_isBefore ha) hturn'',
    Segment.boxHolds_iff_between, Segment.boxHolds_iff_between]
  dsimp only
  rw [isBefore_iff] at ha hb
  have hproportional : (a.x - m.x) * (b.y - m.y) = (a.y - m.y) * (b.x - m.x) := by
    unfold turn at hturn
    linarith
  by_cases hax : a.x = m.x
  · have hbx : b.x = m.x := by
      rw [hax, sub_self, zero_mul, zero_eq_mul] at hproportional
      omega
    omega
  by_cases hbx : b.x = m.x
  · rw [hbx, sub_self, mul_zero, mul_eq_zero] at hproportional
    omega
  rcases le_total a.x b.x with hle | hle
  · have hbetween := between_of_proportional hproportional (by omega) (by omega)
    omega
  · have hswapped : (b.x - m.x) * (a.y - m.y) = (b.y - m.y) * (a.x - m.x) := by linarith
    have hbetween := between_of_proportional hswapped (by omega) (by omega)
    omega

end Point

namespace Ring

variable {round others : List Point} {a b m q : Point} {n : ℕ}

/-- The least point `m` of a round, with the nearest points before and after it that are not the same. -/
structure LeastCorner (round : List Point) (a m b : Point) : Prop where
  around : ∃ n others, round.IsRotated (List.replicate (n + 1) m ++ others) ∧
    others.head? = some b ∧ others.getLast? = some a
  before : a ≠ m
  after : b ≠ m
  least : ∀ q ∈ round, ¬q.isBefore m

theorem LeastCorner.reverse (h : LeastCorner round a m b) : LeastCorner round.reverse b m a := by
  obtain ⟨n, others, hrotated, hb, ha⟩ := h.around
  refine ⟨⟨n, others.reverse, ?_, ?_, ?_⟩, h.after, h.before, ?_⟩
  · have hreversed := hrotated.reverse
    rw [List.reverse_append, List.reverse_replicate] at hreversed
    exact hreversed.trans List.isRotated_append
  · rw [List.head?_reverse, ha]
  · rw [List.getLast?_reverse, hb]
  · intro q hq
    exact h.least q (List.mem_reverse.mp hq)

theorem LeastCorner.isRotated {round' : List Point} (h : LeastCorner round a m b) (hrotated : round.IsRotated round') :
    LeastCorner round' a m b := by
  obtain ⟨n, others, haround, hends⟩ := h.around
  refine ⟨⟨n, others, hrotated.symm.trans haround, hends⟩, h.before, h.after, ?_⟩
  intro q hq
  exact h.least q (hrotated.mem_iff.mpr hq)

theorem LeastCorner.mem (h : LeastCorner round a m b) : a ∈ round ∧ m ∈ round ∧ b ∈ round := by
  obtain ⟨n, others, hrotated, hb, ha⟩ := h.around
  simp only [hrotated.mem_iff, List.mem_append, List.mem_replicate]
  exact ⟨.inr (List.mem_of_mem_getLast? ha), .inl ⟨Nat.succ_ne_zero n, trivial⟩, .inr (List.mem_of_mem_head? hb)⟩

theorem least_spec (p : Point) (rest : List Point) :
    least p rest ∈ p :: rest ∧ ∀ q ∈ p :: rest, ¬q.isBefore (least p rest) := by
  induction rest generalizing p with
  | nil => exact ⟨List.mem_singleton_self p, List.forall_mem_singleton.mpr (Point.not_isBefore_self p)⟩
  | cons r rest ih =>
    -- What the search goes on with is one of the first two points, and neither is before it.
    have hstep : ∃ p', least p (r :: rest) = least p' rest ∧ (p' = p ∨ p' = r) ∧ ¬p.isBefore p' ∧ ¬r.isBefore p' := by
      refine ⟨_, rfl, ?_⟩
      by_cases h : r.isBefore p
      · rw [if_pos h]
        exact ⟨.inr rfl, Point.isBefore_asymm h, Point.not_isBefore_self r⟩
      · rw [if_neg h]
        exact ⟨.inl rfl, Point.not_isBefore_self p, h⟩
    obtain ⟨p', hleast, hp', hp, hr⟩ := hstep
    obtain ⟨hmem, hbefore⟩ := ih p'
    rw [hleast]
    constructor
    · rcases hp' with rfl | rfl <;> grind
    · have hfirst := hbefore p' List.mem_cons_self
      simp only [List.forall_mem_cons] at hbefore ⊢
      exact ⟨Point.not_isBefore_trans hp hfirst, Point.not_isBefore_trans hr hfirst, hbefore.2⟩

theorem exists_run (m : Point) (rest : List Point) :
    ∃ n others, m :: rest = List.replicate (n + 1) m ++ others ∧ others.head? ≠ some m := by
  induction rest with
  | nil => exact ⟨0, [], rfl, nofun⟩
  | cons q rest ih =>
    by_cases hq : q = m
    · obtain ⟨n, others, hrun, hhead⟩ := ih
      refine ⟨n + 1, others, ?_, hhead⟩
      rw [hq, hrun]
      rfl
    · refine ⟨0, q :: rest, rfl, ?_⟩
      rw [List.head?_cons, ne_eq, Option.some.injEq]
      exact hq

theorem exists_around (hm : m ∈ round) (hq : q ∈ round) (hne : q ≠ m) :
    ∃ a b n others, round.IsRotated (List.replicate (n + 1) m ++ others) ∧
      others.head? = some b ∧ others.getLast? = some a ∧ a ≠ m ∧ b ≠ m := by
  obtain ⟨s, t, rfl⟩ := List.append_of_mem hq
  have hrest : m ∈ t ++ s := by grind
  obtain ⟨before, after, hsplit, hbefore⟩ := List.eq_append_cons_of_mem hrest
  obtain ⟨n, others, hrun, hhead⟩ := exists_run m after
  have hrotated : (s ++ q :: t).IsRotated (List.replicate (n + 1) m ++ (others ++ q :: before)) := by
    rw [← List.append_assoc, ← hrun]
    refine List.isRotated_append.trans ?_
    rw [List.cons_append, hsplit, ← List.cons_append]
    exact List.isRotated_append
  have hlast : (others ++ q :: before).getLast? = some ((q :: before).getLast (List.cons_ne_nil _ _)) := by
    rw [List.getLast?_append_cons, List.getLast?_eq_some_getLast]
  have hlastne : (q :: before).getLast (List.cons_ne_nil _ _) ≠ m := by
    intro h
    rcases List.mem_cons.mp (h ▸ List.getLast_mem _) with hm | hm
    · exact hne hm.symm
    · exact hbefore hm
  cases others with
  | nil => exact ⟨_, q, n, _, hrotated, rfl, hlast, hlastne, hne⟩
  | cons b others => exact ⟨_, b, n, _, hrotated, rfl, hlast, hlastne, fun h => hhead (congrArg some h)⟩

theorem exists_leastCorner (hq : q ∈ round) (ha : a ∈ round) (hne : q ≠ a) : ∃ a m b, LeastCorner round a m b := by
  obtain ⟨p, rest, rfl⟩ := List.exists_cons_of_ne_nil (List.ne_nil_of_mem hq)
  obtain ⟨hmem, hbefore⟩ := least_spec p rest
  have hother : ∃ r ∈ p :: rest, r ≠ least p rest := by
    by_cases hm : q = least p rest
    · exact ⟨a, ha, fun h => hne (hm.trans h.symm)⟩
    · exact ⟨q, hq, hm⟩
  obtain ⟨r, hr, hne⟩ := hother
  obtain ⟨a, b, n, others, hrotated, hb, ha, hma, hmb⟩ := exists_around hmem hr hne
  exact ⟨a, _, b, ⟨n, others, hrotated, hb, ha⟩, hma, hmb, hbefore⟩

theorem collapse_around (hb : others.head? = some b) (ha : others.getLast? = some a) (hbm : b ≠ m) (ham : a ≠ m) :
    collapse (closedUp (List.replicate (n + 1) m ++ others)) = m :: collapse others ++ [m] := by
  obtain ⟨rest, rfl⟩ := List.head?_eq_some_iff.mp hb
  have hclosed : closedUp (List.replicate (n + 1) m ++ b :: rest) = List.replicate (n + 1) m ++ (b :: rest ++ [m]) := by
    rw [closedUp, List.append_assoc]
    rfl
  have hhead : (b :: rest ++ [m]).head? ≠ some m := by
    rw [List.cons_append, List.head?_cons, ne_eq, Option.some.injEq]
    exact hbm
  have hlast : (b :: rest).getLast? ≠ some m := by
    rw [ha, ne_eq, Option.some.injEq]
    exact ham
  rw [hclosed, collapse_replicate_append, collapse_cons, if_neg hhead, collapse_concat, if_neg hlast, List.cons_append]

theorem getElem?_around {k : ℕ} (h : others[k]? = some q) : (m :: others ++ [m])[k + 1]? = some q := by
  have hk := (List.getElem?_eq_some_iff.mp h).1
  rwa [List.cons_append, List.getElem?_cons_succ, List.getElem?_append_left hk]

theorem not_mem_of_simple (hsimple : ∀ i j, ¬Offend (m :: others ++ [m]) i j) (hb : others.head? = some b)
    (hne : b ≠ m) : m ∉ others := by
  intro hm
  obtain ⟨k, hk⟩ := List.mem_iff_getElem?.mp hm
  have hlength := (List.getElem?_eq_some_iff.mp hk).1
  obtain ⟨rest, rfl⟩ := List.head?_eq_some_iff.mp hb
  obtain ⟨k, rfl⟩ : ∃ l, k = l + 1 := by
    apply Nat.exists_eq_succ_of_ne_zero
    rintro rfl
    exact hne (Option.some.inj hk)
  -- The edge that ends at the second `m` has more in common with the first edge than a corner.
  refine hsimple 0 (k + 1) ⟨k.succ_pos, ?_⟩
  intro hshared
  have hfirst : m.position ∈ edge (m :: b :: rest ++ [m]) 0 := ⟨m, b, rfl, rfl, left_mem_segment ℝ _ _⟩
  have hlast : m.position ∈ edge (m :: b :: rest ++ [m]) (k + 1) :=
    ⟨_, m, getElem?_around (List.getElem?_eq_getElem (Nat.lt_of_succ_lt hlength)), getElem?_around hk,
      right_mem_segment ℝ _ _⟩
  rcases hshared ⟨hfirst, hlast⟩ with ⟨hnext, c, hc, hmc⟩ | ⟨⟨_, hend⟩, _⟩
  · have hk : k = 0 := by omega
    subst hk
    cases hc
    exact hne (Point.position_injective hmc.symm)
  · simp only [List.length_append, List.length_cons, List.length_nil] at hend hlength
    omega

theorem turn_ne_zero_of_simple (hsimple : ∀ i j, ¬Offend (m :: others ++ [m]) i j) (hlength : 2 ≤ others.length)
    (hb : others.head? = some b) (ha : others.getLast? = some a) (hma : m.isBefore a) (hmb : m.isBefore b) :
    Point.turn a m b ≠ 0 := by
  have hcommon {p : Point} (hfirst : p.position ∈ segment ℝ m.position b.position)
      (hlast : p.position ∈ segment ℝ a.position m.position) : p = m := by
    by_contra hne
    refine hsimple 0 others.length ⟨by omega, ?_⟩
    intro hshared
    have hpfirst : p.position ∈ edge (m :: others ++ [m]) 0 :=
      ⟨m, b, rfl, getElem?_around (List.head?_eq_getElem? ▸ hb), hfirst⟩
    have hplast : p.position ∈ edge (m :: others ++ [m]) others.length := by
      refine ⟨a, m, ?_, List.getElem?_concat_length, hlast⟩
      rw [List.getLast?_eq_getElem?] at ha
      rw [← Nat.sub_add_cancel (Nat.le_of_succ_le hlength)]
      exact getElem?_around ha
    rcases hshared ⟨hpfirst, hplast⟩ with ⟨hnext, _⟩ | ⟨_, c, hc, hpc⟩
    · omega
    · cases hc
      exact hne (Point.position_injective hpc)
  intro hturn
  rcases Point.mem_carrier_of_straight hma hmb hturn with hmem | hmem
  · exact Point.ne_of_isBefore hma (hcommon hmem (left_mem_segment ℝ _ _)).symm
  · refine Point.ne_of_isBefore hmb (hcommon (right_mem_segment ℝ _ _) ?_).symm
    rw [segment_symm]
    exact hmem

end Ring

end FarmRegistry
