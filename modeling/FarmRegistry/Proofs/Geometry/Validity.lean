import FarmRegistry.Proofs.Geometry.Simple

namespace FarmRegistry

namespace Decimal

def value (x : Float) : ℚ :=
  units x / unitsOfNat 1

theorem twoTo_pos (n : ℕ) : 0 < twoTo n :=
  Nat.two_pow_pos n

theorem unitsOfNat_one_pos : 0 < unitsOfNat 1 := by
  have hpos := twoTo_pos 1074
  unfold unitsOfNat
  generalize twoTo 1074 = scale at hpos ⊢
  rw [Nat.one_mul]
  exact Int.natCast_pos.mpr hpos

theorem unitsOfNat_eq (n : ℕ) : unitsOfNat n = n * unitsOfNat 1 := by
  unfold unitsOfNat
  generalize twoTo 1074 = scale
  rw [Nat.one_mul, Nat.cast_mul]

theorem isWithin_iff {x : Float} {bound : ℕ} :
    isWithin x bound ↔ isFinite x ∧ -(bound : ℚ) ≤ value x ∧ value x ≤ bound := by
  have hpos : (0 : ℚ) < unitsOfNat 1 := Int.cast_pos.mpr unitsOfNat_one_pos
  unfold isWithin value
  rw [unitsOfNat_eq bound]
  generalize unitsOfNat 1 = one at hpos ⊢
  rw [le_div_iff₀ hpos, div_le_iff₀ hpos, neg_mul]
  simp only [Bool.and_eq_true, decide_eq_true_eq, and_assoc]
  norm_cast

end Decimal

def Vertex.InRange (v : Vertex) : Prop :=
  (Decimal.isFinite v.lng ∧ -180 ≤ Decimal.value v.lng ∧ Decimal.value v.lng ≤ 180) ∧
    Decimal.isFinite v.lat ∧ -90 ≤ Decimal.value v.lat ∧ Decimal.value v.lat ≤ 90

theorem Vertex.isOnGlobe_iff {v : Vertex} : v.isOnGlobe ↔ v.InRange := by
  rw [isOnGlobe, Bool.and_eq_true, Decimal.isWithin_iff, Decimal.isWithin_iff]
  rfl

namespace Ring

variable {ring : Ring} {v : Vertex} {i k : ℕ} {e : RingDefect}

def distinct (ring : Ring) : List Point :=
  (ring.map Vertex.point).destutter (· ≠ ·)

theorem corners_eq (ring : Ring) : ring.corners = ring.distinct :=
  collapse_eq_destutter _

theorem length_corners_le (ring : Ring) : ring.corners.length ≤ ring.length := by
  rw [corners, collapse_eq_destutter, ← List.length_map Vertex.point]
  exact (List.destutter_sublist _ _).length_le

def EndsWhereBegun (ring : Ring) : Prop :=
  (ring.map Vertex.point).head? = (ring.map Vertex.point).getLast?

theorem isClosed_iff : ring.isClosed ↔ ring.EndsWhereBegun := by
  rw [EndsWhereBegun, List.head?_map, List.getLast?_map, isClosed, decide_eq_true_eq]

theorem endsWhereBegun_iff : ring.EndsWhereBegun ↔ ring.corners.head? = ring.corners.getLast? := by
  rw [corners, head?_collapse, getLast?_collapse, EndsWhereBegun]

structure IsOutline (ring : Ring) : Prop where
  enough : 4 ≤ ring.length
  inRange : ∀ v ∈ ring, v.InRange
  closed : ring.EndsWhereBegun
  cornered : 4 ≤ ring.distinct.length

theorem isOutline_iff : ring.IsOutline ↔
    (∀ v ∈ ring, v.InRange) ∧ ring.EndsWhereBegun ∧ 4 ≤ ring.corners.length := by
  rw [corners_eq]
  constructor
  · intro h
    exact ⟨h.inRange, h.closed, h.cornered⟩
  · rintro ⟨hin, hclosed, hcornered⟩
    exact ⟨hcornered.trans (corners_eq ring ▸ length_corners_le ring), hin, hclosed, hcornered⟩

structure IsSimpleClosed (ring : Ring) : Prop extends IsOutline ring where
  simple : ∀ i j, i < j → edge ring.distinct i ∩ edge ring.distinct j ⊆ sharedCorner ring.distinct i j

/-- The first fault of a ring, in the order in which they are looked for. -/
inductive FirstFault (ring : Ring) : RingDefect → Prop
  | few : ring.length < 4 → FirstFault ring (.tooFewPoints ring.length)
  | offGlobe {i : ℕ} {v : Vertex} : 4 ≤ ring.length → ring[i]? = some v → ¬v.InRange →
      (∀ k w, k < i → ring[k]? = some w → w.InRange) → FirstFault ring (.coordinateOutOfRange i v)
  | unclosed : 4 ≤ ring.length → (∀ v ∈ ring, v.InRange) → ¬ring.EndsWhereBegun → FirstFault ring .unclosedRing
  | fewDistinct : 4 ≤ ring.length → (∀ v ∈ ring, v.InRange) → ring.EndsWhereBegun → ring.distinct.length < 4 →
      FirstFault ring (.tooFewPoints ring.distinct.length)
  | crossing {i j : ℕ} : ring.IsOutline → Offend ring.distinct i j →
      (∀ k l, Offend ring.distinct k l → i < k ∨ i = k ∧ j ≤ l) → FirstFault ring (.selfIntersecting i j)

theorem firstOffGlobe_eq_none_iff : firstOffGlobe i ring = none ↔ ∀ v ∈ ring, v.InRange := by
  induction ring generalizing i with
  | nil => simp [firstOffGlobe]
  | cons v rest ih =>
    rw [firstOffGlobe, List.forall_mem_cons]
    by_cases hv : v.InRange
    · rw [if_pos (Vertex.isOnGlobe_iff.mpr hv), ih]
      exact (and_iff_right hv).symm
    · rw [if_neg (mt Vertex.isOnGlobe_iff.mp hv)]
      simp [hv]

theorem firstOffGlobe_eq_some_iff :
    firstOffGlobe i ring = some (k, v) ↔ ∃ n, k = i + n ∧ ring[n]? = some v ∧ ¬v.InRange ∧
      ∀ m w, m < n → ring[m]? = some w → w.InRange := by
  induction ring generalizing i with
  | nil => simp [firstOffGlobe]
  | cons u rest ih =>
    rw [firstOffGlobe]
    by_cases hu : u.InRange
    · rw [if_pos (Vertex.isOnGlobe_iff.mpr hu), ih]
      constructor
      · rintro ⟨n, rfl, hv, hout, hbefore⟩
        refine ⟨n + 1, by omega, hv, hout, ?_⟩
        rintro (_ | m) w hm hw
        · cases hw
          exact hu
        · exact hbefore m w (by omega) hw
      · rintro ⟨_ | n, rfl, hv, hout, hbefore⟩
        · cases hv
          exact absurd hu hout
        · exact ⟨n, by omega, hv, hout, fun m w hm hw => hbefore (m + 1) w (by omega) hw⟩
    · rw [if_neg (mt Vertex.isOnGlobe_iff.mp hu), Option.some.injEq, Prod.mk.injEq]
      constructor
      · rintro ⟨rfl, rfl⟩
        exact ⟨0, rfl, rfl, hu, fun m w hm => absurd hm (Nat.not_lt_zero m)⟩
      · rintro ⟨_ | n, rfl, hv, hout, hbefore⟩
        · cases hv
          exact ⟨rfl, rfl⟩
        · exact absurd (hbefore 0 u (Nat.succ_pos n) rfl) hu

theorem IsOutline.defect_eq (h : ring.IsOutline) : ring.defect =
    (firstConflict (edges ring.corners).length 0 (edges ring.corners)).map fun (i, j) => .selfIntersecting i j := by
  have hcorners : ¬ring.corners.length < 4 := by
    rw [corners_eq]
    exact h.cornered.not_gt
  unfold defect
  rw [if_neg h.enough.not_gt, firstOffGlobe_eq_none_iff.mpr h.inRange]
  simp [isClosed_iff.mpr h.closed, hcorners]

theorem defect_of_fault (h : ring.FirstFault e) (hother : ∀ i j, e ≠ .selfIntersecting i j) : ring.defect = some e := by
  unfold defect
  cases h with
  | few hfew => rw [if_pos hfew]
  | offGlobe henough hv hout hbefore =>
    have hfirst := firstOffGlobe_eq_some_iff.mpr ⟨_, (Nat.zero_add _).symm, hv, hout, hbefore⟩
    rw [if_neg henough.not_gt, hfirst]
  | unclosed henough hin hopen =>
    rw [if_neg henough.not_gt, firstOffGlobe_eq_none_iff.mpr hin]
    simp [mt isClosed_iff.mp hopen]
  | fewDistinct henough hin hclosed hfew =>
    rw [if_neg henough.not_gt, firstOffGlobe_eq_none_iff.mpr hin]
    simp [isClosed_iff.mpr hclosed, corners_eq, hfew]
  | crossing => exact absurd rfl (hother _ _)

theorem outline_or_fault :
    ring.IsOutline ∨ ∃ e, ring.FirstFault e ∧ ring.defect = some e ∧ ∀ i j, e ≠ .selfIntersecting i j := by
  have hfaulty {e : RingDefect} (hfault : ring.FirstFault e) (hother : ∀ i j, e ≠ .selfIntersecting i j) :
      ∃ e, ring.FirstFault e ∧ ring.defect = some e ∧ ∀ i j, e ≠ .selfIntersecting i j :=
    ⟨e, hfault, defect_of_fault hfault hother, hother⟩
  by_cases henough : ring.length < 4
  · exact .inr (hfaulty (.few henough) (by simp))
  have henough := Nat.not_lt.mp henough
  cases hfirst : firstOffGlobe 0 ring with
  | some iv =>
    obtain ⟨n, _, hv, hout, hbefore⟩ := firstOffGlobe_eq_some_iff.mp hfirst
    exact .inr (hfaulty (.offGlobe henough hv hout hbefore) (by simp))
  | none =>
    have hin := firstOffGlobe_eq_none_iff.mp hfirst
    by_cases hclosed : ring.EndsWhereBegun
    · by_cases hfew : ring.distinct.length < 4
      · exact .inr (hfaulty (.fewDistinct henough hin hclosed hfew) (by simp))
      · exact .inl ⟨henough, hin, hclosed, Nat.not_lt.mp hfew⟩
    · exact .inr (hfaulty (.unclosed henough hin hclosed) (by simp))

theorem isOutline_of_defect (h : ∀ e, ring.defect = some e → ∃ i j, e = .selfIntersecting i j) : ring.IsOutline := by
  rcases outline_or_fault with houtline | ⟨e, _, hdefect, hother⟩
  · exact houtline
  · obtain ⟨i, j, he⟩ := h e hdefect
    exact absurd he (hother i j)

theorem defect_eq_none : ring.defect = none ↔ ring.IsOutline ∧ Untangled (edges ring.corners) := by
  constructor
  · intro h
    have houtline : ring.IsOutline := isOutline_of_defect (by simp [h])
    rw [houtline.defect_eq, Option.map_eq_none_iff, firstConflict_eq_none_iff] at h
    exact ⟨houtline, h⟩
  · rintro ⟨houtline, h⟩
    rw [houtline.defect_eq, firstConflict_eq_none_iff.mpr h, Option.map_none]

theorem defect_eq_selfIntersecting {i j : ℕ} : ring.defect = some (.selfIntersecting i j) ↔ ring.IsOutline ∧
    Tangled (edges ring.corners) i j ∧ ∀ k l, Tangled (edges ring.corners) k l → i < k ∨ i = k ∧ j ≤ l := by
  rw [← firstConflict_eq_some_iff]
  constructor
  · intro h
    have houtline : ring.IsOutline := isOutline_of_defect fun e he => ⟨i, j, Option.some.inj (he.symm.trans h)⟩
    rw [houtline.defect_eq, Option.map_eq_some_iff] at h
    obtain ⟨⟨i', j'⟩, hfirst, hnumbers⟩ := h
    cases hnumbers
    exact ⟨houtline, hfirst⟩
  · rintro ⟨houtline, hfirst⟩
    rw [houtline.defect_eq, hfirst, Option.map_some]

section Described

variable (hdescribed : (∀ v ∈ ring, v.InRange) →
  (edges ring.corners).Pairwise fun s t => (s.meeting t).Describes (s.carrier ∩ t.carrier))
include hdescribed

theorem IsOutline.tangled_iff (h : ring.IsOutline) {i j : ℕ} :
    Tangled (edges ring.corners) i j ↔ Offend ring.distinct i j := by
  have hends := endsWhereBegun_iff.mp h.closed
  have hdescribed := hdescribed h.inRange
  rw [corners_eq] at hends hdescribed ⊢
  exact tangled_iff_offend hends h.cornered hdescribed

theorem defect_eq_none_iff : ring.defect = none ↔ ring.IsSimpleClosed := by
  rw [defect_eq_none]
  constructor
  · rintro ⟨houtline, hfree⟩
    simp only [Untangled, houtline.tangled_iff hdescribed, Offend, not_and, not_not] at hfree
    exact ⟨houtline, hfree⟩
  · rintro ⟨houtline, hsimple⟩
    simp only [Untangled, houtline.tangled_iff hdescribed, Offend, not_and, not_not]
    exact ⟨houtline, hsimple⟩

theorem defect_eq_some_iff : ring.defect = some e ↔ ring.FirstFault e := by
  have hcrossing (h : ring.IsOutline) (i j : ℕ) : ring.defect = some (.selfIntersecting i j) ↔
      Offend ring.distinct i j ∧ ∀ k l, Offend ring.distinct k l → i < k ∨ i = k ∧ j ≤ l := by
    rw [defect_eq_selfIntersecting, and_iff_right h]
    simp only [h.tangled_iff hdescribed]
  constructor
  · intro h
    rcases outline_or_fault with houtline | ⟨e', hfault, hdefect, _⟩
    · have hmap := h
      rw [houtline.defect_eq, Option.map_eq_some_iff] at hmap
      obtain ⟨⟨i, j⟩, _, rfl⟩ := hmap
      obtain ⟨hoffend, hleast⟩ := (hcrossing houtline i j).mp h
      exact .crossing houtline hoffend hleast
    · rw [hdefect, Option.some.injEq] at h
      exact h ▸ hfault
  · intro h
    by_cases hother : ∃ i j, e = .selfIntersecting i j
    · obtain ⟨i, j, rfl⟩ := hother
      cases h with
      | crossing houtline hoffend hleast => exact (hcrossing houtline i j).mpr ⟨hoffend, hleast⟩
    · exact defect_of_fault h fun i j he => hother ⟨i, j, he⟩

end Described

/-- A ring is accepted if it is simple and closed, and else refused with its first fault. -/
theorem ofRing_decides (ring : Ring) (hdescribed : (∀ v ∈ ring, v.InRange) →
      (edges ring.corners).Pairwise fun s t => (s.meeting t).Describes (s.carrier ∩ t.carrier)) :
    ((∃ p, Polygon.ofRing ring = .ok p ∧ p.ring = ring) ↔ ring.IsSimpleClosed) ∧
      ∀ e, Polygon.ofRing ring = .error e ↔ ring.FirstFault e := by
  refine ⟨?_, fun e => Polygon.ofRing_eq_error_iff.trans (defect_eq_some_iff hdescribed)⟩
  rw [← defect_eq_none_iff hdescribed]
  constructor
  · rintro ⟨p, -, rfl⟩
    exact p.sound
  · intro h
    exact ⟨⟨ring, h⟩, Polygon.ofRing_eq_ok_iff.mpr rfl, rfl⟩

theorem ofRing_with_repeats :
    let ring : Ring := [⟨0, 0⟩, ⟨0, 0⟩, ⟨1, 0⟩, ⟨2, 0⟩, ⟨2, 2⟩, ⟨2, 2⟩, ⟨-0, 0⟩]
    (edges ring.corners).Pairwise (fun s t => (s.meeting t).Describes (s.carrier ∩ t.carrier)) ∧
      ring.IsSimpleClosed := by
  intro ring
  have htold : ring.TurnsTold := turnsTold_of_isCoarse (by decide +kernel)
  have hdescribed := htold.corners_described
  exact ⟨hdescribed, (ofRing_decides ring fun _ => hdescribed).1.mp
    ⟨⟨ring, by decide +kernel⟩, Polygon.ofRing_eq_ok_iff.mpr rfl, rfl⟩⟩

end Ring

end FarmRegistry
