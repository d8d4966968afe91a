import FarmRegistry.Proofs.Geometry.Plane

namespace FarmRegistry

namespace Point

def position (p : Point) : ℝ × ℝ :=
  (p.x, p.y)

theorem position_injective : Function.Injective position := by
  rintro ⟨x, y⟩ ⟨x', y'⟩ h
  obtain ⟨hx, hy⟩ := Prod.mk.inj h
  rw [mk.injEq]
  exact ⟨Int.cast_injective hx, Int.cast_injective hy⟩

theorem side_position (a b c : Point) : Plane.side a.position b.position c.position = (turn a b c : ℤ) := by
  unfold Plane.side turn position
  push_cast
  ring

def IsTold (a b c : Point) : Prop :=
  (apparentTurn a b c).sign = (turn a b c).sign

variable {a b c : Point}

theorem isTold_of_isCoarse (ha : a.isCoarse) (hb : b.isCoarse) (hc : c.isCoarse) : IsTold a b c := by
  simp [IsTold, apparentTurn, ha, hb, hc]

theorem IsTold.pos_iff (h : IsTold a b c) : 0 < apparentTurn a b c ↔ 0 < turn a b c := by
  rw [← Int.sign_eq_one_iff_pos, h, Int.sign_eq_one_iff_pos]

theorem IsTold.neg_iff (h : IsTold a b c) : apparentTurn a b c < 0 ↔ turn a b c < 0 := by
  rw [← Int.sign_eq_neg_one_iff_neg, h, Int.sign_eq_neg_one_iff_neg]

theorem IsTold.eq_zero_iff (h : IsTold a b c) : apparentTurn a b c = 0 ↔ turn a b c = 0 := by
  rw [← Int.sign_eq_zero_iff_zero, h, Int.sign_eq_zero_iff_zero]

end Point

/-- A meeting that tells rightly what two segments have in common. -/
def Meeting.Describes : Meeting → Set (ℝ × ℝ) → Prop
  | .apart, common => common = ∅
  | .point, common => ∃ p, common = {p}
  | .stretch, common => common.Nontrivial

namespace Segment

variable {s t : Segment}

def carrier (s : Segment) : Set (ℝ × ℝ) :=
  segment ℝ s.start.position s.finish.position

theorem boxHolds_iff_between {p : Point} :
    s.boxHolds p ↔ (s.start.x ≤ p.x ∧ p.x ≤ s.finish.x ∨ s.finish.x ≤ p.x ∧ p.x ≤ s.start.x) ∧
      (s.start.y ≤ p.y ∧ p.y ≤ s.finish.y ∨ s.finish.y ≤ p.y ∧ p.y ≤ s.start.y) := by
  unfold boxHolds minX maxX minY maxY
  simp only [Bool.and_eq_true, decide_eq_true_eq]
  omega

theorem bounds_of_mem {p : ℝ × ℝ} (h : p ∈ s.carrier) :
    (s.minX ≤ p.1 ∧ p.1 ≤ s.maxX) ∧ s.minY ≤ p.2 ∧ p.2 ≤ s.maxY := by
  obtain ⟨t, h0, h1, hx, hy⟩ := Plane.mem_segment_iff.mp h
  have hxs := Plane.share_between (x := s.start.x) (y := s.finish.x) h0 h1
  have hys := Plane.share_between (x := s.start.y) (y := s.finish.y) h0 h1
  simp only [Point.position] at hx hy
  rw [hx, hy, minX, maxX, minY, maxY]
  push_cast
  grind

theorem boxHolds_of_mem {p : Point} (h : p.position ∈ s.carrier) : s.boxHolds p := by
  have hbounds := bounds_of_mem h
  simp only [Point.position] at hbounds
  norm_cast at hbounds
  simp only [boxHolds, Bool.and_eq_true, decide_eq_true_eq]
  exact ⟨⟨hbounds.1, hbounds.2.1⟩, hbounds.2.2⟩

theorem between_mul_bounds {x y z : Int} (h : x ≤ z ∧ z ≤ y ∨ y ≤ z ∧ z ≤ x) :
    0 ≤ (y - x) * (z - x) ∧ (y - x) * (z - x) ≤ (y - x) * (y - x) := by
  rcases h with ⟨hlo, hhi⟩ | ⟨hlo, hhi⟩
  · exact ⟨by nlinarith, by nlinarith⟩
  · exact ⟨by nlinarith, by nlinarith⟩

theorem boxHolds_iff {p : Point} (hs : s.start ≠ s.finish) (hturn : Point.turn s.start s.finish p = 0) :
    s.boxHolds p ↔ p.position ∈ s.carrier := by
  refine ⟨?_, boxHolds_of_mem⟩
  intro h
  obtain ⟨hx, hy⟩ := boxHolds_iff_between.mp h
  have hxs := between_mul_bounds hx
  have hys := between_mul_bounds hy
  rw [carrier, Plane.mem_segment_self_line (Point.position_injective.ne hs)]
  refine ⟨by rw [Point.side_position, hturn, Int.cast_zero], ?_⟩
  simp only [Plane.progress, Point.position]
  exact_mod_cast And.intro (add_nonneg hxs.1 hys.1) (add_le_add hxs.2 hys.2)

theorem start_mem_carrier (s : Segment) : s.start.position ∈ s.carrier :=
  left_mem_segment ℝ _ _

theorem finish_mem_carrier (s : Segment) : s.finish.position ∈ s.carrier :=
  right_mem_segment ℝ _ _

theorem end_mem_carrier {p : Point} (h : p = s.start ∨ p = s.finish) : p.position ∈ s.carrier := by
  rcases h with rfl | rfl
  · exact s.start_mem_carrier
  · exact s.finish_mem_carrier

theorem heldEnds_cases (hs : s.start ≠ s.finish) (h : Point.turn s.start s.finish t.start = 0)
    (h' : Point.turn s.start s.finish t.finish = 0) :
    heldEnds s t = [t.start, t.finish] ∧ t.start.position ∈ s.carrier ∧ t.finish.position ∈ s.carrier ∨
      (∃ p, heldEnds s t = [p] ∧ (p = t.start ∨ p = t.finish) ∧ p.position ∈ s.carrier ∧
        ¬(t.start.position ∈ s.carrier ∧ t.finish.position ∈ s.carrier)) ∨
      heldEnds s t = [] ∧ ¬(t.start.position ∈ s.carrier ∨ t.finish.position ∈ s.carrier) := by
  rw [← boxHolds_iff hs h, ← boxHolds_iff hs h']
  unfold heldEnds
  by_cases hstart : s.boxHolds t.start
  · by_cases hfinish : s.boxHolds t.finish
    · exact .inl ⟨by simp [hstart, hfinish], hstart, hfinish⟩
    · exact .inr (.inl ⟨t.start, by simp [hstart, hfinish], .inl rfl, (boxHolds_iff hs h).mp hstart, by tauto⟩)
  · by_cases hfinish : s.boxHolds t.finish
    · exact .inr (.inl ⟨t.finish, by simp [hstart, hfinish], .inr rfl, (boxHolds_iff hs h').mp hfinish, by tauto⟩)
    · exact .inr (.inr ⟨by simp [hstart, hfinish], by tauto⟩)

theorem meetingInLine_describes (hs : s.start ≠ s.finish) (ht : t.start ≠ t.finish)
    (hst : Point.turn s.start s.finish t.start = 0) (hst' : Point.turn s.start s.finish t.finish = 0)
    (hts : Point.turn t.start t.finish s.start = 0) (hts' : Point.turn t.start t.finish s.finish = 0) :
    (meetingInLine s t).Describes (s.carrier ∩ t.carrier) := by
  have hne := Point.position_injective.ne hs
  have hne' := Point.position_injective.ne ht
  have hside : Plane.side s.start.position s.finish.position t.start.position = 0 := by
    rw [Point.side_position, hst, Int.cast_zero]
  have hside' : Plane.side s.start.position s.finish.position t.finish.position = 0 := by
    rw [Point.side_position, hst', Int.cast_zero]
  unfold meetingInLine
  rcases heldEnds_cases hs hst hst' with ⟨hl, hstart, hfinish⟩ | hl
  · rw [hl]
    exact ⟨_, ⟨hstart, t.start_mem_carrier⟩, _, ⟨hfinish, t.finish_mem_carrier⟩, hne'⟩
  rcases heldEnds_cases ht hts hts' with ⟨hl', hstart, hfinish⟩ | hl'
  · have hstretch : (s.carrier ∩ t.carrier).Nontrivial :=
      ⟨_, ⟨s.start_mem_carrier, hstart⟩, _, ⟨s.finish_mem_carrier, hfinish⟩, hne⟩
    rcases hl with ⟨p, hl, _⟩ | ⟨hl, _⟩ <;> rw [hl, hl'] <;> exact hstretch
  -- Neither lies on the other, so what they share has an end of each.
  have hempty (hnot : ¬(t.start.position ∈ s.carrier ∧ t.finish.position ∈ s.carrier))
      (hnot' : ¬(s.start.position ∈ t.carrier ∧ s.finish.position ∈ t.carrier))
      (hnone : ¬((t.start.position ∈ s.carrier ∨ t.finish.position ∈ s.carrier) ∧
        (s.start.position ∈ t.carrier ∨ s.finish.position ∈ t.carrier))) : s.carrier ∩ t.carrier = ∅ := by
    refine Set.eq_empty_iff_forall_notMem.mpr ?_
    rintro r ⟨hrs, hrt⟩
    exact hnone (Plane.ends_of_common hne hside hside' hne' hrs hrt hnot hnot')
  rcases hl with ⟨p, hl, hp, hps, hnot⟩ | ⟨hl, hnone⟩
  · rcases hl' with ⟨q, hl', hq, hqt, hnot'⟩ | ⟨hl', hnone'⟩
    · rw [hl, hl']
      by_cases heq : p = q
      · subst heq
        simp only [if_pos]
        refine ⟨p.position, Set.eq_singleton_iff_unique_mem.mpr ⟨⟨hps, hqt⟩, ?_⟩⟩
        rintro r ⟨hrs, hrt⟩
        exact Plane.eq_of_common_end hne hside hside' hne' hrs hrt hnot hnot'
          (hp.imp (congrArg _) (congrArg _)) (hq.imp (congrArg _) (congrArg _))
      · simp only [if_neg heq]
        exact ⟨_, ⟨hps, end_mem_carrier hp⟩, _, ⟨end_mem_carrier hq, hqt⟩, Point.position_injective.ne heq⟩
    · rw [hl, hl']
      exact hempty hnot (fun h => hnone' (.inl h.1)) (fun h => hnone' h.2)
  · have hlonely := hempty (fun h => hnone (.inl h.1))
    rcases hl' with ⟨q, hl', _, _, hnot'⟩ | ⟨hl', hnone'⟩
    · rw [hl, hl']
      exact hlonely hnot' (fun h => hnone h.1)
    · rw [hl, hl']
      exact hlonely (fun h => hnone' (.inl h.1)) (fun h => hnone h.1)

structure TurnsTold (s t : Segment) : Prop where
  start : Point.IsTold s.start s.finish t.start
  finish : Point.IsTold s.start s.finish t.finish
  start' : Point.IsTold t.start t.finish s.start
  finish' : Point.IsTold t.start t.finish s.finish

theorem onOneSide_iff (h : Point.IsTold s.start s.finish t.start) (h' : Point.IsTold s.start s.finish t.finish) :
    s.onOneSide t ↔ 0 < Point.turn s.start s.finish t.start ∧ 0 < Point.turn s.start s.finish t.finish ∨
      Point.turn s.start s.finish t.start < 0 ∧ Point.turn s.start s.finish t.finish < 0 := by
  simp only [onOneSide, Bool.or_eq_true, Bool.and_eq_true, decide_eq_true_eq, h.pos_iff, h'.pos_iff, h.neg_iff,
    h'.neg_iff]

theorem onOneLine_iff (h : s.TurnsTold t) :
    s.onOneLine t ↔ Point.turn s.start s.finish t.start = 0 ∧ Point.turn s.start s.finish t.finish = 0 ∧
      Point.turn t.start t.finish s.start = 0 ∧ Point.turn t.start t.finish s.finish = 0 := by
  simp only [onOneLine, Bool.and_eq_true, decide_eq_true_eq, h.start.eq_zero_iff, h.finish.eq_zero_iff,
    h.start'.eq_zero_iff, h.finish'.eq_zero_iff, and_assoc]

theorem inter_of_boxes_apart (h : ¬s.boxesMeet t) : s.carrier ∩ t.carrier = ∅ := by
  refine Set.eq_empty_iff_forall_notMem.mpr ?_
  rintro p ⟨hs, ht⟩
  obtain ⟨⟨hwest, heast⟩, hsouth, hnorth⟩ := bounds_of_mem hs
  obtain ⟨⟨hwest', heast'⟩, hsouth', hnorth'⟩ := bounds_of_mem ht
  apply h
  simp only [boxesMeet, Bool.and_eq_true, decide_eq_true_eq]
  exact ⟨⟨⟨by exact_mod_cast hwest.trans heast', by exact_mod_cast hwest'.trans heast⟩,
    by exact_mod_cast hsouth.trans hnorth'⟩, by exact_mod_cast hsouth'.trans hnorth⟩

theorem inter_of_one_side (h : 0 < Point.turn s.start s.finish t.start ∧ 0 < Point.turn s.start s.finish t.finish ∨
    Point.turn s.start s.finish t.start < 0 ∧ Point.turn s.start s.finish t.finish < 0) :
    s.carrier ∩ t.carrier = ∅ := by
  refine Set.eq_empty_iff_forall_notMem.mpr ?_
  rintro p ⟨hs, ht⟩
  refine Plane.not_mem_of_one_side ?_ ht hs
  simp only [Point.side_position]
  exact_mod_cast h

theorem meeting_describes (hs : s.start ≠ s.finish) (ht : t.start ≠ t.finish) (h : s.TurnsTold t) :
    (s.meeting t).Describes (s.carrier ∩ t.carrier) := by
  have hst := onOneSide_iff h.start h.finish
  have hts := onOneSide_iff h.start' h.finish'
  unfold meeting
  split
  · rename_i hapart
    simp only [Bool.or_eq_true, Bool.not_eq_true', hst, hts] at hapart
    rcases hapart with (hboxes | hside) | hside
    · exact inter_of_boxes_apart (by simp [hboxes])
    · exact inter_of_one_side hside
    · rw [Set.inter_comm]
      exact inter_of_one_side hside
  rename_i hnear
  split
  · rename_i hline
    obtain ⟨h1, h2, h3, h4⟩ := (onOneLine_iff h).mp hline
    exact meetingInLine_describes hs ht h1 h2 h3 h4
  · rename_i hline
    rw [onOneLine_iff h] at hline
    simp only [Bool.or_eq_true, Bool.not_eq_true', hst, hts, not_or] at hnear
    apply Plane.exists_crossing <;> simp only [Point.side_position]
    · exact_mod_cast not_or.mpr hnear.1.2
    · exact_mod_cast not_or.mpr hnear.2
    · exact_mod_cast hline

end Segment

end FarmRegistry
