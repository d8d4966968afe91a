import FarmRegistry.Proofs.Farm.Revisions
import FarmRegistry.Service.Intent

namespace FarmRegistry

theorem Stop.ofOverflow_eq_ok_iff {ε α : Type} {r : Except Overflow α} {a : α} :
    (Stop.ofOverflow r : Except (Stop ε) α) = .ok a ↔ r = .ok a := by
  cases r <;> simp [Stop.ofOverflow]

namespace Intent

inductive Planned (now : Timestamp) : Intent → Option Farm → Change → Option Farm → Prop where
  | create {f : Farm} {current : Option Farm} {c : Change} (hc : Change.insert f = .ok c) :
    Planned now (create f) current c (some f)
  | reshape {f g : Farm} {i : FarmId} {p : Polygon} {c : Change} (hg : f.reshaped p now = .ok g)
    (hc : Change.update f g = .ok c) : Planned now (reshape i p) (some f) c (some g)
  | retire {f g : Farm} {i : FarmId} {c : Change} (hactive : f.isActive) (hg : f.retired now = .ok g)
    (hc : Change.update f g = .ok c) : Planned now (retire i) (some f) c (some g)
  | restore {f g : Farm} {i : FarmId} {c : Change} (hdeleted : ¬f.isActive) (hg : f.restored now = .ok g)
    (hc : Change.update f g = .ok c) : Planned now (restore i) (some f) c (some g)
  | erase {f : Farm} {i : FarmId} {c : Change} (hc : Change.remove f = .ok c) :
    Planned now (erase i) (some f) c none
  | reassign {f g : Farm} {i : FarmId} {j : FarmerId} {c : Change} (howner : f.farmerId ≠ j)
    (hg : f.reassigned j now = .ok g) (hc : Change.update f g = .ok c) :
    Planned now (reassign i j) (some f) c (some g)

variable {m : Intent} {f g : Farm} {current result : Option Farm} {now : Timestamp} {c : Change}

theorem update_eq_commit {revised : Except Overflow Farm}
    (h : (do
      let after ← revised
      return .commit (← Change.update f after) (some after) : Except Overflow Plan) = .ok (.commit c result)) :
    ∃ g, revised = .ok g ∧ Change.update f g = .ok c ∧ result = some g := by
  obtain ⟨g, hg, h⟩ := bind_eq_ok_iff.mp h
  obtain ⟨d, hd, h⟩ := bind_eq_ok_iff.mp h
  obtain ⟨rfl, rfl⟩ := Plan.commit.inj (Except.ok.inj h)
  exact ⟨g, hg, hd, rfl⟩

theorem planned_of_revise (hm : ∀ g, m ≠ .create g) (h : m.revise f now = .ok (.commit c result)) :
    Planned now m (some f) c result := by
  cases m with
  | create g => exact absurd rfl (hm g)
  | reshape i p =>
    obtain ⟨g, hg, hc, rfl⟩ := update_eq_commit h
    exact .reshape hg hc
  | retire i =>
    by_cases hactive : f.isActive
    · rw [revise, if_pos hactive] at h
      obtain ⟨g, hg, hc, rfl⟩ := update_eq_commit h
      exact .retire hactive hg hc
    · rw [revise, if_neg hactive] at h
      cases h
  | restore i =>
    by_cases hactive : f.isActive
    · rw [revise, if_pos hactive] at h
      cases h
    · rw [revise, if_neg hactive] at h
      obtain ⟨g, hg, hc, rfl⟩ := update_eq_commit h
      exact .restore hactive hg hc
  | erase i =>
    obtain ⟨d, hd, h⟩ := bind_eq_ok_iff.mp h
    obtain ⟨rfl, rfl⟩ := Plan.commit.inj (Except.ok.inj h)
    exact .erase hd
  | reassign i j =>
    by_cases howner : f.farmerId = j
    · rw [revise, if_pos howner] at h
      cases h
    · rw [revise, if_neg howner] at h
      obtain ⟨g, hg, hc, rfl⟩ := update_eq_commit h
      exact .reassign howner hg hc

theorem planned_of_plan (h : m.plan current now = .ok (.commit c result)) : Planned now m current c result := by
  cases m with
  | create f =>
    obtain ⟨d, hd, h⟩ := map_eq_ok_iff.mp (Stop.ofOverflow_eq_ok_iff.mp h)
    obtain ⟨rfl, rfl⟩ := Plan.commit.inj h
    exact .create hd
  | _ =>
    cases current with
    | none => cases h
    | some f =>
      refine planned_of_revise ?_ (Stop.ofOverflow_eq_ok_iff.mp h)
      intro g hg
      cases hg

theorem update_commits {revised : Except Overflow Farm} (hg : revised = .ok g) (hc : Change.update f g = .ok c) :
    (do
      let after ← revised
      return .commit (← Change.update f after) (some after) : Except Overflow Plan) = .ok (.commit c (some g)) :=
  bind_eq_ok_iff.mpr ⟨g, hg, bind_eq_ok_iff.mpr ⟨c, hc, rfl⟩⟩

theorem update_cases (f : Farm) (revised : Except Overflow Farm) :
    (∃ v, (do
      let after ← revised
      return .commit (← Change.update f after) (some after) : Except Overflow Plan) = .error v) ∨
    ∃ g c, revised = .ok g ∧ (do
      let after ← revised
      return .commit (← Change.update f after) (some after) : Except Overflow Plan) = .ok (.commit c (some g)) := by
  cases revised with
  | error v => exact .inl ⟨v, rfl⟩
  | ok g =>
    cases hc : Change.update f g with
    | error v => exact .inl ⟨v, bind_eq_error_iff.mpr (.inr ⟨g, rfl, bind_eq_error_iff.mpr (.inl hc)⟩)⟩
    | ok c => exact .inr ⟨g, c, rfl, update_commits rfl hc⟩

theorem Planned.plan_eq (h : Planned now m current c result) : m.plan current now = .ok (.commit c result) := by
  cases h with
  | create hc =>
    rw [plan, hc]
    rfl
  | reshape hg hc => exact Stop.ofOverflow_eq_ok_iff.mpr (update_commits hg hc)
  | retire hactive hg hc =>
    refine Stop.ofOverflow_eq_ok_iff.mpr ?_
    rw [revise, if_pos hactive]
    exact update_commits hg hc
  | restore hdeleted hg hc =>
    refine Stop.ofOverflow_eq_ok_iff.mpr ?_
    rw [revise, if_neg hdeleted]
    exact update_commits hg hc
  | erase hc => exact Stop.ofOverflow_eq_ok_iff.mpr (bind_eq_ok_iff.mpr ⟨c, hc, rfl⟩)
  | reassign howner hg hc =>
    refine Stop.ofOverflow_eq_ok_iff.mpr ?_
    rw [revise, if_neg howner]
    exact update_commits hg hc

theorem insert_eq_ok (f : Farm) : ∃ c, Change.insert f = .ok c := by
  unfold Change.insert TotalsDelta.between
  cases (some f).bind Farm.contribution <;> exact ⟨_, rfl⟩

namespace Planned

theorem kinds (h : Planned now m current c result) :
    (∃ f, m = .create f ∧ result = some f ∧ Change.insert f = .ok c) ∨
      (∃ f g, (∀ e, m ≠ .create e) ∧ current = some f ∧ result = some g ∧ f.Revises now g ∧
        Change.update f g = .ok c) ∨
      ∃ f i, m = .erase i ∧ current = some f ∧ result = none ∧ Change.remove f = .ok c := by
  cases h with
  | create hc => exact .inl ⟨_, rfl, rfl, hc⟩
  | reshape hg hc => exact .inr (.inl ⟨_, _, fun _ => nofun, rfl, rfl, .reshaped hg, hc⟩)
  | retire hactive hg hc => exact .inr (.inl ⟨_, _, fun _ => nofun, rfl, rfl, .retired hg, hc⟩)
  | restore hdeleted hg hc => exact .inr (.inl ⟨_, _, fun _ => nofun, rfl, rfl, .restored hg, hc⟩)
  | erase hc => exact .inr (.inr ⟨_, _, rfl, rfl, rfl, hc⟩)
  | reassign howner hg hc => exact .inr (.inl ⟨_, _, fun _ => nofun, rfl, rfl, .reassigned hg, hc⟩)

theorem written (h : Planned now m current c result) : c.write.farm? = result := by
  rcases h.kinds with ⟨f, _, rfl, hc⟩ | ⟨f, g, _, _, rfl, _, hc⟩ | ⟨f, i, _, _, rfl, hc⟩
  · rw [(Change.insert_eq_ok_iff.mp hc).1, Write.farm?]
  · rw [(Change.update_eq_ok_iff.mp hc).1, Write.farm?]
  · rw [(Change.remove_eq_ok_iff.mp hc).1, Write.farm?]

theorem writes (h : Planned now m current c result) (hid : ∀ f, current = some f → f.id = m.farmId) :
    c.write.farmId = m.farmId := by
  rcases h.kinds with ⟨f, rfl, _, hc⟩ | ⟨f, g, _, hf, _, hrev, hc⟩ | ⟨f, i, _, hf, _, hc⟩
  · rw [(Change.insert_eq_ok_iff.mp hc).1]
    rfl
  · rw [(Change.update_eq_ok_iff.mp hc).1, Write.farmId, hrev.id_version.1]
    exact hid f hf
  · rw [(Change.remove_eq_ok_iff.mp hc).1, Write.farmId]
    exact hid f hf

theorem names (h : Planned now m current c result) :
    TotalsDelta.Ordered c.deltas ∧
      ∀ d ∈ c.deltas, Farm.OwnedBy d.farmerId current ∨ Farm.OwnedBy d.farmerId result := by
  rcases h.kinds with ⟨f, _, rfl, hc⟩ | ⟨f, g, _, rfl, rfl, _, hc⟩ | ⟨f, i, _, rfl, rfl, hc⟩
  · obtain ⟨hord, hnames⟩ := TotalsDelta.between_names (Change.insert_eq_ok_iff.mp hc).2
    refine ⟨hord, ?_⟩
    intro d hd
    rcases hnames d hd with ⟨g, hg, _⟩ | howned
    · cases hg
    · exact .inr howned
  · exact TotalsDelta.between_names (Change.update_eq_ok_iff.mp hc).2
  · exact TotalsDelta.between_names (Change.remove_eq_ok_iff.mp hc).2

theorem keeps_ground (h : Planned now m current c (some g)) (hm : ¬m.mayTakeGround) (hg : g.isActive) :
    ∃ f, current = some f ∧ f.isActive ∧ f.id = g.id ∧ f.polygon = g.polygon := by
  cases h with
  | create hc => exact absurd rfl hm
  | reshape hrev hc => exact absurd rfl hm
  | retire hactive hrev hc =>
    obtain ⟨v, _, rfl⟩ := Farm.retired_eq_ok hrev
    cases hg
  | restore hdeleted hrev hc => exact absurd rfl hm
  | @reassign f g i j c howner hrev hc =>
    obtain ⟨v, _, rfl⟩ := Farm.reassigned_eq_ok hrev
    exact ⟨f, rfl, hg, rfl, rfl⟩

end Planned

end Intent

end FarmRegistry
