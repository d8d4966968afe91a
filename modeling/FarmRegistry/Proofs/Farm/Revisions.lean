import FarmRegistry.Proofs.Order.Outcomes
import FarmRegistry.Proofs.Totals.Exact
import FarmRegistry.Registry.Change

namespace FarmRegistry

namespace Farm

inductive Revises (f : Farm) (now : Timestamp) : Farm → Prop where
  | reshaped {p : Polygon} {g : Farm} (h : f.reshaped p now = .ok g) : Revises f now g
  | retired {g : Farm} (h : f.retired now = .ok g) : Revises f now g
  | restored {g : Farm} (h : f.restored now = .ok g) : Revises f now g
  | reassigned {i : FarmerId} {g : Farm} (h : f.reassigned i now = .ok g) : Revises f now g

variable {f g : Farm} {now : Timestamp}

theorem nextVersion_eq_ok (h : f.nextVersion now = .ok g) :
    ∃ v : Signed64, v.val = f.version.val + 1 ∧ g = { f with version := v, updatedAt := now } := by
  unfold nextVersion at h
  split at h
  · rename_i v hv
    exact ⟨v, Bounded.ofInt?_eq_some_iff.mp hv, (Except.ok.inj h).symm⟩
  · cases h

theorem exists_nextVersion (now : Timestamp) (h : f.version.val < 9223372036854775807) :
    ∃ g, f.nextVersion now = .ok g := by
  have hlo := f.version.lo_le
  obtain ⟨v, hv⟩ : ∃ v, (Bounded.ofInt? (f.version.val + 1) : Option Signed64) = some v := by
    apply Option.ne_none_iff_exists'.mp
    rw [Ne, Bounded.ofInt?_eq_none_iff]
    omega
  exact ⟨{ f with version := v, updatedAt := now }, by rw [nextVersion, hv]⟩

theorem map_nextVersion_eq_ok {update : Farm → Farm} (h : (f.nextVersion now).map update = .ok g) :
    ∃ v : Signed64, v.val = f.version.val + 1 ∧ g = update { f with version := v, updatedAt := now } := by
  obtain ⟨n, hn, rfl⟩ := map_eq_ok_iff.mp h
  obtain ⟨v, hv, rfl⟩ := nextVersion_eq_ok hn
  exact ⟨v, hv, rfl⟩

theorem reshaped_eq_ok {p : Polygon} (h : f.reshaped p now = .ok g) :
    ∃ v : Signed64, v.val = f.version.val + 1 ∧
      g = { f with version := v, updatedAt := now, polygon := p, area := .ofPolygon p } :=
  map_nextVersion_eq_ok h

theorem retired_eq_ok (h : f.retired now = .ok g) :
    ∃ v : Signed64, v.val = f.version.val + 1 ∧
      g = { f with version := v, updatedAt := now, status := .deleted now } :=
  map_nextVersion_eq_ok h

theorem restored_eq_ok (h : f.restored now = .ok g) :
    ∃ v : Signed64, v.val = f.version.val + 1 ∧ g = { f with version := v, updatedAt := now, status := .active } :=
  map_nextVersion_eq_ok h

theorem reassigned_eq_ok {i : FarmerId} (h : f.reassigned i now = .ok g) :
    ∃ v : Signed64, v.val = f.version.val + 1 ∧ g = { f with version := v, updatedAt := now, farmerId := i } :=
  map_nextVersion_eq_ok h

namespace Revises

theorem id_version (h : f.Revises now g) : g.id = f.id ∧ g.version.val = f.version.val + 1 := by
  cases h with
  | reshaped h =>
    obtain ⟨v, hv, rfl⟩ := reshaped_eq_ok h
    exact ⟨rfl, hv⟩
  | retired h =>
    obtain ⟨v, hv, rfl⟩ := retired_eq_ok h
    exact ⟨rfl, hv⟩
  | restored h =>
    obtain ⟨v, hv, rfl⟩ := restored_eq_ok h
    exact ⟨rfl, hv⟩
  | reassigned h =>
    obtain ⟨v, hv, rfl⟩ := reassigned_eq_ok h
    exact ⟨rfl, hv⟩

theorem area_nonneg (h : f.Revises now g) (hf : 0 ≤ f.area.val) : 0 ≤ g.area.val := by
  cases h with
  | reshaped h =>
    obtain ⟨v, _, rfl⟩ := reshaped_eq_ok h
    exact Area.ofPolygon_val_nonneg _
  | retired h =>
    obtain ⟨v, _, rfl⟩ := retired_eq_ok h
    exact hf
  | restored h =>
    obtain ⟨v, _, rfl⟩ := restored_eq_ok h
    exact hf
  | reassigned h =>
    obtain ⟨v, _, rfl⟩ := reassigned_eq_ok h
    exact hf

end Revises

end Farm

namespace Change

variable {f g : Farm} {c : Change}

theorem map_write_eq_ok_iff {w : Write} {r : Except Overflow (List TotalsDelta)} :
    r.map (⟨w, ·⟩) = .ok c ↔ c.write = w ∧ r = .ok c.deltas := by
  rw [map_eq_ok_iff]
  constructor
  · rintro ⟨ds, hr, rfl⟩
    exact ⟨rfl, hr⟩
  · rintro ⟨rfl, hr⟩
    exact ⟨c.deltas, hr, rfl⟩

theorem insert_eq_ok_iff :
    insert f = .ok c ↔ c.write = .insert f ∧ TotalsDelta.between none (some f) = .ok c.deltas :=
  map_write_eq_ok_iff

theorem update_eq_ok_iff :
    update f g = .ok c ↔ c.write = .update g f.version ∧ TotalsDelta.between (some f) (some g) = .ok c.deltas :=
  map_write_eq_ok_iff

theorem remove_eq_ok_iff :
    remove f = .ok c ↔ c.write = .remove f.id f.version ∧ TotalsDelta.between (some f) none = .ok c.deltas :=
  map_write_eq_ok_iff

end Change

end FarmRegistry
