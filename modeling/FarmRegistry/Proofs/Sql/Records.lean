import FarmRegistry.Proofs.Order.Collections
import FarmRegistry.Proofs.Order.Outcomes
import FarmRegistry.Proofs.Sql.Tables
import FarmRegistry.Proofs.Totals.Refusals
import FarmRegistry.Proofs.Wire.Geometry

namespace FarmRegistry

namespace BoundingBox

theorem lesser_le (a b : Float) : Decimal.units (lesser a b) ≤ Decimal.units a := by
  unfold lesser
  split <;> omega

theorem le_greater (a b : Float) : Decimal.units a ≤ Decimal.units (greater a b) := by
  unfold greater
  split <;> omega

theorem isOrdered_iff {b : BoundingBox} :
    b.isOrdered = true ↔
      Decimal.units b.minLng ≤ Decimal.units b.maxLng ∧ Decimal.units b.minLat ≤ Decimal.units b.maxLat := by
  simp only [isOrdered, Bool.and_eq_true, decide_eq_true_eq]

theorem isOrdered_extend {b : BoundingBox} (h : b.isOrdered = true) (v : Vertex) : (b.extend v).isOrdered = true := by
  rw [isOrdered_iff] at h ⊢
  have hwest := lesser_le b.minLng v.lng
  have heast := le_greater b.maxLng v.lng
  have hsouth := lesser_le b.minLat v.lat
  have hnorth := le_greater b.maxLat v.lat
  simp only [extend]
  omega

theorem isOrdered_foldl {b : BoundingBox} (h : b.isOrdered = true) (vs : List Vertex) :
    (vs.foldl extend b).isOrdered = true := by
  induction vs generalizing b with
  | nil => exact h
  | cons v vs ih => exact ih (isOrdered_extend h v)

end BoundingBox

theorem Polygon.isOrdered_boundingBox (p : Polygon) : p.boundingBox.isOrdered = true := by
  apply BoundingBox.isOrdered_foldl
  simp [BoundingBox.isOrdered_iff, BoundingBox.ofVertex]

namespace Sql

theorem StoredFarm.toFarm_ofFarm (f : Farm) : (StoredFarm.ofFarm f).toFarm = .ok f := by
  obtain ⟨_, _, polygon, _, status, metadata, _, _, _⟩ := f
  simp only [StoredFarm.ofFarm, StoredFarm.toFarm, polygon.ofJson_toJson, metadata.ofJson?_toJson,
    status.ofDeletion_deletion]

theorem mapM_toFarm_ofFarm (farms : List Farm) :
    (farms.map StoredFarm.ofFarm).mapM StoredFarm.toFarm = .ok farms := by
  apply mapM_eq_ok_iff.mpr
  apply List.forall₂_map_left_iff.mpr
  exact List.forall₂_same.mpr fun f _ => StoredFarm.toFarm_ofFarm f

namespace FarmWriting

theorem isNone_deletion (s : FarmState) : s.deletion.isNone = s.isActive := by
  cases s <;> rfl

theorem isListed_ofFarm (bounds : Option BoundingBox) (f : Farm) :
    (ofFarm f).isListed bounds = (f.isActive && bounds.all f.boundingBox.intersects) := by
  have hactive : (ofFarm f).deletedAt.isNone = f.isActive := isNone_deletion f.status
  rw [isListed, hactive]
  rfl

theorem isHeldBy_ofFarm (i : FarmerId) (f : Farm) : (ofFarm f).isHeldBy i = f.isHeldBy i := by
  have hactive : (ofFarm f).deletedAt.isNone = f.isActive := isNone_deletion f.status
  rw [isHeldBy, hactive]
  rfl

end FarmWriting

namespace Tables

variable {t : Tables}

theorem breaks_ofFarm {f : Farm} (hf : 0 ≤ f.area.val) (rule : FarmRule) :
    t.breaks (.ofFarm f) rule = true ↔ rule = .owner ∧ f.farmerId ∉ t.farmers := by
  cases rule with
  | owner =>
    have howner : (FarmWriting.ofFarm f).farmerId = f.farmerId := rfl
    simp [breaks, howner, ← Std.ExtTreeMap.contains_iff_mem]
  | area =>
    have harea : ¬f.area.val < 0 := by omega
    simp [breaks, FarmWriting.ofFarm, StoredFarm.ofFarm, Area.isNegative, harea]
  | boundary => simp [breaks, FarmWriting.ofFarm, StoredFarm.ofFarm, Polygon.toJson, Ring.toJson, Json.isArray]
  | metadata => simp [breaks, FarmWriting.ofFarm, StoredFarm.ofFarm, Metadata.toJson, Json.isObject]
  | box => simp [breaks, FarmWriting.ofFarm, Farm.boundingBox, Polygon.isOrdered_boundingBox]

theorem owner_of_unbroken {f : Farm} (hf : 0 ≤ f.area.val) (h : ∀ rule, t.breaks (.ofFarm f) rule = false) :
    f.farmerId ∈ t.farmers := by
  by_contra habsent
  have hbroken := (breaks_ofFarm hf .owner).mpr ⟨rfl, habsent⟩
  rw [h] at hbroken
  cases hbroken

theorem version?_eq_none {i : FarmId} (h : i ∉ t.farms) : t.version? i = none :=
  Option.map_eq_none_iff.mpr (Std.ExtTreeMap.getElem?_eq_none h)

theorem version?_ne_none {i : FarmId} (h : i ∈ t.farms) : t.version? i ≠ none := by
  obtain ⟨e, he⟩ := mem_iff_exists_getElem?.mp h
  simp [version?, he]

end Tables

namespace StoredFarmer

def ofFarmer (f : Farmer) : StoredFarmer :=
  ofTotals f.id ⟨f.totalArea, f.farmCount⟩

theorem toFarmer_ofFarmer {f : Farmer} (h : 0 ≤ f.totalArea.val) : (ofFarmer f).toFarmer = .ok f := by
  have hparts : Farmer.ofParts f.id f.totalArea f.farmCount.val = .ok f :=
    Farmer.ofParts_eq_ok_iff.mpr ⟨h, rfl, rfl, rfl⟩
  change (Farmer.ofParts f.id f.totalArea f.farmCount.val).mapError _ = .ok f
  rw [hparts]
  rfl

theorem breaks_eq_false_iff {r : StoredFarmer} :
    (∀ rule, r.breaks rule = false) ↔ 0 ≤ r.totalArea.val ∧ 0 ≤ r.farmCount.val := by
  constructor
  · intro h
    have harea : ¬r.totalArea.val < 0 := of_decide_eq_false (h .totalArea)
    have hcount : ¬r.farmCount.val < 0 := of_decide_eq_false (h .farmCount)
    omega
  · rintro ⟨harea, hcount⟩ rule
    cases rule with
    | totalArea => exact decide_eq_false (Int.not_lt.mpr harea)
    | farmCount => exact decide_eq_false (Int.not_lt.mpr hcount)

end StoredFarmer

end Sql

end FarmRegistry
