import FarmRegistry.Proofs.Geometry.Enclosure
import FarmRegistry.Proofs.Sql.Records
import FarmRegistry.Proofs.Store.Commit
import FarmRegistry.Proofs.Wire.Decoding

namespace FarmRegistry

open Json

theorem Decimal.value_le_iff {x y : Float} : value x ≤ value y ↔ units x ≤ units y := by
  have hpos : (0 : ℚ) < unitsOfNat 1 := Int.cast_pos.mpr unitsOfNat_one_pos
  rw [value, value, div_le_div_iff_of_pos_right hpos, Int.cast_le]

def Farm.kept (f : Farm) : Farm :=
  { f with
    status := .ofDeletion (f.status.deletion.map Timestamp.toMicroseconds)
    createdAt := f.createdAt.toMicroseconds
    updatedAt := f.updatedAt.toMicroseconds }

namespace Sql

theorem StoredFarm.ofRow?_params (f : Farm) :
    StoredFarm.ofRow? (FarmWriting.ofFarm f).params = some (StoredFarm.ofFarm f.kept) := by
  obtain ⟨_, _, _, _, status, _, _, _, _⟩ := f
  cases status <;> rfl

theorem StoredFarm.toFarm_eq_ok_iff {r : StoredFarm} {f : Farm} :
    r.toFarm = .ok f ↔ Ring.Told r.boundary f.polygon.ring ∧
      (r.metadata = f.metadata.toJson ∨ r.metadata = .null ∧ f.metadata = .empty) ∧
      f.id = r.id ∧ f.farmerId = r.farmerId ∧ f.area = r.area ∧ f.status = .ofDeletion r.deletedAt ∧
      f.version = r.version ∧ f.createdAt = r.createdAt ∧ f.updatedAt = r.updatedAt := by
  rw [← Polygon.ofJson_eq_ok_iff, ← Metadata.ofJson?_eq_some_iff, toFarm]
  constructor
  · intro h
    cases hp : Polygon.ofJson r.boundary with
    | error e =>
      rw [hp] at h
      cases h
    | ok p =>
      cases hm : Metadata.ofJson? r.metadata with
      | none =>
        rw [hp, hm] at h
        cases h
      | some m =>
        rw [hp, hm] at h
        cases h
        exact ⟨rfl, rfl, rfl, rfl, rfl, rfl, rfl, rfl, rfl⟩
  · obtain ⟨id, farmerId, polygon, area, status, metadata, version, createdAt, updatedAt⟩ := f
    rintro ⟨hp, hm, rfl, rfl, rfl, rfl, rfl, rfl, rfl⟩
    simp only at hp hm
    rw [hp, hm]

theorem StoredFarm.toFarm_query {r : StoredFarm} {e : StoreError} (h : r.toFarm = .error e) : ∃ m, e = .query m := by
  rw [toFarm] at h
  cases hp : Polygon.ofJson r.boundary with
  | error d =>
    rw [hp] at h
    cases h
    exact ⟨_, rfl⟩
  | ok p =>
    cases hm : Metadata.ofJson? r.metadata with
    | none =>
      rw [hp, hm] at h
      cases h
      exact ⟨_, rfl⟩
    | some m =>
      rw [hp, hm] at h
      cases h

theorem StoredFarm.exists_toFarm_iff {r : StoredFarm} :
    (∃ f, r.toFarm = .ok f) ↔ (∃ ring p, Ring.Told r.boundary ring ∧ Polygon.ofRing ring = .ok p) ∧
      (r.metadata = .null ∨ ∃ fields, r.metadata = .object fields) := by
  constructor
  · rintro ⟨f, hf⟩
    obtain ⟨hboundary, hmetadata, _⟩ := toFarm_eq_ok_iff.mp hf
    refine ⟨⟨f.polygon.ring, f.polygon, hboundary, Polygon.ofRing_eq_ok_iff.mpr rfl⟩, ?_⟩
    rcases hmetadata with hfields | ⟨hnull, _⟩
    · exact .inr ⟨f.metadata.fields, hfields⟩
    · exact .inl hnull
  · rintro ⟨⟨ring, p, hboundary, hp⟩, hmetadata⟩
    obtain rfl := Polygon.ofRing_eq_ok_iff.mp hp
    obtain ⟨m, hm⟩ : ∃ m : Metadata, r.metadata = m.toJson ∨ r.metadata = .null ∧ m = .empty := by
      rcases hmetadata with hnull | ⟨fields, hfields⟩
      · exact ⟨.empty, .inr ⟨hnull, rfl⟩⟩
      · exact ⟨⟨fields⟩, .inl hfields⟩
    let f : Farm :=
      ⟨r.id, r.farmerId, p, r.area, .ofDeletion r.deletedAt, m, r.version, r.createdAt, r.updatedAt⟩
    exact ⟨f, toFarm_eq_ok_iff.mpr ⟨hboundary, hm, rfl, rfl, rfl, rfl, rfl, rfl, rfl⟩⟩

/-- What is written of a farm reads back as the farm. A record reads as a farm just when its boundary tells a valid ring
and its metadata is an object or nothing; otherwise the query is to blame. -/
theorem farms_round_trip :
    (∀ f : Farm,
      let e := FarmWriting.ofFarm f
      let b := f.boundingBox
      (e.params.column "min_lng" = .double b.minLng ∧ e.params.column "min_lat" = .double b.minLat ∧
          e.params.column "max_lng" = .double b.maxLng ∧ e.params.column "max_lat" = .double b.maxLat) ∧
        (b.Finite ∧ Decimal.value b.minLng ≤ Decimal.value b.maxLng ∧
          Decimal.value b.minLat ≤ Decimal.value b.maxLat) ∧
        (StoredFarm.ofRow? e.row = some e.toStoredFarm ∧ e.toStoredFarm.toFarm = .ok f) ∧
        ∃ r, StoredFarm.ofRow? e.params = some r ∧ r.toFarm = .ok f.kept) ∧
      ∀ r : StoredFarm,
        ((∃ f, r.toFarm = .ok f) ↔ (∃ ring p, Ring.Told r.boundary ring ∧ Polygon.ofRing ring = .ok p) ∧
          (r.metadata = .null ∨ ∃ fields, r.metadata = .object fields)) ∧
        (∀ f, r.toFarm = .ok f → Ring.Told r.boundary f.polygon.ring ∧
          (r.metadata = f.metadata.toJson ∨ r.metadata = .null ∧ f.metadata = .empty) ∧
          f.id = r.id ∧ f.farmerId = r.farmerId ∧ f.area = r.area ∧ f.status = .ofDeletion r.deletedAt ∧
          f.version = r.version ∧ f.createdAt = r.createdAt ∧ f.updatedAt = r.updatedAt) ∧
        ∀ e, r.toFarm = .error e → ∃ m, e = .query m := by
  constructor
  · intro f e b
    obtain ⟨hlng, hlat⟩ := BoundingBox.isOrdered_iff.mp f.polygon.isOrdered_boundingBox
    refine ⟨⟨rfl, rfl, rfl, rfl⟩, ?_, ?_, ?_⟩
    · exact ⟨f.polygon.boundingBox_finite, Decimal.value_le_iff.mpr hlng, Decimal.value_le_iff.mpr hlat⟩
    · exact ⟨e.toStoredFarm.ofRow?_row, StoredFarm.toFarm_ofFarm f⟩
    · exact ⟨_, StoredFarm.ofRow?_params f, StoredFarm.toFarm_ofFarm f.kept⟩
  · intro r
    exact ⟨StoredFarm.exists_toFarm_iff, fun f => StoredFarm.toFarm_eq_ok_iff.mp, fun e => StoredFarm.toFarm_query⟩

theorem parcel_reads_back :
    let r := StoredFarm.ofFarm MemoryStore.parcel
    let lost : StoredFarm := { r with boundary := .null }
    (r.toFarm = .ok MemoryStore.parcel ∧ Ring.Told r.boundary MemoryStore.parcel.polygon.ring) ∧
      ∃ m, lost.toFarm = .error (.query m) := by
  intro r lost
  obtain ⟨hwritten, hrecord⟩ := farms_round_trip
  obtain ⟨_, _, ⟨_, hread⟩, _⟩ := hwritten MemoryStore.parcel
  obtain ⟨hboundary, _⟩ := (hrecord r).2.1 MemoryStore.parcel hread
  refine ⟨⟨hread, hboundary⟩, ?_⟩
  obtain ⟨hfarm, _, hquery⟩ := hrecord lost
  cases hlost : lost.toFarm with
  | ok f =>
    obtain ⟨⟨_, _, ⟨_, hitems, _⟩, _⟩, _⟩ := hfarm.mp ⟨f, hlost⟩
    cases hitems
  | error e =>
    obtain ⟨m, rfl⟩ := hquery e hlost
    exact ⟨m, rfl⟩

end Sql

end FarmRegistry
