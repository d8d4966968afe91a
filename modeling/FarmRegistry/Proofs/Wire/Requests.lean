import FarmRegistry.Proofs.Wire.Farmers
import FarmRegistry.Proofs.Wire.Geometry
import FarmRegistry.Wire.Request

namespace FarmRegistry

namespace Json

variable {α : Type} {write : α → Json} {read : Decoder α} {finite : α → Prop}

structure Survives (write : α → Json) (read : Decoder α) (finite : α → Prop) : Prop where
  reads_back : ∀ a, finite a → read (write a) = .ok a
  settles : ∀ j a, j.Proper → read j = .ok a → finite a ∧ read (write a) = .ok a

theorem survives (hback : ∀ a, finite a → read (write a) = .ok a)
    (hfinite : ∀ j a, j.Proper → read j = .ok a → finite a) : Survives write read finite where
  reads_back := hback
  settles j a hj h := ⟨hfinite j a hj h, hback a (hfinite j a hj h)⟩

theorem survives_of_all (hback : ∀ a, read (write a) = .ok a) : Survives write read fun _ => True :=
  survives (fun a _ => hback a) fun _ _ _ _ => trivial

end Json

open Json

theorem CreateRequest.ofJson_toJson {r : CreateRequest} (h : r.boundary.Finite) :
    CreateRequest.ofJson r.toJson = .ok r := by
  apply decode_object
  simp only [bind_eq_ok_iff, required_eq_ok_iff]
  exact ⟨_, ⟨_, rfl, r.farmerId.ofJson_toJson⟩, _, ⟨_, rfl, Ring.ofJson_toJson h⟩, r.metadata, rfl, rfl⟩

theorem CreateRequest.finite_of_ofJson {j : Json} {r : CreateRequest} (hj : j.Proper)
    (h : CreateRequest.ofJson j = .ok r) : r.boundary.Finite := by
  obtain ⟨p, hp, hbuild⟩ := hj.parts h
  simp only [bind_eq_ok_iff, required_eq_ok_iff] at hbuild
  obtain ⟨_, _, _, ⟨_, hboundary, hring⟩, _, _, hr⟩ := hbuild
  cases hr
  exact Ring.finite_of_ofJson (hp _ _ _ hboundary) hring

theorem ReshapeRequest.ofJson_toJson {r : ReshapeRequest} (h : r.boundary.Finite) :
    ReshapeRequest.ofJson r.toJson = .ok r := by
  apply decode_object
  simp only [bind_eq_ok_iff, required_eq_ok_iff]
  exact ⟨_, ⟨_, rfl, r.farmId.ofJson_toJson⟩, _, ⟨_, rfl, Ring.ofJson_toJson h⟩, rfl⟩

theorem ReshapeRequest.finite_of_ofJson {j : Json} {r : ReshapeRequest} (hj : j.Proper)
    (h : ReshapeRequest.ofJson j = .ok r) : r.boundary.Finite := by
  obtain ⟨p, hp, hbuild⟩ := hj.parts h
  simp only [bind_eq_ok_iff, required_eq_ok_iff] at hbuild
  obtain ⟨_, _, _, ⟨_, hboundary, hring⟩, hr⟩ := hbuild
  cases hr
  exact Ring.finite_of_ofJson (hp _ _ _ hboundary) hring

theorem ReassignRequest.ofJson_toJson (r : ReassignRequest) : ReassignRequest.ofJson r.toJson = .ok r := by
  apply decode_object
  simp only [bind_eq_ok_iff, required_eq_ok_iff]
  exact ⟨_, ⟨_, rfl, r.farmId.ofJson_toJson⟩, _, ⟨_, rfl, r.farmerId.ofJson_toJson⟩, rfl⟩

theorem OverlapRequest.ofJson_toJson {r : OverlapRequest} (h : r.boundary.Finite) :
    OverlapRequest.ofJson r.toJson = .ok r := by
  have hexclude : Decode.optional FarmId.ofJson ((r.excludeFarmId.map FarmId.toJson).getD .null) =
      .ok r.excludeFarmId := by
    cases r.excludeFarmId with
    | none => rfl
    | some i =>
      change (FarmId.ofJson i.toJson).map some = _
      rw [i.ofJson_toJson, Except.map]
  apply decode_object
  simp only [bind_eq_ok_iff, required_eq_ok_iff]
  exact ⟨_, ⟨_, rfl, Ring.ofJson_toJson h⟩, _, hexclude, rfl⟩

theorem OverlapRequest.finite_of_ofJson {j : Json} {r : OverlapRequest} (hj : j.Proper)
    (h : OverlapRequest.ofJson j = .ok r) : r.boundary.Finite := by
  obtain ⟨p, hp, hbuild⟩ := hj.parts h
  simp only [bind_eq_ok_iff, required_eq_ok_iff] at hbuild
  obtain ⟨_, ⟨_, hboundary, hring⟩, _, _, hr⟩ := hbuild
  cases hr
  exact Ring.finite_of_ofJson (hp _ _ _ hboundary) hring

theorem OverlapPair.ofJson_toJson (p : OverlapPair) : OverlapPair.ofJson p.toJson = .ok p := by
  apply decode_object
  simp only [bind_eq_ok_iff, required_eq_ok_iff]
  exact ⟨_, ⟨_, rfl, p.first.ofJson_toJson⟩, _, ⟨_, rfl, p.second.ofJson_toJson⟩, _, ⟨_, rfl, rfl⟩, rfl⟩

theorem Farmer.ofJson_toJson (f : Farmer) : Farmer.ofJson f.toJson = .ok f := by
  have hname : Uuid.ofChars? (toString f.id).toList = some f.id.uuid := by
    obtain ⟨name, hj, hname⟩ := FarmerId.ofJson_eq_ok_iff.mp f.id.ofJson_toJson
    cases hj
    exact hname
  exact Farmer.ofJson_eq_ok_iff.mpr (.named rfl hname rfl rfl)

/-- Requests and what they are about survive being written and read. A polygon is read where a list of vertices is that
a polygon may have, and has just these. -/
theorem Json.requests_survive :
    (Survives CreateRequest.toJson CreateRequest.ofJson (·.boundary.Finite) ∧
        Survives ReshapeRequest.toJson ReshapeRequest.ofJson (·.boundary.Finite) ∧
        Survives ReassignRequest.toJson ReassignRequest.ofJson (fun _ => True) ∧
        Survives OverlapRequest.toJson OverlapRequest.ofJson (·.boundary.Finite)) ∧
      (Survives Polygon.toJson Polygon.ofJson (fun _ => True) ∧
        Survives BoundingBox.toJson BoundingBox.ofJson BoundingBox.Finite ∧
        Survives OverlapPair.toJson OverlapPair.ofJson (fun _ => True) ∧
        Survives Farmer.toJson Farmer.ofJson (fun _ => True)) ∧
      ∀ j, ((∃ p, Polygon.ofJson j = .ok p) ↔ ∃ ring p, Ring.ofJson j = .ok ring ∧ Polygon.ofRing ring = .ok p) ∧
        ∀ p, Polygon.ofJson j = .ok p ↔ Ring.ofJson j = .ok p.ring := by
  refine ⟨⟨?_, ?_, ?_, ?_⟩, ⟨?_, ?_, ?_, ?_⟩, ?_⟩
  · exact survives (fun r => CreateRequest.ofJson_toJson) fun j r => CreateRequest.finite_of_ofJson
  · exact survives (fun r => ReshapeRequest.ofJson_toJson) fun j r => ReshapeRequest.finite_of_ofJson
  · exact survives_of_all ReassignRequest.ofJson_toJson
  · exact survives (fun r => OverlapRequest.ofJson_toJson) fun j r => OverlapRequest.finite_of_ofJson
  · exact survives_of_all Polygon.ofJson_toJson
  · exact survives (fun b => BoundingBox.ofJson_toJson) fun j b => BoundingBox.finite_of_ofJson
  · exact survives_of_all OverlapPair.ofJson_toJson
  · exact survives_of_all Farmer.ofJson_toJson
  · intro j
    refine ⟨?_, fun p => Polygon.ofJson_eq_ok_iff_ring⟩
    constructor
    · rintro ⟨p, hp⟩
      exact ⟨p.ring, p, Polygon.ofJson_eq_ok_iff_ring.mp hp, Polygon.ofRing_eq_ok_iff.mpr rfl⟩
    · rintro ⟨ring, p, hring, hp⟩
      obtain rfl := Polygon.ofRing_eq_ok_iff.mp hp
      exact ⟨p, Polygon.ofJson_eq_ok_iff_ring.mpr hring⟩

theorem Json.listed_request_survives :
    let listed : Json := .array [.string "AAAAAAAA-AAAA-4AAA-8AAA-AAAAAAAAAAAA",
      .array [.array [.integer (-77), .decimal 12.5]]]
    let reshape : ReshapeRequest := ⟨⟨⟨7⟩⟩, [⟨77.5, -0⟩]⟩
    (listed.Proper ∧ ∃ r, CreateRequest.ofJson listed = .ok r ∧ r.boundary.Finite ∧
        CreateRequest.ofJson r.toJson = .ok r) ∧
      reshape.boundary.Finite ∧ ReshapeRequest.ofJson reshape.toJson = .ok reshape := by
  intro listed reshape
  obtain ⟨⟨hcreate, hreshape, _⟩, _⟩ := Json.requests_survive
  have hpair {i j : Json} (hi : i.Proper) (hj : j.Proper) : (Json.array [i, j]).Proper :=
    .array (List.forall_mem_cons.mpr ⟨hi, List.forall_mem_singleton.mpr hj⟩)
  have hvertex := hpair (.integer (n := -77) (by decide) (by decide)) (.decimal (x := 12.5) (by decide +kernel))
  have hproper : listed.Proper := hpair (.string _) (.array (List.forall_mem_singleton.mpr hvertex))
  obtain ⟨r, hr⟩ : ∃ r, CreateRequest.ofJson listed = .ok r := by
    have hok : (CreateRequest.ofJson listed).isOk := by decide +kernel
    cases h : CreateRequest.ofJson listed with
    | ok r => exact ⟨r, rfl⟩
    | error e =>
      rw [h] at hok
      cases hok
  have hplace : reshape.boundary.Finite := by
    intro v hv
    obtain rfl := List.mem_singleton.mp hv
    exact ⟨by decide +kernel, by decide +kernel⟩
  exact ⟨⟨hproper, r, hr, hcreate.settles listed r hproper hr⟩, hplace, hreshape.reads_back reshape hplace⟩

end FarmRegistry
