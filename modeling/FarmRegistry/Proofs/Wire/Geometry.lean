import FarmRegistry.Proofs.Decimal.Whole
import FarmRegistry.Proofs.Geometry.Enclosure
import FarmRegistry.Proofs.Wire.Decoding

namespace FarmRegistry

namespace Json

variable {j : Json} {x : Float}

inductive Proper : Json → Prop where
  | null : Proper .null
  | bool (b : Bool) : Proper (.bool b)
  | integer {n : Int} (lo : -(twoTo 63 : ℤ) ≤ n) (hi : n < (twoTo 64 : ℤ)) : Proper (.integer n)
  | decimal {x : Float} (h : Decimal.isFinite x) : Proper (.decimal x)
  | string (s : String) : Proper (.string s)
  | array {items : List Json} (h : ∀ j ∈ items, Proper j) : Proper (.array items)
  | object {fields : Fields} (h : ∀ f ∈ fields, Proper f.2) : Proper (.object fields)

theorem IsNumber.isFinite (h : j.IsNumber x) (hj : j.Proper) : Decimal.isFinite x := by
  cases h with
  | whole n =>
    cases hj with
    | integer lo hi =>
      apply Decimal.isFinite_floatOfDecimal
      change -(2 ^ 63 : ℤ) ≤ n at lo
      change n < (2 ^ 64 : ℤ) at hi
      omega
  | decimal x =>
    cases hj with
    | decimal h => exact h

theorem isNumber_ofFloat (h : Decimal.isFinite x) : (ofFloat x).IsNumber x := by
  rw [ofFloat, if_pos h]
  exact .decimal x

theorem Proper.get? {fields : Fields} (h : (Json.object fields).Proper) {name : String}
    (hj : fields.get? name = some j) : j.Proper := by
  cases h with
  | object h =>
    induction fields with
    | nil => cases hj
    | cons f fields ih =>
      obtain ⟨n, i⟩ := f
      obtain ⟨hi, hrest⟩ := List.forall_mem_cons.mp h
      rw [Fields.get?_cons] at hj
      split at hj
      · cases hj
        exact hi
      · exact ih hj hrest

theorem Proper.getElem? {items : List Json} (h : (Json.array items).Proper) {i : ℕ} (hj : items[i]? = some j) :
    j.Proper := by
  cases h with
  | array h => exact h j (List.mem_of_getElem? hj)

theorem Proper.parts {α : Type} {s : Shape} {build : Parts → Except DecodeError α} {a : α} (hj : j.Proper)
    (h : s.decode build j = .ok a) :
    ∃ p : Parts, (∀ i name x, p.get? i name = some x → x.Proper) ∧ build p = .ok a := by
  rcases decode_eq_ok_iff.mp h with ⟨fields, rfl, hbuild⟩ | ⟨items, rfl, hbuild, _⟩
  · exact ⟨.named fields, fun i name x hx => hj.get? hx, hbuild⟩
  · exact ⟨.listed items, fun i name x hx => hj.getElem? hx, hbuild⟩

end Json

open Json

structure Vertex.Finite (v : Vertex) : Prop where
  lng : Decimal.isFinite v.lng
  lat : Decimal.isFinite v.lat

namespace Vertex

variable {j : Json} {v : Vertex}

theorem InRange.finite (h : v.InRange) : v.Finite :=
  ⟨h.1.1, h.2.1⟩

theorem ofJson_toJson (h : v.Finite) : Vertex.ofJson v.toJson = .ok v :=
  ofJson_eq_ok_iff.mpr (.named rfl rfl (isNumber_ofFloat h.lng) (isNumber_ofFloat h.lat))

theorem finite_of_ofJson (hj : j.Proper) (h : Vertex.ofJson j = .ok v) : v.Finite := by
  cases ofJson_eq_ok_iff.mp h with
  | named hlng hlat hx hy => exact ⟨hx.isFinite (hj.get? hlng), hy.isFinite (hj.get? hlat)⟩
  | listed hx hy =>
    exact ⟨hx.isFinite (hj.getElem? (i := 0) rfl), hy.isFinite (hj.getElem? (i := 1) rfl)⟩

end Vertex

namespace Ring

variable {j : Json} {ring : Ring}

def Finite (ring : Ring) : Prop :=
  ∀ v ∈ ring, v.Finite

theorem ofJson_toJson (h : ring.Finite) : Ring.ofJson (Ring.toJson ring) = .ok ring := by
  apply mapM_eq_ok_iff.mpr
  apply List.forall₂_map_left_iff.mpr
  exact List.forall₂_same.mpr fun v hv => Vertex.ofJson_toJson (h v hv)

theorem finite_of_ofJson (hj : j.Proper) (h : Ring.ofJson j = .ok ring) : ring.Finite := by
  obtain ⟨items, rfl, hitems⟩ := list_eq_ok_iff.mp h
  clear h
  cases hj with
  | array hj =>
    induction hitems with
    | nil => exact List.forall_mem_nil _
    | cons hv _ ih =>
      obtain ⟨hi, hrest⟩ := List.forall_mem_cons.mp hj
      exact List.forall_mem_cons.mpr ⟨Vertex.finite_of_ofJson hi hv, ih hrest⟩

end Ring

namespace Polygon

variable {j : Json} {p : Polygon}

theorem ring_finite (p : Polygon) : p.ring.Finite := by
  intro v hv
  exact ((Ring.defect_eq_none.mp p.sound).1.inRange v hv).finite

theorem ofJson_toJson (p : Polygon) : Polygon.ofJson p.toJson = .ok p := by
  have hring : Ring.ofJson p.toJson = .ok p.ring := Ring.ofJson_toJson p.ring_finite
  have hpolygon : Polygon.ofRing p.ring = .ok p := ofRing_eq_ok_iff.mpr rfl
  simp only [Polygon.ofJson, hring, bind, Except.bind, hpolygon, Except.mapError]

theorem ofJson_eq_ok_iff_ring : Polygon.ofJson j = .ok p ↔ Ring.ofJson j = .ok p.ring := by
  rw [ofJson_eq_ok_iff, Ring.ofJson_eq_ok_iff]

end Polygon

namespace BoundingBox

variable {j : Json} {b : BoundingBox}

theorem ofJson_toJson (h : b.Finite) : BoundingBox.ofJson b.toJson = .ok b := by
  apply decode_object
  simp only [bind_eq_ok_iff, required_eq_ok_iff, number_eq_ok_iff]
  exact ⟨_, ⟨_, rfl, isNumber_ofFloat h.minLng⟩, _, ⟨_, rfl, isNumber_ofFloat h.minLat⟩,
    _, ⟨_, rfl, isNumber_ofFloat h.maxLng⟩, _, ⟨_, rfl, isNumber_ofFloat h.maxLat⟩, rfl⟩

theorem finite_of_ofJson (hj : j.Proper) (h : BoundingBox.ofJson j = .ok b) : b.Finite := by
  obtain ⟨p, hp, hbuild⟩ := hj.parts h
  simp only [bind_eq_ok_iff, required_eq_ok_iff, number_eq_ok_iff] at hbuild
  obtain ⟨_, ⟨west, hwest, hminLng⟩, _, ⟨south, hsouth, hminLat⟩, _, ⟨east, heast, hmaxLng⟩, _,
    ⟨north, hnorth, hmaxLat⟩, hb⟩ := hbuild
  cases hb
  exact ⟨hminLng.isFinite (hp _ _ _ hwest), hminLat.isFinite (hp _ _ _ hsouth), hmaxLng.isFinite (hp _ _ _ heast),
    hmaxLat.isFinite (hp _ _ _ hnorth)⟩

end BoundingBox

end FarmRegistry
