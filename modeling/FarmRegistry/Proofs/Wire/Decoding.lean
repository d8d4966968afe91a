import FarmRegistry.Proofs.Order.Outcomes
import FarmRegistry.Wire.Geometry

namespace FarmRegistry

namespace Json

inductive IsNumber : Json → Float → Prop where
  | whole (n : Int) : IsNumber (.integer n) (floatOfDecimal (n < 0) n.natAbs 0)
  | decimal (x : Float) : IsNumber (.decimal x) x

section Decoders

variable {α : Type} {s : Shape} {build : Parts → Except DecodeError α} {item : Decoder α} {j : Json} {a : α}

theorem number_eq_ok_iff {x : Float} : Decode.number j = .ok x ↔ j.IsNumber x := by
  constructor
  · intro h
    cases j with
    | integer n =>
      cases h
      exact .whole n
    | decimal y =>
      cases h
      exact .decimal x
    | _ => cases h
  · rintro (n | x)
    · rfl
    · rfl

theorem text_eq_ok_iff {t : String} : Decode.text j = .ok t ↔ j = .string t := by
  cases j <;> simp [Decode.text]

theorem bounded_eq_ok_iff {lo hi : Int} {b : Bounded lo hi} : Decode.bounded lo hi j = .ok b ↔ j = .integer b.val := by
  cases j with
  | integer n =>
    have hval : Json.integer n = .integer b.val ↔ (Bounded.ofInt? n : Option (Bounded lo hi)) = some b := by
      rw [Json.integer.injEq, Bounded.ofInt?_eq_some_iff, eq_comm]
    rw [hval, Decode.bounded]
    cases (Bounded.ofInt? n : Option (Bounded lo hi)) <;> simp
  | _ => simp [Decode.bounded]

theorem list_eq_ok_iff {l : List α} :
    Decode.list item j = .ok l ↔ ∃ items, j = .array items ∧ List.Forall₂ (fun i a => item i = .ok a) items l := by
  constructor
  · intro h
    cases j with
    | array items => exact ⟨items, rfl, mapM_eq_ok_iff.mp h⟩
    | _ => cases h
  · rintro ⟨items, rfl, h⟩
    exact mapM_eq_ok_iff.mpr h

theorem decode_eq_ok_iff :
    s.decode build j = .ok a ↔
      (∃ fields, j = .object fields ∧ build (.named fields) = .ok a) ∨
        ∃ items, j = .array items ∧ build (.listed items) = .ok a ∧ items.length ≤ s.names.length := by
  constructor
  · intro h
    obtain ⟨p, hp, h⟩ := bind_eq_ok_iff.mp h
    obtain ⟨b, hb, h⟩ := bind_eq_ok_iff.mp h
    cases j with
    | object fields =>
      cases hp
      cases h
      exact .inl ⟨fields, rfl, hb⟩
    | array items =>
      cases hp
      simp only at h
      split at h
      · cases h
      · rename_i hlength
        cases h
        exact .inr ⟨items, rfl, hb, Nat.le_of_not_lt hlength⟩
    | _ => cases hp
  · rintro (⟨fields, rfl, hb⟩ | ⟨items, rfl, hb, hlength⟩)
    · exact bind_eq_ok_iff.mpr ⟨_, rfl, bind_eq_ok_iff.mpr ⟨a, hb, rfl⟩⟩
    · refine bind_eq_ok_iff.mpr ⟨_, rfl, bind_eq_ok_iff.mpr ⟨a, hb, ?_⟩⟩
      exact if_neg (Nat.not_lt.mpr hlength)

theorem decode_object {fields : Fields} (h : build (.named fields) = .ok a) : s.decode build (.object fields) = .ok a :=
  decode_eq_ok_iff.mpr (.inl ⟨fields, rfl, h⟩)

theorem required_eq_ok_iff {p : Parts} {i : ℕ} {decode : Decoder α} :
    s.required p i decode = .ok a ↔ ∃ j, p.get? i (s.names.getD i "") = some j ∧ decode j = .ok a := by
  rw [Shape.required]
  cases p.get? i (s.names.getD i "") <;> simp

theorem nullable_named {fields : Fields} {i : ℕ} :
    s.nullable (.named fields) i item = Decode.optional item ((fields.get? (s.names.getD i "")).getD .null) := by
  unfold Shape.nullable Parts.get?
  cases h : Fields.get? fields (s.names.getD i "") <;> simp only [h] <;> rfl

theorem nullable_listed_eq_ok_iff {items : List Json} {i : ℕ} {o : Option α} :
    s.nullable (.listed items) i item = .ok o ↔ ∃ j, items[i]? = some j ∧ Decode.optional item j = .ok o := by
  unfold Shape.nullable Parts.get?
  cases h : items[i]? <;> simp [h]

theorem optional_number {j : Option Json} {x : Option Float} (h : j.mapM Decode.number = .ok x) :
    j = none ∧ x = none ∨ ∃ i y, j = some i ∧ x = some y ∧ i.IsNumber y := by
  cases j with
  | none =>
    cases h
    exact .inl ⟨rfl, rfl⟩
  | some i =>
    obtain ⟨y, hy, h⟩ := bind_eq_ok_iff.mp h
    cases h
    exact .inr ⟨i, y, rfl, rfl, number_eq_ok_iff.mp hy⟩

theorem items_eq {items parts : List Json} (hlength : items.length ≤ parts.length)
    (h : ∀ p ∈ parts.zipIdx, items[p.2]? = some p.1) : items = parts := by
  apply List.ext_getElem?
  intro i
  by_cases hi : i < parts.length
  · have hpart : parts[i]? = some parts[i] := List.getElem?_eq_getElem hi
    rw [hpart]
    exact h (parts[i], i) (List.mk_mem_zipIdx_iff_getElem?.mpr hpart)
  · have hbeyond : parts.length ≤ i := Nat.le_of_not_lt hi
    rw [List.getElem?_eq_none hbeyond, List.getElem?_eq_none (Nat.le_trans hlength hbeyond)]

end Decoders

end Json

open Json

inductive Vertex.Told : Json → Vertex → Prop where
  | named {fields : Fields} {lng lat : Json} {v : Vertex} (hlng : fields.get? "lng" = some lng)
    (hlat : fields.get? "lat" = some lat) (hx : lng.IsNumber v.lng) (hy : lat.IsNumber v.lat) :
    Told (.object fields) v
  | listed {lng lat : Json} {v : Vertex} (hx : lng.IsNumber v.lng) (hy : lat.IsNumber v.lat) :
    Told (.array [lng, lat]) v

def Ring.Told (j : Json) (ring : Ring) : Prop :=
  ∃ items, j = .array items ∧ List.Forall₂ Vertex.Told items ring

theorem Vertex.ofJson_eq_ok_iff {j : Json} {v : Vertex} : Vertex.ofJson j = .ok v ↔ Told j v := by
  rw [Vertex.ofJson, decode_eq_ok_iff]
  constructor
  · rintro (⟨fields, rfl, h⟩ | ⟨items, rfl, h, hlength⟩)
    · obtain ⟨y, hy, h⟩ := bind_eq_ok_iff.mp h
      obtain ⟨x, hx, h⟩ := bind_eq_ok_iff.mp h
      rcases optional_number hx with ⟨_, rfl⟩ | ⟨lng, x, hlng, rfl, hlng'⟩
      · cases h
      rcases optional_number hy with ⟨_, rfl⟩ | ⟨lat, y, hlat, rfl, hlat'⟩
      · cases h
      cases h
      exact .named hlng hlat hlng' hlat'
    · obtain ⟨x, hx, h⟩ := bind_eq_ok_iff.mp h
      obtain ⟨y, hy, h⟩ := bind_eq_ok_iff.mp h
      cases h
      obtain ⟨lng, hlng, hx⟩ := required_eq_ok_iff.mp hx
      obtain ⟨lat, hlat, hy⟩ := required_eq_ok_iff.mp hy
      obtain rfl : items = [lng, lat] := items_eq hlength (by simpa using ⟨hlng, hlat⟩)
      exact .listed (number_eq_ok_iff.mp hx) (number_eq_ok_iff.mp hy)
  · rintro (⟨hlng, hlat, hx, hy⟩ | ⟨hx, hy⟩)
    · refine .inl ⟨_, rfl, ?_⟩
      simp only [hlng, hlat, Option.mapM_some, number_eq_ok_iff.mpr hx, number_eq_ok_iff.mpr hy]
      rfl
    · refine .inr ⟨_, rfl, ?_, Nat.le_refl 2⟩
      refine bind_eq_ok_iff.mpr ⟨_, number_eq_ok_iff.mpr hx, bind_eq_ok_iff.mpr ⟨_, number_eq_ok_iff.mpr hy, rfl⟩⟩

theorem Ring.ofJson_eq_ok_iff {j : Json} {ring : Ring} : Ring.ofJson j = .ok ring ↔ Ring.Told j ring := by
  simp only [Ring.ofJson, list_eq_ok_iff, Vertex.ofJson_eq_ok_iff, Ring.Told]

theorem Polygon.ofJson_eq_ok_iff {j : Json} {p : Polygon} : Polygon.ofJson j = .ok p ↔ Ring.Told j p.ring := by
  constructor
  · intro h
    obtain ⟨ring, hring, h⟩ := bind_eq_ok_iff.mp h
    rw [Polygon.ofRing_eq_ok_iff.mp (mapError_eq_ok_iff.mp h)]
    exact Ring.ofJson_eq_ok_iff.mp hring
  · intro h
    have hvalid : Polygon.ofRing p.ring = .ok p := Polygon.ofRing_eq_ok_iff.mpr rfl
    exact bind_eq_ok_iff.mpr ⟨p.ring, Ring.ofJson_eq_ok_iff.mpr h, mapError_eq_ok_iff.mpr hvalid⟩

theorem Metadata.ofJson?_eq_some_iff {j : Json} {m : Metadata} :
    Metadata.ofJson? j = some m ↔ j = m.toJson ∨ j = .null ∧ m = .empty := by
  constructor
  · intro h
    cases j with
    | null =>
      cases h
      exact .inr ⟨rfl, rfl⟩
    | object fields =>
      cases h
      exact .inl rfl
    | _ => cases h
  · rintro (rfl | ⟨rfl, rfl⟩)
    · exact m.ofJson?_toJson
    · rfl

end FarmRegistry
