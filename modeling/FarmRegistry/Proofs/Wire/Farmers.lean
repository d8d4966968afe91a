import FarmRegistry.Proofs.Store.Commit
import FarmRegistry.Proofs.Totals.Refusals
import FarmRegistry.Proofs.Wire.Ids
import FarmRegistry.Wire.Farm

namespace FarmRegistry

open Json

theorem Area.ofJson_eq_ok_iff {j : Json} {a : Area} : Area.ofJson j = .ok a ↔ j = a.toJson := by
  rw [Area.ofJson, map_eq_ok_iff, Area.toJson]
  constructor
  · rintro ⟨b, hb, rfl⟩
    exact bounded_eq_ok_iff.mp hb
  · exact fun h => ⟨a.squareMetres, bounded_eq_ok_iff.mpr h, rfl⟩

namespace Farmer

inductive Told : Json → Farmer → Prop where
  | named {fields : Fields} {name : String} {f : Farmer} (hid : fields.get? "id" = some (.string name))
    (hname : Uuid.ofChars? name.toList = some f.id.uuid) (harea : fields.get? "totalArea" = some f.totalArea.toJson)
    (hcount : fields.get? "farmCount" = some (.integer f.farmCount.val)) : Told (.object fields) f
  | listed {name : String} {f : Farmer} (hname : Uuid.ofChars? name.toList = some f.id.uuid) :
    Told (.array [.string name, f.totalArea.toJson, .integer f.farmCount.val]) f

theorem ofJson_eq_ok_iff {j : Json} {f : Farmer} : Farmer.ofJson j = .ok f ↔ Told j f := by
  have hbuild : ∀ p : Parts,
      (do return ⟨← shape.required p 0 FarmerId.ofJson, ← shape.required p 1 Area.ofJson,
        ← shape.required p 2 (Decode.bounded _ _)⟩ : Except DecodeError Farmer) = .ok f ↔
        (∃ name, p.get? 0 "id" = some (.string name) ∧ Uuid.ofChars? name.toList = some f.id.uuid) ∧
          p.get? 1 "totalArea" = some f.totalArea.toJson ∧ p.get? 2 "farmCount" = some (.integer f.farmCount.val) := by
    intro p
    simp only [bind_eq_ok_iff, required_eq_ok_iff, FarmerId.ofJson_eq_ok_iff, Area.ofJson_eq_ok_iff,
      bounded_eq_ok_iff]
    constructor
    · rintro ⟨i, ⟨_, hid, name, rfl, hname⟩, a, ⟨_, harea, rfl⟩, n, ⟨_, hcount, rfl⟩, h⟩
      cases h
      exact ⟨⟨name, hid, hname⟩, harea, hcount⟩
    · rintro ⟨⟨name, hid, hname⟩, harea, hcount⟩
      exact ⟨f.id, ⟨_, hid, name, rfl, hname⟩, f.totalArea, ⟨_, harea, rfl⟩, f.farmCount, ⟨_, hcount, rfl⟩, rfl⟩
  rw [Farmer.ofJson, decode_eq_ok_iff]
  simp only [hbuild]
  constructor
  · rintro (⟨fields, rfl, ⟨name, hid, hname⟩, harea, hcount⟩ |
      ⟨items, rfl, ⟨⟨name, hid, hname⟩, harea, hcount⟩, hlength⟩)
    · exact .named hid hname harea hcount
    · obtain rfl : items = [.string name, f.totalArea.toJson, .integer f.farmCount.val] :=
        items_eq hlength (by simpa using ⟨hid, harea, hcount⟩)
      exact .listed hname
  · rintro (⟨hid, hname, harea, hcount⟩ | ⟨hname⟩)
    · exact .inl ⟨_, rfl, ⟨_, hid, hname⟩, harea, hcount⟩
    · exact .inr ⟨_, rfl, ⟨⟨_, rfl, hname⟩, rfl, rfl⟩, Nat.le_refl 3⟩

/-- The farmers that can come about where no documents are read but these. -/
inductive Obtained (readable : Json → Prop) : Farmer → Prop where
  | new (i : FarmerId) : Obtained readable (.new i)
  | stored {i : FarmerId} {a : Area} {n : Int} {f : Farmer} (h : ofParts i a n = .ok f) : Obtained readable f
  | moved {f g : Farmer} {d : TotalsDelta} (hf : Obtained readable f) (h : f.apply d = .ok g) : Obtained readable g
  | reconciled {i j : FarmerId} {farms : List Farm} {t : Totals} (hfarms : ∀ f ∈ farms, 0 ≤ f.area.val)
    (h : Totals.ofFarms i farms = .ok t) : Obtained readable (.reconciled j t)
  | read {j : Json} {f : Farmer} (hj : readable j) (h : Farmer.ofJson j = .ok f) : Obtained readable f

variable {readable : Json → Prop} {f : Farmer}

theorem Obtained.nonneg_or_read (h : Obtained readable f) :
    0 ≤ f.totalArea.val ∨ ∃ j, readable j ∧ Farmer.ofJson j = .ok f := by
  cases h with
  | new i => exact .inl (Int.le_refl 0)
  | stored h =>
    obtain ⟨hnonneg, _, rfl, _⟩ := ofParts_eq_ok_iff.mp h
    exact .inl hnonneg
  | moved hf h => exact .inl (apply_totalArea_nonneg h)
  | reconciled hfarms h => exact .inl (Totals.ofFarms_nonneg hfarms h)
  | read hj h => exact .inr ⟨_, hj, h⟩

theorem Obtained.nonneg_iff :
    (∀ f, Obtained readable f → 0 ≤ f.totalArea.val) ↔ ∀ j f, readable j → Told j f → 0 ≤ f.totalArea.val := by
  constructor
  · intro h j f hj hf
    exact h f (.read hj (ofJson_eq_ok_iff.mpr hf))
  · intro h f hf
    rcases hf.nonneg_or_read with hnonneg | ⟨j, hj, hread⟩
    · exact hnonneg
    · exact h j f hj (ofJson_eq_ok_iff.mp hread)

/-- A farmer is read from any document that tells one, though stored totals would be refused if below zero. No other
way leads to a total below zero, so none comes about just when no document that is read tells one. -/
theorem negative_only_by_reading (readable : Json → Prop) :
    (∀ j f, Farmer.ofJson j = .ok f ↔ Told j f) ∧
      (∀ j f, Farmer.ofJson j = .ok f →
        ((∃ g, ofParts f.id f.totalArea f.farmCount.val = .ok g) ↔ 0 ≤ f.totalArea.val)) ∧
      (∀ f, Obtained readable f → 0 ≤ f.totalArea.val ∨ ∃ j, readable j ∧ Farmer.ofJson j = .ok f) ∧
      ((∀ f, Obtained readable f → 0 ≤ f.totalArea.val) ↔
        ∀ j f, readable j → Told j f → 0 ≤ f.totalArea.val) := by
  refine ⟨fun j f => ofJson_eq_ok_iff, ?_, fun f => Obtained.nonneg_or_read, Obtained.nonneg_iff⟩
  intro j f _
  rw [exists_ofParts_iff]
  exact standing_fits_iff

theorem nonneg_from_holder :
    let holder : Json := .array [.string "00000000-0000-0000-0000-000000000001", .integer 5, .integer 1]
    (∃ f, Obtained (· = holder) f ∧ f.id = MemoryStore.giver ∧ f.totalArea.val = 5 ∧
        ∃ g, ofParts f.id f.totalArea f.farmCount.val = .ok g) ∧
      ∀ f, Obtained (· = holder) f → 0 ≤ f.totalArea.val := by
  intro holder
  obtain ⟨hread, hparts, _, hsafe⟩ := negative_only_by_reading (· = holder)
  let f : Farmer := ⟨MemoryStore.giver, .ofNat 5, Totals.increment Totals.zeroCount⟩
  have hname : Uuid.ofChars? "00000000-0000-0000-0000-000000000001".toList = some f.id.uuid := by decide +kernel
  have htold : Farmer.ofJson holder = .ok f := (hread holder f).mpr (.listed hname)
  have hnonneg : ∀ f, Obtained (· = holder) f → 0 ≤ f.totalArea.val := by
    apply hsafe.mpr
    rintro j g rfl hg
    obtain rfl := Except.ok.inj (htold.symm.trans ((hread holder g).mpr hg))
    exact Area.ofNat_val_nonneg 5
  have hf : Obtained (· = holder) f := .read rfl htold
  exact ⟨⟨f, hf, rfl, rfl, (hparts holder f htold).mpr (hnonneg f hf)⟩, hnonneg⟩

theorem negative_is_read :
    let owing : Json := .object [("id", .string "00000000-0000-0000-0000-000000000001"),
      ("totalArea", .integer (-1)), ("farmCount", .integer 0)]
    ∃ f, Farmer.ofJson owing = .ok f ∧ Obtained (fun _ => True) f ∧ f.totalArea.val = -1 ∧
      ofParts f.id f.totalArea f.farmCount.val = .error (.negative f.id) := by
  intro owing
  let f : Farmer := ⟨MemoryStore.giver, ⟨⟨-1, by decide, by decide⟩⟩, Totals.zeroCount⟩
  have htold : Farmer.ofJson owing = .ok f := ofJson_eq_ok_iff.mpr (.named rfl (by decide +kernel) rfl rfl)
  exact ⟨f, htold, .read trivial htold, rfl, rfl⟩

end Farmer

end FarmRegistry
