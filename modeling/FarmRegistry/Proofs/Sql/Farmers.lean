import FarmRegistry.Proofs.Sql.Session
import FarmRegistry.Proofs.Store.Commit
import FarmRegistry.Proofs.Totals.Refusals
import FarmRegistry.Sql.Store

namespace FarmRegistry.Sql

open Session

theorem StoredFarmer.toFarmer_eq_error_iff {r : StoredFarmer} {e : StoreError} :
    r.toFarmer = .error e ↔
      e = .query (TotalsError.negative r.id).message ∧ ¬Totals.Fits (r.totalArea.val, r.farmCount.val) := by
  simp only [toFarmer, mapError_eq_error_iff, Farmer.ofParts_eq_error_iff]
  constructor
  · rintro ⟨_, ⟨rfl, hfits⟩, rfl⟩
    exact ⟨rfl, hfits⟩
  · rintro ⟨rfl, hfits⟩
    exact ⟨_, ⟨rfl, hfits⟩, rfl⟩

section Calls

variable {δ α : Type} {db : Database δ} {i : FarmerId} {s : δ} {r : StoredFarmer}

structure Finds (db : Database δ) (i : FarmerId) (s : δ) (r : StoredFarmer) : Prop where
  sound : (db (.findFarmer i) s).1.failure? = none
  row : (db (.findFarmer i) s).1.toRows.head?.map StoredFarmer.ofRow? = some (some r)

theorem outcome_explained {x : Session δ QueryError α} {f : QueryError → StoreError} {c d : Connection δ} {a : α}
    (h : x.outcome c = (.ok a, d)) : (x.explained f).outcome c = (.ok a, d) := by
  rw [explained, outcome_bind, outcome_attempt, h]
  rfl

theorem Finds.first? {c : Connection δ} (h : Finds db i c.state r) :
    ∃ d, (first? db StoredFarmer.ofRow? (.findFarmer i)).outcome c = (.ok (some r), d) := by
  have hread : (db (.findFarmer i) c.state).1.first? StoredFarmer.ofRow? = .ok (some r) :=
    Answer.first?_eq_ok_iff.mpr h.row
  rw [asks_first? db StoredFarmer.ofRow? (.findFarmer i) c, Answer.outcome_of_sound h.sound]
  exact ⟨_, Prod.ext hread rfl⟩

theorem Finds.first {c : Connection δ} (h : Finds db i c.state r) :
    ∃ d, (first db StoredFarmer.ofRow? (.findFarmer i)).outcome c = (.ok r, d) := by
  obtain ⟨d, hfirst⟩ := h.first?
  exact ⟨d, outcome_bind_ok hfirst⟩

theorem Finds.findFarmer (h : Finds db i s r) :
    (store db (.findFarmer i) s).outcome = (r.toFarmer.map some).mapError .refused := by
  obtain ⟨d, hfirst⟩ := Finds.first? (c := ⟨s, []⟩) h
  change ((Sql.findFarmer db i).outcome ⟨s, []⟩).1 = _
  rw [Sql.findFarmer, plain, outcome_bind_ok (outcome_explained hfirst)]
  rfl

theorem Finds.registerFarmer (hentered : (db (.registerFarmer i) s).1.failure? = none)
    (h : Finds db i (db (.registerFarmer i) s).2 r) :
    (store db (.registerFarmer i) s).outcome = r.toFarmer.mapError .refused := by
  have hread : ∀ events, ((do ofExcept (← plain (Session.first db StoredFarmer.ofRow? (.findFarmer i))).toFarmer).outcome
      ⟨(db (.registerFarmer i) s).2, events⟩).1 = r.toFarmer.mapError .refused := by
    intro events
    obtain ⟨d, hfirst⟩ := Finds.first (c := ⟨(db (.registerFarmer i) s).2, events⟩) h
    rw [plain, outcome_bind_ok (outcome_explained hfirst)]
    rfl
  have hcount := asks_count db (.registerFarmer i) ⟨s, []⟩
  rw [Answer.outcome_of_sound hentered] at hcount
  change ((Sql.registerFarmer db i).outcome ⟨s, []⟩).1 = _
  rw [Sql.registerFarmer, plain, outcome_bind_ok (outcome_explained hcount)]
  split
  · exact hread _
  · exact hread _

end Calls

/-- Stored totals make a farmer just when both are in range. Otherwise they are refused as being below zero, which is
wrong just where the count alone is above its range, and a change from nothing to them is refused for the same reason.
What a store says of a farmer whose row it finds is what is made of the row. -/
theorem stored_totals_refused (r : StoredFarmer) :
    let made := Farmer.ofParts r.id r.totalArea r.farmCount.val
    let short := r.totalArea.val < 0 ∨ r.farmCount.val < 0
    (made = .error (.negative r.id) ↔ short ∨ 4294967295 < r.farmCount.val) ∧
      ((made = .error (.negative r.id) ↔ short) ↔ r.totalArea.val < 0 ∨ r.farmCount.val ≤ 4294967295) ∧
      (∀ e, made = .error e → e = .negative r.id) ∧
      (0 ≤ r.totalArea.val → 0 ≤ r.farmCount.val → r.farmCount.val ≤ 4294967295 →
        ∃ f, made = .ok f ∧ f.id = r.id ∧ f.totalArea = r.totalArea ∧ f.farmCount.val = r.farmCount.val) ∧
      (∀ d : TotalsDelta, d.farmerId = r.id → d.area = r.totalArea → d.farmCount.val = r.farmCount.val →
        (Farmer.new r.id).apply d = made) ∧
      (∀ e, r.toFarmer = .error e ↔
        e = .query (TotalsError.negative r.id).message ∧ (short ∨ 4294967295 < r.farmCount.val)) ∧
      ∀ (δ : Type) (db : Database δ) (i : FarmerId) (s : δ),
        (Finds db i s r → (store db (.findFarmer i) s).outcome = (r.toFarmer.map some).mapError .refused) ∧
          ((db (.registerFarmer i) s).1.failure? = none → Finds db i (db (.registerFarmer i) s).2 r →
            (store db (.registerFarmer i) s).outcome = r.toFarmer.mapError .refused) := by
  intro made short
  have hunfit : ¬Totals.Fits (r.totalArea.val, r.farmCount.val) ↔ short ∨ 4294967295 < r.farmCount.val :=
    Farmer.not_fits_parts_iff.trans or_assoc.symm
  have hnegative : made = .error (.negative r.id) ↔ short ∨ 4294967295 < r.farmCount.val := by
    rw [← hunfit, Farmer.ofParts_eq_error_iff]
    exact and_iff_right rfl
  refine ⟨hnegative, ?_, fun e he => (Farmer.ofParts_eq_error_iff.mp he).1, ?_, ?_, ?_,
    fun δ db i s => ⟨Finds.findFarmer, Finds.registerFarmer⟩⟩
  · rw [hnegative]
    simp only [short]
    omega
  · intro harea hlo hhi
    obtain ⟨f, hf⟩ := (Farmer.exists_ofParts_iff (i := r.id)).mpr ⟨⟨harea, r.totalArea.le_hi⟩, hlo, hhi⟩
    exact ⟨f, hf, (Farmer.ofParts_eq_ok_iff.mp hf).2⟩
  · intro d hid harea hcount
    simp only [made, ← harea, ← hcount]
    exact Farmer.apply_new_eq_ofParts hid
  · intro e
    rw [StoredFarmer.toFarmer_eq_error_iff, hunfit]

def owing : Row :=
  [("id", .uuid MemoryStore.giver.uuid), ("total_area_m2", .integer ⟨-1, by decide, by decide⟩),
    ("farm_count", .integer Area.zero.squareMetres)]

theorem owing_refused :
    let db : Database Unit := fun _ s => (.rows [owing], s)
    (store db (.findFarmer MemoryStore.giver) ()).outcome =
        .error (.refused (.query (TotalsError.negative MemoryStore.giver).message)) ∧
      (store db (.registerFarmer MemoryStore.giver) ()).outcome =
        .error (.refused (.query (TotalsError.negative MemoryStore.giver).message)) ∧
      ∃ d : TotalsDelta, d.area.val = -1 ∧
        (Farmer.new MemoryStore.giver).apply d = .error (.negative MemoryStore.giver) := by
  intro db
  obtain ⟨r, hr, hid, harea, hcount⟩ : ∃ r, StoredFarmer.ofRow? owing = some r ∧ r.id = MemoryStore.giver ∧
      r.totalArea.val = -1 ∧ r.farmCount.val = 0 :=
    ⟨_, rfl, rfl, rfl, rfl⟩
  obtain ⟨hnegative, _, _, _, hchange, hrows, hcalls⟩ := stored_totals_refused r
  have hfinds : ∀ s, Finds db MemoryStore.giver s r := fun s => ⟨rfl, congrArg some hr⟩
  have hshort : (r.totalArea.val < 0 ∨ r.farmCount.val < 0) ∨ 4294967295 < r.farmCount.val := .inl (.inl (by omega))
  have hrefused := (hrows (.query (TotalsError.negative r.id).message)).mpr ⟨rfl, hshort⟩
  obtain ⟨hfind, hregister⟩ := hcalls Unit db MemoryStore.giver ()
  rw [hid] at hrefused hnegative hchange
  refine ⟨?_, ?_, ?_⟩
  · rw [hfind (hfinds _), hrefused]
    rfl
  · rw [hregister rfl (hfinds _), hrefused]
    rfl
  · refine ⟨⟨MemoryStore.giver, r.totalArea, TotalsDelta.noFarm⟩, harea, ?_⟩
    rw [hchange _ rfl rfl hcount.symm]
    exact hnegative.mpr hshort

theorem crowded_refused_as_negative :
    let crowded : StoredFarmer := ⟨MemoryStore.giver, .zero, ⟨4294967296, by decide, by decide⟩⟩
    let full : Farmer := ⟨MemoryStore.giver, .zero, ⟨4294967295, by decide, by decide⟩⟩
    Farmer.ofParts crowded.id crowded.totalArea crowded.farmCount.val = .error (.negative MemoryStore.giver) ∧
      crowded.toFarmer = .error (.query (TotalsError.negative MemoryStore.giver).message) ∧
      full.apply (.gain MemoryStore.giver .zero) = .error (.overflow MemoryStore.giver) :=
  ⟨rfl, rfl, rfl⟩

end FarmRegistry.Sql
