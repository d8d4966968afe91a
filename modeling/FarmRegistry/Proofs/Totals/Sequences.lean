import FarmRegistry.Proofs.Store.Commit
import FarmRegistry.Proofs.Totals.Refusals

namespace FarmRegistry

namespace Farmer

variable {f g : Farmer} {d : TotalsDelta} {ds es : List TotalsDelta} {e : TotalsError}

def reckoned (f : Farmer) (ds : List TotalsDelta) : Int × Int :=
  f.standing + (ds.map TotalsDelta.amount).sum

def follow (f : Farmer) : List TotalsDelta → Farmer × Option TotalsError
  | [] => (f, none)
  | d :: ds =>
    match f.apply d with
    | .ok g => g.follow ds
    | .error e => (f, some e)

theorem reckoned_nil : f.reckoned [] = f.standing := add_zero _

theorem reckoned_cons (h : f.apply d = .ok g) : f.reckoned (d :: ds) = g.reckoned ds := by
  rw [reckoned, reckoned, (apply_eq_ok_iff.mp h).2.2.1, List.map_cons, List.sum_cons, add_assoc]

theorem reckoned_concat (h : g.standing = f.reckoned ds) : g.standing + d.amount = f.reckoned (ds ++ [d]) := by
  rw [h, reckoned, reckoned, List.map_append, List.sum_append, List.map_singleton, List.sum_singleton, add_assoc]

theorem reckoned_perm (h : es.Perm ds) : f.reckoned es = f.reckoned ds := by
  rw [reckoned, reckoned, (h.map TotalsDelta.amount).sum_eq]

theorem foldlM_apply_eq_ok_iff (hf : Totals.Fits f.standing) (hds : ∀ d ∈ ds, d.farmerId = f.id) :
    ds.foldlM apply f = .ok g ↔
      g.id = f.id ∧ g.standing = f.reckoned ds ∧ ∀ front, front <+: ds → Totals.Fits (f.reckoned front) := by
  induction ds generalizing f with
  | nil =>
    simp only [List.prefix_nil, forall_eq, reckoned_nil, hf, and_true]
    constructor
    · intro h
      obtain rfl := Except.ok.inj h
      exact ⟨rfl, rfl⟩
    · rintro ⟨hid, hstand⟩
      exact congrArg Except.ok (ext_standing hid hstand).symm
  | cons d ds ih =>
    obtain ⟨hid, hrest⟩ := List.forall_mem_cons.mp hds
    rw [List.foldlM_cons, bind_eq_ok_iff]
    constructor
    · rintro ⟨h, happly, hfold⟩
      obtain ⟨_, hhid, _, hfits⟩ := apply_eq_ok_iff.mp happly
      obtain ⟨hgid, hstand, hfront⟩ := (ih hfits (hhid ▸ hrest)).mp hfold
      refine ⟨hgid.trans hhid, hstand.trans (reckoned_cons happly).symm, ?_⟩
      intro front hprefix
      rcases List.prefix_cons_iff.mp hprefix with rfl | ⟨later, rfl, hlater⟩
      · rw [reckoned_nil]
        exact hf
      · rw [reckoned_cons happly]
        exact hfront later hlater
    · rintro ⟨hgid, hstand, hfront⟩
      have hone : f.reckoned [d] = f.standing + d.amount := (reckoned_concat reckoned_nil.symm).symm
      obtain ⟨h, happly⟩ := exists_apply_iff.mpr ⟨hid, hone ▸ hfront [d] ⟨ds, rfl⟩⟩
      obtain ⟨_, hhid, _, hfits⟩ := apply_eq_ok_iff.mp happly
      refine ⟨h, happly, (ih hfits (hhid ▸ hrest)).mpr ⟨hgid.trans hhid.symm, ?_, ?_⟩⟩
      · rw [hstand, reckoned_cons happly]
      · intro front hprefix
        rw [← reckoned_cons happly]
        exact hfront (d :: front) (List.prefix_cons_iff.mpr (.inr ⟨front, rfl, hprefix⟩))

theorem exists_foldlM_apply_iff (hf : Totals.Fits f.standing) (hds : ∀ d ∈ ds, d.farmerId = f.id) :
    (∃ g, ds.foldlM apply f = .ok g) ↔ ∀ front, front <+: ds → Totals.Fits (f.reckoned front) := by
  constructor
  · rintro ⟨g, hg⟩
    exact ((foldlM_apply_eq_ok_iff hf hds).mp hg).2.2
  · intro hfront
    obtain ⟨t, ht⟩ := Totals.exists_of_fits (hfront ds (List.prefix_refl ds))
    exact ⟨reconciled f.id t, (foldlM_apply_eq_ok_iff hf hds).mpr ⟨rfl, ht, hfront⟩⟩

theorem foldlM_apply_of_refused (hds : ds.foldlM apply f = .ok g) (hd : g.apply d = .error e) :
    (ds ++ d :: es).foldlM apply f = .error e := by
  rw [List.foldlM_append, hds]
  change (d :: es).foldlM apply g = .error e
  rw [List.foldlM_cons, hd]
  rfl

theorem follow_of_refused (hds : ds.foldlM apply f = .ok g) (hd : g.apply d = .error e) :
    f.follow (ds ++ d :: es) = (g, some e) := by
  induction ds generalizing f with
  | nil =>
    obtain rfl := Except.ok.inj hds
    rw [List.nil_append, follow, hd]
  | cons c ds ih =>
    rw [List.foldlM_cons] at hds
    obtain ⟨h, hc, hds⟩ := bind_eq_ok_iff.mp hds
    rw [List.cons_append, follow, hc]
    exact ih hds

/-- Changes of one farmer add up exactly, in whatever order they can be followed. They can be followed just as long as
the exact sums are totals, and the first that leads elsewhere is refused for where it leads, with the farmer kept as the
changes before it left them. -/
theorem changes_add_up :
    (∀ (f : Farmer) (ds : List TotalsDelta), 0 ≤ f.totalArea.val → (∀ d ∈ ds, d.farmerId = f.id) →
      (∀ g, ds.foldlM apply f = .ok g → g.id = f.id ∧ g.standing = f.reckoned ds) ∧
      (∀ (es : List TotalsDelta) (g h : Farmer), es.Perm ds → ds.foldlM apply f = .ok g → es.foldlM apply f = .ok h →
        h = g) ∧
      ((∃ g, ds.foldlM apply f = .ok g) ↔ ∀ front, front <+: ds → Totals.Fits (f.reckoned front)) ∧
      ∀ front d back, ds = front ++ d :: back → (∀ part, part <+: front → Totals.Fits (f.reckoned part)) →
        ¬Totals.Fits (f.reckoned (front ++ [d])) →
          ∃ g e, front.foldlM apply f = .ok g ∧ g.apply d = .error e ∧ ds.foldlM apply f = .error e ∧
            f.follow ds = (g, some e) ∧
            (Totals.Short (f.reckoned (front ++ [d])) → ¬Totals.Excessive (f.reckoned (front ++ [d])) →
              e = .negative f.id) ∧
            (Totals.Excessive (f.reckoned (front ++ [d])) → ¬Totals.Short (f.reckoned (front ++ [d])) →
              e = .overflow f.id)) ∧
    ∀ (f : Farmer) (d : TotalsDelta), d.farmerId ≠ f.id → f.apply d = .error (.mismatchedFarmer f.id d.farmerId) := by
  refine ⟨?_, fun f d => apply_foreign⟩
  intro f ds hnonneg hds
  have hf := standing_fits_iff.mpr hnonneg
  refine ⟨?_, ?_, exists_foldlM_apply_iff hf hds, ?_⟩
  · intro g hg
    obtain ⟨hid, hstand, _⟩ := (foldlM_apply_eq_ok_iff hf hds).mp hg
    exact ⟨hid, hstand⟩
  · intro es g h hperm hg hh
    have hes : ∀ d ∈ es, d.farmerId = f.id := fun d hd => hds d (hperm.mem_iff.mp hd)
    obtain ⟨hgid, hgstand, _⟩ := (foldlM_apply_eq_ok_iff hf hds).mp hg
    obtain ⟨hhid, hhstand, _⟩ := (foldlM_apply_eq_ok_iff hf hes).mp hh
    exact ext_standing (hhid.trans hgid.symm) (by rw [hhstand, hgstand, reckoned_perm hperm])
  · rintro front d back rfl hfront hnext
    obtain ⟨hfrontIds, hrest⟩ := List.forall_mem_append.mp hds
    -- The changes before it can be followed, so it is this one that is refused, for where it leads.
    obtain ⟨g, hg⟩ := (exists_foldlM_apply_iff hf hfrontIds).mpr hfront
    obtain ⟨hgid, hgstand, hgfront⟩ := (foldlM_apply_eq_ok_iff hf hfrontIds).mp hg
    have hid : d.farmerId = g.id := (List.forall_mem_cons.mp hrest).1.trans hgid.symm
    have hsums : g.standing + d.amount = f.reckoned (front ++ [d]) := reckoned_concat hgstand
    cases happly : g.apply d with
    | ok h => exact absurd (hsums ▸ (exists_apply_iff.mp ⟨h, happly⟩).2) hnext
    | error e =>
      have hgnonneg : 0 ≤ g.totalArea.val := (hgstand ▸ hgfront front (List.prefix_refl front)).1.1
      have hreason := apply_refused_of_nonneg hgnonneg hid happly
      rw [hsums, hgid] at hreason
      refine ⟨g, e, hg, happly, foldlM_apply_of_refused hg happly, follow_of_refused hg happly, ?_, ?_⟩
      · intro _ hexcess
        rcases hreason with ⟨he, _⟩ | ⟨_, habove⟩
        · exact he
        · exact absurd habove hexcess
      · intro _ hshort
        rcases hreason with ⟨_, hbelow⟩ | ⟨he, _⟩
        · exact absurd hbelow hshort
        · exact he

theorem entries_add_up :
    let f := Farmer.new MemoryStore.giver
    let first := TotalsDelta.gain MemoryStore.giver (.ofNat 5)
    let second := TotalsDelta.gain MemoryStore.giver (.ofNat 3)
    let third := TotalsDelta.gain MemoryStore.giver (.ofNat 9223372036854775800)
    ∃ g, [first, second].foldlM apply f = .ok g ∧ [second, first].foldlM apply f = .ok g ∧ g.standing = (8, 2) ∧
      f.follow [first, second, third] = (g, some (.overflow MemoryStore.giver)) ∧
      g.apply (.gain MemoryStore.taker .zero) = .error (.mismatchedFarmer MemoryStore.giver MemoryStore.taker) := by
  intro f first second third
  have hnonneg : 0 ≤ f.totalArea.val := Int.le_refl 0
  have hboth : ∀ d ∈ [first, second], d.farmerId = f.id := by simp [f, first, second, TotalsDelta.gain, new]
  have hall : ∀ d ∈ [first, second, third], d.farmerId = f.id := by
    simp [f, first, second, third, TotalsDelta.gain, new]
  obtain ⟨hexact, hperm, hfits, _⟩ := changes_add_up.1 f [first, second] hnonneg hboth
  obtain ⟨_, _, _, hrefused⟩ := changes_add_up.1 f [first, second, third] hnonneg hall
  obtain ⟨g, hg⟩ : ∃ g, [first, second].foldlM apply f = .ok g := ⟨_, rfl⟩
  obtain ⟨h, hh⟩ : ∃ h, [second, first].foldlM apply f = .ok h := ⟨_, rfl⟩
  obtain rfl := hperm [second, first] g h (.swap first second []) hg hh
  obtain ⟨hid, hstand⟩ := hexact h hg
  have hover : f.reckoned ([first, second] ++ [third]) = (9223372036854775808, 3) := by decide
  have hexcess : Totals.Excessive (f.reckoned ([first, second] ++ [third])) := by
    rw [hover]
    exact .inl (by decide)
  have hshort : ¬Totals.Short (f.reckoned ([first, second] ++ [third])) := by
    rw [hover]
    exact fun h => h.elim (by decide) (by decide)
  have hnext : ¬Totals.Fits (f.reckoned ([first, second] ++ [third])) := Totals.not_fits_iff.mpr (.inr hexcess)
  obtain ⟨k, e, hk, _, _, hfollow, _, hoverflow⟩ := hrefused [first, second] third [] rfl (hfits.mp ⟨h, hg⟩) hnext
  obtain rfl := Except.ok.inj (hk.symm.trans hg)
  obtain rfl := hoverflow hexcess hshort
  refine ⟨k, hk, hh, hstand, hfollow, ?_⟩
  have hother : MemoryStore.taker ≠ k.id := by
    rw [hid]
    decide
  rw [changes_add_up.2 k (.gain MemoryStore.taker .zero) hother, hid]
  rfl

end Farmer

end FarmRegistry
