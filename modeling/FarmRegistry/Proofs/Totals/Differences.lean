import FarmRegistry.Proofs.Order.Sorting
import FarmRegistry.Proofs.Store.Commit

namespace FarmRegistry

namespace TotalsDelta

def contributed (i : FarmerId) (f : Option Farm) : Int × Int :=
  (f.bind Farm.contribution).elim 0 (amountFor i)

structure Records (ds : List TotalsDelta) (change : FarmerId → Int × Int) : Prop where
  ordered : Ordered ds
  nonzero : ∀ d ∈ ds, d.amount ≠ 0
  sums : ∀ i, sumFor i ds = change i

def entry (d : TotalsDelta) : FarmerId × Int × Int :=
  (d.farmerId, d.amount)

theorem Ordered.entries {ds : List TotalsDelta} (h : Ordered ds) :
    (ds.map entry).Pairwise fun x y => x.1.rank < y.1.rank :=
  List.pairwise_map.mpr h

theorem Records.mem_entries {ds : List TotalsDelta} {change : FarmerId → Int × Int} (h : Records ds change)
    {i : FarmerId} {x : Int × Int} : (i, x) ∈ ds.map entry ↔ change i = x ∧ x ≠ 0 := by
  constructor
  · intro hmem
    obtain ⟨d, hd, hentry⟩ := List.mem_map.mp hmem
    cases hentry
    exact ⟨by rw [← h.sums, sumFor_of_mem h.ordered.nodup hd], h.nonzero d hd⟩
  · rintro ⟨rfl, hne⟩
    by_cases hnamed : ∃ d ∈ ds, d.farmerId = i
    · obtain ⟨d, hd, rfl⟩ := hnamed
      rw [← h.sums, sumFor_of_mem h.ordered.nodup hd]
      exact List.mem_map_of_mem hd
    · push Not at hnamed
      rw [← h.sums, sumFor_absent hnamed] at hne
      exact absurd rfl hne

theorem Records.entries_neg {ds es : List TotalsDelta} {change : FarmerId → Int × Int} (hd : Records ds change)
    (he : Records es fun i => -change i) : es.map entry = ds.map fun d => (d.farmerId, -d.amount) := by
  have hnegated : (ds.map fun d => (d.farmerId, -d.amount)).Pairwise fun x y => x.1.rank < y.1.rank :=
    List.pairwise_map.mpr hd.ordered
  apply eq_of_pairwise_rank (fun x : FarmerId × Int × Int => x.1.rank) he.ordered.entries hnegated
  rintro ⟨i, x⟩
  have hopposite : (i, x) ∈ (ds.map fun d => (d.farmerId, -d.amount)) ↔ (i, -x) ∈ ds.map entry := by
    simp only [List.mem_map, entry, Prod.mk.injEq]
    exact exists_congr fun d => and_congr_right fun _ => and_congr_right fun _ => neg_eq_iff_eq_neg
  rw [hopposite, hd.mem_entries, he.mem_entries, neg_eq_iff_eq_neg, neg_ne_zero]

theorem exists_records {before after : Option Farm} (hb : Farm.AreaNonneg before) (ha : Farm.AreaNonneg after) :
    ∃ ds, between before after = .ok ds ∧ Records ds fun i => contributed i after - contributed i before := by
  obtain ⟨ds, hds, hsums⟩ := exists_between hb ha
  refine ⟨ds, hds, (between_names hds).1, between_nonzero hds, ?_⟩
  simpa only [contributed, ← Farm.shareOf_eq_contribution] using hsums

def steps (f : Option Farm) (rest : List (Option Farm)) : Except Overflow (List (List TotalsDelta)) :=
  ((f :: rest).zip rest).mapM fun p => between p.1 p.2

theorem exists_steps {f : Option Farm} {rest : List (Option Farm)} (hf : Farm.AreaNonneg f)
    (hrest : ∀ g ∈ rest, Farm.AreaNonneg g) :
    ∃ lists, steps f rest = .ok lists ∧
      ∀ i, (lists.map (sumFor i)).sum = contributed i (rest.getLastD f) - contributed i f := by
  induction rest generalizing f with
  | nil => exact ⟨[], rfl, fun i => (sub_self _).symm⟩
  | cons g rest ih =>
    obtain ⟨hg, hrest⟩ := List.forall_mem_cons.mp hrest
    obtain ⟨ds, hds, hfirst⟩ := exists_records hf hg
    obtain ⟨lists, hlists, hlater⟩ := ih hg hrest
    refine ⟨ds :: lists, ?_, ?_⟩
    · rw [steps, mapM_eq_ok_iff] at hlists ⊢
      exact .cons hds hlists
    · intro i
      rw [List.map_cons, List.sum_cons, hfirst.sums, hlater, List.getLastD_cons]
      abel

/-- The changes between two states of a farm are exactly the difference of what the states add to the totals: taken
the other way round they are negated, and along a chain of states they add up to the changes from end to end. -/
theorem between_is_difference :
    (∀ before after, Farm.AreaNonneg before → Farm.AreaNonneg after →
      ∃ ds, between before after = .ok ds ∧
        Records ds (fun i => contributed i after - contributed i before) ∧
        (∀ i x, (i, x) ∈ ds.map entry ↔ contributed i after - contributed i before = x ∧ x ≠ 0) ∧
        ∃ es, between after before = .ok es ∧ es.map entry = ds.map fun d => (d.farmerId, -d.amount)) ∧
    ∀ f rest, Farm.AreaNonneg f → (∀ g ∈ rest, Farm.AreaNonneg g) →
      ∃ lists ds, steps f rest = .ok lists ∧ between f (rest.getLastD f) = .ok ds ∧
        ∀ i, (lists.map (sumFor i)).sum = sumFor i ds := by
  constructor
  · intro before after hb ha
    obtain ⟨ds, hds, hrecords⟩ := exists_records hb ha
    obtain ⟨es, hes, hopposite⟩ := exists_records ha hb
    have hneg : Records es fun i => -(contributed i after - contributed i before) := by
      simpa only [neg_sub] using hopposite
    exact ⟨ds, hds, hrecords, fun i x => hrecords.mem_entries, es, hes, hrecords.entries_neg hneg⟩
  · intro f rest hf hrest
    have hlast : Farm.AreaNonneg (rest.getLastD f) := by
      rw [List.getLastD_eq_getLast?]
      cases hx : rest.getLast? with
      | none => exact hf
      | some g => exact hrest g (List.mem_of_getLast? hx)
    obtain ⟨lists, hlists, hsteps⟩ := exists_steps hf hrest
    obtain ⟨ds, hds, hends⟩ := exists_records hf hlast
    exact ⟨lists, ds, hlists, hds, fun i => by rw [hsteps, hends.sums]⟩

theorem between_over_sale :
    let kept : Farm := { MemoryStore.parcel with area := .ofNat 5 }
    let sold : Farm := { kept with farmerId := MemoryStore.giver, area := .ofNat 8 }
    (∃ es, between (some sold) (some kept) = .ok es ∧
        es.map entry = [(MemoryStore.giver, -(8, 1)), (MemoryStore.taker, -(-5, -1))]) ∧
      ∃ lists, steps none [some kept, some sold, none] = .ok lists ∧ lists.length = 3 ∧
        ∀ i, (lists.map (sumFor i)).sum = 0 := by
  intro kept sold
  have hkept : Farm.AreaNonneg (some kept) := Farm.areaNonneg_some (Area.ofNat_val_nonneg 5)
  have hsold : Farm.AreaNonneg (some sold) := Farm.areaNonneg_some (Area.ofNat_val_nonneg 8)
  constructor
  · obtain ⟨ds, hds, _, _, es, hes, hopposite⟩ := between_is_difference.1 _ _ hkept hsold
    refine ⟨es, hes, ?_⟩
    have hsale : between (some kept) (some sold) =
        .ok [⟨MemoryStore.giver, .ofNat 8, oneFarm⟩, ⟨MemoryStore.taker, ⟨⟨-5, by decide, by decide⟩⟩, oneFarmLess⟩] := rfl
    rw [hsale] at hds
    cases hds
    exact hopposite
  · have hlife : ∀ g ∈ [some kept, some sold, none], Farm.AreaNonneg g := by
      simp only [List.forall_mem_cons]
      exact ⟨hkept, hsold, Farm.areaNonneg_none, List.forall_mem_nil _⟩
    obtain ⟨lists, ds, hlists, hds, hsum⟩ := between_is_difference.2 _ _ Farm.areaNonneg_none hlife
    cases hds
    refine ⟨lists, hlists, ?_, hsum⟩
    rw [steps, mapM_eq_ok_iff] at hlists
    exact hlists.length_eq.symm

end TotalsDelta

end FarmRegistry
