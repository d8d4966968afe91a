import FarmRegistry.Proofs.Order.Outcomes
import FarmRegistry.Proofs.Totals.Holdings
import Mathlib.Algebra.Order.BigOperators.Group.List

namespace FarmRegistry

open TotalsDelta

namespace TotalsDelta

def Ordered (deltas : List TotalsDelta) : Prop :=
  deltas.Pairwise fun d e => d.farmerId.rank < e.farmerId.rank

theorem Ordered.nodup {deltas : List TotalsDelta} (h : Ordered deltas) : (deltas.map farmerId).Nodup := by
  rw [List.Nodup, List.pairwise_map]
  apply h.imp
  intro d e hlt he
  rw [he] at hlt
  exact Nat.lt_irrefl _ hlt

theorem Ordered.single (d : TotalsDelta) : Ordered [d] :=
  List.pairwise_singleton _ _

theorem Ordered.pair {d e : TotalsDelta} (h : d.farmerId.rank < e.farmerId.rank) : Ordered [d, e] :=
  List.pairwise_pair.mpr h

theorem Ordered.filter {deltas : List TotalsDelta} (h : Ordered deltas) (p : TotalsDelta → Bool) :
    Ordered (deltas.filter p) :=
  List.Pairwise.filter p h

theorem gain_amountFor (i j : FarmerId) (a : Area) :
    (gain j a).amountFor i = if j = i then (a.val, 1) else 0 := rfl

theorem exists_loss (j : FarmerId) {a : Area} (h : 0 ≤ a.val) :
    ∃ d, loss j a = .ok d ∧ d.farmerId = j ∧ d.amount = (-a.val, -1) := by
  have hhi := a.le_hi
  obtain ⟨b, hb, hval⟩ := Area.exists_sub (a := .zero) (b := a) (by rw [Area.zero_val]; omega)
  refine ⟨⟨j, b, oneFarmLess⟩, ?_, rfl, ?_⟩
  · rw [loss, hb]
    rfl
  · rw [amount, hval, Area.zero_val, Int.zero_sub]
    rfl

theorem loss_farmerId {j : FarmerId} {a : Area} {l : TotalsDelta} (h : loss j a = .ok l) : l.farmerId = j := by
  obtain ⟨b, _, rfl⟩ := map_eq_ok_iff.mp h
  rfl

theorem move_names {l : TotalsDelta} {k : FarmerId} {a : Area} {ds : List TotalsDelta} (h : move l k a = .ok ds) :
    Ordered ds ∧ ∀ d ∈ ds, d.farmerId = l.farmerId ∨ d.farmerId = k := by
  by_cases hsame : l.farmerId = k
  · rw [move, if_pos hsame] at h
    obtain ⟨b, _, rfl⟩ := map_eq_ok_iff.mp h
    exact ⟨Ordered.single _, List.forall_mem_singleton.mpr (.inr rfl)⟩
  · rw [move, if_neg hsame] at h
    by_cases hlt : l.farmerId.rank < k.rank
    · rw [if_pos hlt] at h
      cases h
      exact ⟨Ordered.pair hlt, by simp [gain]⟩
    · rw [if_neg hlt] at h
      cases h
      have hne : l.farmerId.rank ≠ k.rank := mt Identifier.rank_inj.mp hsame
      refine ⟨Ordered.pair ?_, by simp [gain]⟩
      change k.rank < l.farmerId.rank
      omega

theorem exists_move {l : TotalsDelta} {x : Int} (hl : l.amount = (-x, -1)) (hx : 0 ≤ x) (k : FarmerId) {a : Area}
    (ha : 0 ≤ a.val) :
    ∃ ds, move l k a = .ok ds ∧ ∀ i, sumFor i ds = l.amountFor i + (gain k a).amountFor i := by
  have hlo := l.area.lo_le
  have hhi := a.le_hi
  have harea : l.area.val = -x := congrArg Prod.fst hl
  have hcount : l.farmCount.val = -1 := congrArg Prod.snd hl
  by_cases hsame : l.farmerId = k
  · obtain ⟨b, hb, hval⟩ := Area.exists_add (a := l.area) (b := a) (by omega)
    refine ⟨[⟨k, b, noFarm⟩], ?_, ?_⟩
    · rw [move, if_pos hsame, hb]
      rfl
    · intro i
      rw [sumFor_cons, sumFor_nil, add_zero, gain_amountFor]
      by_cases hi : k = i
      · simp [amountFor, hsame, hi, amount, hval, harea, hcount, noFarm]
      · simp [amountFor, hsame, hi]
  · by_cases hlt : l.farmerId.rank < k.rank
    · refine ⟨[l, gain k a], ?_, ?_⟩
      · rw [move, if_neg hsame, if_pos hlt]
      · intro i
        rw [sumFor_cons, sumFor_cons, sumFor_nil, add_zero]
    · refine ⟨[gain k a, l], ?_, ?_⟩
      · rw [move, if_neg hsame, if_neg hlt]
      · intro i
        rw [sumFor_cons, sumFor_cons, sumFor_nil, add_zero, add_comm]

end TotalsDelta

namespace Farm

theorem contribution_eq_some {f : Farm} {d : TotalsDelta} (h : f.contribution = some d) :
    d = gain f.farmerId f.area := by
  unfold contribution at h
  split at h
  · exact (Option.some.inj h).symm
  · cases h

theorem share_eq_contribution (i : FarmerId) (f : Farm) : f.share i = f.contribution.elim 0 (amountFor i) := by
  unfold share isHeldBy contribution
  by_cases hactive : f.isActive
  · simp [hactive, gain_amountFor]
  · simp [hactive]

theorem shareOf_eq_contribution (i : FarmerId) (f : Option Farm) :
    shareOf i f = (f.bind contribution).elim 0 (amountFor i) := by
  cases f with
  | none => rfl
  | some f => exact share_eq_contribution i f

def Summable (i : FarmerId) (farms : List Farm) : Prop :=
  ∀ part, part <+: farms.filter (isHeldBy i) →
    -9223372036854775808 ≤ (part.map (·.area.val)).sum ∧ (part.map (·.area.val)).sum ≤ 9223372036854775807

theorem Summable.of_nonneg {i : FarmerId} {farms : List Farm} (hn : ∀ f ∈ farms, 0 ≤ f.area.val)
    (h : heldArea i farms ≤ 9223372036854775807) : Summable i farms := by
  rintro part ⟨rest, hsplit⟩
  have hheld : ∀ f ∈ part ++ rest, 0 ≤ f.area.val := by
    rw [hsplit]
    exact fun f hf => hn f (List.mem_of_mem_filter hf)
  obtain ⟨hpart, hrest⟩ := List.forall_mem_append.mp hheld
  have hsum : ∀ l : List Farm, (∀ f ∈ l, 0 ≤ f.area.val) → 0 ≤ (l.map (·.area.val)).sum :=
    fun l hl => List.sum_nonneg (List.forall_mem_map.mpr hl)
  have hfirst := hsum part hpart
  have hlast := hsum rest hrest
  rw [heldArea, ← hsplit, List.map_append, List.sum_append] at h
  omega

def AreaNonneg (f : Option Farm) : Prop :=
  ∀ g, f = some g → 0 ≤ g.area.val

theorem areaNonneg_none : AreaNonneg none := by
  intro g hg
  cases hg

theorem areaNonneg_some {f : Farm} (hf : 0 ≤ f.area.val) : AreaNonneg (some f) := by
  intro g hg
  exact Option.some.inj hg ▸ hf

def OwnedBy (i : FarmerId) (f : Option Farm) : Prop :=
  ∃ g, f = some g ∧ g.farmerId = i

theorem ownedBy_of_contribution {f : Option Farm} {d : TotalsDelta} (hd : f.bind Farm.contribution = some d) :
    OwnedBy d.farmerId f := by
  obtain ⟨g, rfl, hg⟩ := Option.bind_eq_some_iff.mp hd
  rw [contribution_eq_some hg]
  exact ⟨g, rfl, rfl⟩

theorem AreaNonneg.contribution {f : Option Farm} (h : AreaNonneg f) {d : TotalsDelta}
    (hd : f.bind Farm.contribution = some d) : d = gain d.farmerId d.area ∧ 0 ≤ d.area.val := by
  obtain ⟨g, rfl, hg⟩ := Option.bind_eq_some_iff.mp hd
  rw [contribution_eq_some hg]
  exact ⟨rfl, h g rfl⟩

end Farm

namespace TotalsDelta

theorem between_kept {before after : Option Farm} {ds : List TotalsDelta} (h : between before after = .ok ds) :
    ∃ all : List TotalsDelta, ds = all.filter (!·.isZero) ∧ Ordered all ∧
      ∀ d ∈ all, Farm.OwnedBy d.farmerId before ∨ Farm.OwnedBy d.farmerId after := by
  unfold between at h
  cases hx : before.bind Farm.contribution with
  | none =>
    cases hy : after.bind Farm.contribution with
    | none =>
      rw [hx, hy] at h
      cases h
      exact ⟨[], rfl, List.Pairwise.nil, List.forall_mem_nil _⟩
    | some e =>
      rw [hx, hy] at h
      cases h
      exact ⟨[e], rfl, Ordered.single e, List.forall_mem_singleton.mpr (.inr (Farm.ownedBy_of_contribution hy))⟩
  | some d =>
    have hlosing {l : TotalsDelta} (hl : loss d.farmerId d.area = .ok l) : Farm.OwnedBy l.farmerId before := by
      rw [loss_farmerId hl]
      exact Farm.ownedBy_of_contribution hx
    cases hy : after.bind Farm.contribution with
    | none =>
      rw [hx, hy] at h
      obtain ⟨l, hlost, h⟩ := bind_eq_ok_iff.mp h
      cases h
      exact ⟨[l], rfl, Ordered.single l, List.forall_mem_singleton.mpr (.inl (hlosing hlost))⟩
    | some e =>
      rw [hx, hy] at h
      obtain ⟨l, hlost, h⟩ := bind_eq_ok_iff.mp h
      obtain ⟨moved, hmoved, h⟩ := bind_eq_ok_iff.mp h
      cases h
      obtain ⟨hord, hnames⟩ := move_names hmoved
      refine ⟨moved, rfl, hord, ?_⟩
      intro k hk
      rcases hnames k hk with hk | hk
      · rw [hk]
        exact .inl (hlosing hlost)
      · rw [hk]
        exact .inr (Farm.ownedBy_of_contribution hy)

theorem between_names {before after : Option Farm} {ds : List TotalsDelta} (h : between before after = .ok ds) :
    Ordered ds ∧ ∀ d ∈ ds, Farm.OwnedBy d.farmerId before ∨ Farm.OwnedBy d.farmerId after := by
  obtain ⟨all, rfl, hord, hnames⟩ := between_kept h
  exact ⟨hord.filter _, fun d hd => hnames d (List.mem_of_mem_filter hd)⟩

theorem amount_eq_zero_iff {d : TotalsDelta} : d.amount = 0 ↔ d.isZero := by
  simp [isZero, amount, Prod.ext_iff]

theorem between_nonzero {before after : Option Farm} {ds : List TotalsDelta} (h : between before after = .ok ds) :
    ∀ d ∈ ds, d.amount ≠ 0 := by
  obtain ⟨all, rfl, _, _⟩ := between_kept h
  intro d hd
  have hkept := (List.mem_filter.mp hd).2
  rw [Ne, amount_eq_zero_iff]
  simpa using hkept

theorem exists_between {before after : Option Farm} (hb : Farm.AreaNonneg before) (ha : Farm.AreaNonneg after) :
    ∃ ds, between before after = .ok ds ∧ ∀ i, sumFor i ds = Farm.shareOf i after - Farm.shareOf i before := by
  simp only [between, Farm.shareOf_eq_contribution]
  cases hx : before.bind Farm.contribution with
  | none =>
    cases hy : after.bind Farm.contribution with
    | none => exact ⟨[], rfl, fun i => rfl⟩
    | some e =>
      refine ⟨[e].filter (!·.isZero), rfl, ?_⟩
      intro i
      rw [sumFor_filter, sumFor_cons, sumFor_nil]
      simp
  | some d =>
    obtain ⟨hd, hdn⟩ := hb.contribution hx
    obtain ⟨l, hl, hid, hamount⟩ := exists_loss d.farmerId hdn
    have hcancel : ∀ i, l.amountFor i = -d.amountFor i := by
      intro i
      rw [hd, gain_amountFor, amountFor, hid, hamount]
      split <;> simp
    cases hy : after.bind Farm.contribution with
    | none =>
      refine ⟨[l].filter (!·.isZero), ?_, ?_⟩
      · simp only [hl]
        rfl
      · intro i
        rw [sumFor_filter, sumFor_cons, sumFor_nil, hcancel]
        simp
    | some e =>
      obtain ⟨he, hen⟩ := ha.contribution hy
      obtain ⟨ds, hds, hsum⟩ := exists_move hamount hdn e.farmerId hen
      refine ⟨ds.filter (!·.isZero), ?_, ?_⟩
      · simp only [hl]
        change (move l e.farmerId e.area >>= fun ds => pure (ds.filter (!·.isZero))) = _
        rw [hds]
        rfl
      · intro i
        rw [sumFor_filter, hsum, hcancel, ← he]
        simp only [Option.elim_some]
        abel

end TotalsDelta

namespace Totals

def Fits (sums : Int × Int) : Prop :=
  (0 ≤ sums.1 ∧ sums.1 ≤ 9223372036854775807) ∧ 0 ≤ sums.2 ∧ sums.2 ≤ 4294967295

theorem fits_share {f : Farm} (hf : 0 ≤ f.area.val) (i : FarmerId) : Fits (f.share i) := by
  have hhi := f.area.le_hi
  unfold Farm.share
  split
  · exact ⟨⟨hf, hhi⟩, Int.one_nonneg, by simp only; omega⟩
  · exact ⟨⟨Int.le_refl 0, by decide⟩, Int.le_refl 0, by decide⟩

theorem increment_val (n : Unsigned32) : (increment n).val = min (n.val + 1) 4294967295 := by
  have hlo := n.lo_le
  have hhi := n.le_hi
  rw [increment]
  cases hnext : (Bounded.ofInt? (n.val + 1) : Option Unsigned32) with
  | none =>
    have hfull := Bounded.ofInt?_eq_none_iff.mp hnext
    rw [Option.getD_none]
    omega
  | some m =>
    have hval := Bounded.ofInt?_eq_some_iff.mp hnext
    have hm := m.le_hi
    rw [Option.getD_some]
    omega

def sums (t : Totals) : Int × Int :=
  (t.area.val, t.farmCount.val)

theorem exists_of_fits {h : Int × Int} (hf : Fits h) : ∃ t : Totals, t.sums = h := by
  obtain ⟨⟨hlo, hhi⟩, hclo, hchi⟩ := hf
  obtain ⟨a, ha⟩ := Area.exists_ofInt? (n := h.1) (by omega)
  exact ⟨⟨a, ⟨h.2, hclo, hchi⟩⟩, Prod.ext (Area.ofInt?_eq_some_iff.mp ha) rfl⟩

theorem addFarm_eq_ok_iff {t u : Totals} {f : Farm} :
    t.addFarm f = .ok u ↔ u.area.val = t.area.val + f.area.val ∧ u.farmCount = increment t.farmCount := by
  rw [addFarm, map_eq_ok_iff]
  constructor
  · rintro ⟨a, ha, rfl⟩
    exact ⟨Area.add_eq_ok_iff.mp ha, rfl⟩
  · rintro ⟨harea, hcount⟩
    exact ⟨u.area, Area.add_eq_ok_iff.mpr harea, by rw [← hcount]⟩

theorem exists_foldlM_addFarm_iff {farms : List Farm} {t : Totals} :
    (∃ u, farms.foldlM addFarm t = .ok u) ↔ ∀ part, part <+: farms →
      -9223372036854775808 ≤ t.area.val + (part.map (·.area.val)).sum ∧
        t.area.val + (part.map (·.area.val)).sum ≤ 9223372036854775807 := by
  have hlo := t.area.lo_le
  have hhi := t.area.le_hi
  -- Whatever is added up so far: a partial sum over the rest starts where the first farm left off.
  induction farms generalizing t with
  | nil =>
    refine iff_of_true ⟨t, rfl⟩ ?_
    intro part hpart
    rw [List.prefix_nil.mp hpart, List.map_nil, List.sum_nil, Int.add_zero]
    exact ⟨hlo, hhi⟩
  | cons f farms ih =>
    constructor
    · rintro ⟨u, hu⟩ part hpart
      obtain ⟨v, hv, hu⟩ := bind_eq_ok_iff.mp hu
      rcases List.prefix_cons_iff.mp hpart with rfl | ⟨rest, rfl, hrest⟩
      · rw [List.map_nil, List.sum_nil, Int.add_zero]
        exact ⟨hlo, hhi⟩
      · rw [List.map_cons, List.sum_cons, ← Int.add_assoc, ← (addFarm_eq_ok_iff.mp hv).1]
        exact (ih v.area.lo_le v.area.le_hi).mp ⟨u, hu⟩ rest hrest
    · intro h
      have hfirst := h [f] (List.prefix_append [f] farms)
      rw [List.map_singleton, List.sum_singleton] at hfirst
      obtain ⟨a, _, hval⟩ := Area.exists_add hfirst
      have hv : t.addFarm f = .ok ⟨a, increment t.farmCount⟩ := addFarm_eq_ok_iff.mpr ⟨hval, rfl⟩
      have hrest : ∃ u, farms.foldlM addFarm ⟨a, increment t.farmCount⟩ = .ok u := by
        apply (ih a.lo_le a.le_hi).mpr
        intro part hpart
        rw [hval, Int.add_assoc, ← List.sum_cons]
        exact h (f :: part) ((List.prefix_cons_inj f).mpr hpart)
      rw [List.foldlM_cons, hv]
      exact hrest

theorem foldlM_addFarm_exact {farms : List Farm} {t u : Totals} (h : farms.foldlM addFarm t = .ok u) :
    u.area.val = t.area.val + (farms.map (·.area.val)).sum ∧
      u.farmCount.val = min (t.farmCount.val + farms.length) 4294967295 := by
  induction farms generalizing t with
  | nil =>
    cases h
    have hhi := u.farmCount.le_hi
    rw [List.map_nil, List.sum_nil, List.length_nil]
    omega
  | cons f farms ih =>
    obtain ⟨v, hv, hu⟩ := bind_eq_ok_iff.mp h
    obtain ⟨harea, hcount⟩ := addFarm_eq_ok_iff.mp hv
    obtain ⟨hsum, hlength⟩ := ih hu
    rw [hcount, increment_val] at hlength
    rw [List.map_cons, List.sum_cons, List.length_cons]
    push_cast
    omega

theorem exists_ofFarms_iff {i : FarmerId} {farms : List Farm} :
    (∃ t, ofFarms i farms = .ok t) ↔ Farm.Summable i farms := by
  refine exists_foldlM_addFarm_iff.trans ?_
  rw [zero, Area.zero_val]
  simp only [Int.zero_add]
  exact Iff.rfl

theorem ofFarms_exact {i : FarmerId} {farms : List Farm} {t : Totals} (h : ofFarms i farms = .ok t) :
    t.area.val = Farm.heldArea i farms ∧ t.farmCount.val = min (Farm.heldCount i farms) 4294967295 := by
  obtain ⟨harea, hcount⟩ := foldlM_addFarm_exact h
  rw [zero, Area.zero_val, Int.zero_add] at harea
  rw [zero, zeroCount, Int.zero_add] at hcount
  exact ⟨harea, hcount⟩

theorem ofFarms_eq_holding {i : FarmerId} {farms : List Farm} (hn : ∀ f ∈ farms, 0 ≤ f.area.val)
    (hfits : Fits (Farm.holding i farms)) :
    ∃ t, ofFarms i farms = .ok t ∧ t.sums = Farm.holding i farms := by
  obtain ⟨⟨_, harea⟩, _, hcount⟩ := hfits
  change Farm.heldCount i farms ≤ 4294967295 at hcount
  obtain ⟨t, ht⟩ := exists_ofFarms_iff.mpr (Farm.Summable.of_nonneg hn harea)
  obtain ⟨hsum, hlength⟩ := ofFarms_exact ht
  rw [Int.min_eq_left hcount] at hlength
  exact ⟨t, ht, Prod.ext hsum hlength⟩

theorem addFarm_twice {t : Totals} {f g : Farm} (hf : 0 ≤ f.area.val) (hg : 0 ≤ g.area.val) :
    (t.addFarm f >>= (·.addFarm g)) =
      match Area.ofInt? (t.area.val + f.area.val + g.area.val) with
      | some a => .ok ⟨a, increment (increment t.farmCount)⟩
      | none => .error .add := by
  simp only [addFarm, Area.add]
  cases hfirst : t.area.add? f.area with
  | none =>
    have hlo := t.area.lo_le
    have hrange := Area.ofInt?_eq_none_iff.mp hfirst
    have hboth : Area.ofInt? (t.area.val + f.area.val + g.area.val) = none := Area.ofInt?_eq_none_iff.mpr (by omega)
    rw [hboth]
    rfl
  | some a =>
    have hval := Area.add?_eq_some_iff.mp hfirst
    rw [← hval]
    simp only [Except.map, bind, Except.bind, Area.add?]
    cases Area.ofInt? (a.val + g.area.val) <;> rfl

theorem foldlM_addFarm_perm {farms others : List Farm} (h : farms.Perm others) (hn : ∀ f ∈ farms, 0 ≤ f.area.val)
    (t : Totals) : farms.foldlM addFarm t = others.foldlM addFarm t := by
  induction h generalizing t with
  | nil => rfl
  | cons f _ ih =>
    rw [List.foldlM_cons, List.foldlM_cons]
    congr 1
    funext u
    exact ih (fun g hg => hn g (List.mem_cons_of_mem f hg)) u
  | swap f g farms =>
    obtain ⟨hg, hrest⟩ := List.forall_mem_cons.mp hn
    obtain ⟨hf, _⟩ := List.forall_mem_cons.mp hrest
    have htwice : (t.addFarm g >>= (·.addFarm f)) = (t.addFarm f >>= (·.addFarm g)) := by
      rw [addFarm_twice hg hf, addFarm_twice hf hg, Int.add_right_comm]
    simp only [List.foldlM_cons]
    rw [← bind_assoc, htwice, bind_assoc]
  | trans hfirst _ ih₁ ih₂ =>
    rw [ih₁ hn t]
    exact ih₂ (fun f hf => hn f (hfirst.mem_iff.mpr hf)) t

theorem ofFarms_perm {i : FarmerId} {farms others : List Farm} (hn : ∀ f ∈ farms, 0 ≤ f.area.val)
    (h : (farms.filter (Farm.isHeldBy i)).Perm (others.filter (Farm.isHeldBy i))) :
    ofFarms i farms = ofFarms i others :=
  foldlM_addFarm_perm h (fun f hf => hn f (List.mem_of_mem_filter hf)) zero

theorem ofFarms_nonneg {i : FarmerId} {farms : List Farm} (hn : ∀ f ∈ farms, 0 ≤ f.area.val) {t : Totals}
    (h : ofFarms i farms = .ok t) : 0 ≤ t.area.val := by
  rw [(ofFarms_exact h).1]
  exact (Farm.holding_nonneg i hn).1

end Totals

namespace Farmer

def standing (f : Farmer) : Int × Int :=
  (f.totalArea.val, f.farmCount.val)

theorem reconciled_standing (i : FarmerId) (t : Totals) : (reconciled i t).standing = t.sums := rfl

theorem ext_standing {f g : Farmer} (hid : f.id = g.id) (h : f.standing = g.standing) : f = g := by
  obtain ⟨i, a, n⟩ := f
  obtain ⟨j, b, m⟩ := g
  simp only [standing, Prod.mk.injEq] at hid h
  rw [hid, Area.ext_val h.1, Bounded.ext h.2]

theorem apply_eq_ok_iff {f g : Farmer} {d : TotalsDelta} :
    f.apply d = .ok g ↔
      d.farmerId = f.id ∧ g.id = f.id ∧ g.standing = f.standing + d.amount ∧ Totals.Fits g.standing := by
  constructor
  · intro h
    simp only [apply, bne_iff_ne, ne_eq, ite_not] at h
    split at h
    case isFalse => cases h
    case isTrue hid =>
      split at h
      case h_1 => cases h
      case h_2 a ha =>
        split at h
        case isTrue => cases h
        case isFalse hneg =>
          split at h
          case h_1 => cases h
          case h_2 n hn =>
            have harea := Area.add?_eq_some_iff.mp ha
            have hcount := Bounded.ofInt?_eq_some_iff.mp hn
            have hlo := n.lo_le
            have hhi := n.le_hi
            have hahi := a.le_hi
            obtain rfl := Except.ok.inj h
            simp only [Area.isNegative, Bool.or_eq_true, decide_eq_true_eq, not_or, Int.not_lt] at hneg
            refine ⟨hid, rfl, ?_, ⟨hneg.1, hahi⟩, hlo, hhi⟩
            simp only [standing, TotalsDelta.amount, harea, hcount, Prod.mk_add_mk]
  · rintro ⟨hid, hgid, hstand, ⟨hlo, hhi⟩, hclo, hchi⟩
    have harea : g.totalArea.val = f.totalArea.val + d.area.val := congrArg Prod.fst hstand
    have hcount : g.farmCount.val = f.farmCount.val + d.farmCount.val := congrArg Prod.snd hstand
    have hadd : f.totalArea.add? d.area = some g.totalArea := Area.add?_eq_some_iff.mpr harea
    have hnum : (Bounded.ofInt? (f.farmCount.val + d.farmCount.val) : Option Unsigned32) = some g.farmCount :=
      Bounded.ofInt?_eq_some_iff.mpr hcount
    have hneg : ¬(g.totalArea.isNegative = true ∨ f.farmCount.val + d.farmCount.val < 0) := by
      simp only [Area.isNegative, decide_eq_true_eq]
      simp only [standing] at hlo hclo
      omega
    simp only [apply, bne_iff_ne, ne_eq, hid, not_true_eq_false, ↓reduceIte, hadd, hnum, Bool.or_eq_true,
      decide_eq_true_eq, hneg]
    rw [← hgid]

theorem exists_apply_iff {f : Farmer} {d : TotalsDelta} :
    (∃ g, f.apply d = .ok g) ↔ d.farmerId = f.id ∧ Totals.Fits (f.standing + d.amount) := by
  constructor
  · rintro ⟨g, h⟩
    obtain ⟨hid, _, hstand, hfits⟩ := apply_eq_ok_iff.mp h
    exact ⟨hid, hstand ▸ hfits⟩
  · rintro ⟨hid, hfits⟩
    obtain ⟨t, ht⟩ := Totals.exists_of_fits hfits
    refine ⟨reconciled f.id t, apply_eq_ok_iff.mpr ⟨hid, rfl, ht, ?_⟩⟩
    rw [reconciled_standing, ht]
    exact hfits

end Farmer

end FarmRegistry
