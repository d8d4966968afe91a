import FarmRegistry.Geometry.Polygon
import FarmRegistry.Proofs.Geometry.Symmetry
import Mathlib.Data.List.Destutter
import Mathlib.Data.List.Rotate

namespace FarmRegistry

section Collapse

variable {α : Type} [DecidableEq α]

theorem collapse_cons (a : α) (l : List α) :
    collapse (a :: l) = if l.head? = some a then collapse l else a :: collapse l := by
  cases l with
  | nil => rfl
  | cons b rest => simp only [collapse, List.head?_cons, Option.some.injEq, eq_comm]

theorem head?_collapse (l : List α) : (collapse l).head? = l.head? := by
  induction l with
  | nil => rfl
  | cons a l ih =>
    rw [collapse_cons]
    split
    · rename_i h
      rw [ih, h, List.head?_cons]
    · rfl

theorem collapse_eq_destutter (l : List α) : collapse l = l.destutter (· ≠ ·) := by
  induction l using collapse.induct with
  | case1 => rfl
  | case2 a => rfl
  | case3 b rest ih => simp [collapse, ih, List.destutter_cons']
  | case4 a b rest h ih => simp [collapse, h, ih, List.destutter_cons']

theorem collapse_concat (l : List α) (a : α) :
    collapse (l ++ [a]) = if l.getLast? = some a then collapse l else collapse l ++ [a] := by
  induction l with
  | nil => rfl
  | cons b l ih =>
    rw [List.cons_append, collapse_cons, collapse_cons, ih]
    cases l with
    | nil =>
      by_cases h : a = b
      · simp [collapse, h]
      · simp [collapse, h, Ne.symm h]
    | cons c rest =>
      rw [List.cons_append, List.head?_cons, List.head?_cons, List.getLast?_cons_cons]
      by_cases hlast : (c :: rest).getLast? = some a
      · rw [if_pos hlast, if_pos hlast]
      · rw [if_neg hlast, if_neg hlast]
        by_cases hfirst : some c = some b
        · rw [if_pos hfirst, if_pos hfirst]
        · rw [if_neg hfirst, if_neg hfirst, List.cons_append]

theorem getLast?_collapse (l : List α) : (collapse l).getLast? = l.getLast? := by
  induction l using List.reverseRecOn with
  | nil => rfl
  | append_singleton l a ih =>
    rw [collapse_concat, List.getLast?_concat]
    split
    · rename_i h
      rw [ih, h]
    · rw [List.getLast?_concat]

theorem collapse_reverse (l : List α) : collapse l.reverse = (collapse l).reverse := by
  induction l with
  | nil => rfl
  | cons a l ih =>
    rw [List.reverse_cons, collapse_concat, collapse_cons, List.getLast?_reverse, ih]
    split
    · rfl
    · rw [List.reverse_cons]

theorem collapse_cons_congr {l l' : List α} (h : collapse l = collapse l') (a : α) :
    collapse (a :: l) = collapse (a :: l') := by
  rw [collapse_cons, collapse_cons, ← head?_collapse l, ← head?_collapse l', h]

theorem collapse_replicate_append (n : ℕ) (a : α) (l : List α) :
    collapse (List.replicate (n + 1) a ++ l) = collapse (a :: l) := by
  induction n with
  | zero => rfl
  | succ n ih =>
    rw [List.replicate_succ, List.cons_append, collapse_cons, if_pos, ih]
    rw [List.replicate_succ, List.cons_append, List.head?_cons]

end Collapse

namespace Ring

open Segment

variable {path : List Point} {s : Segment} {k : ℕ}

theorem edges_getElem? : (edges path)[k]? = some s ↔ path[k]? = some s.start ∧ path[k + 1]? = some s.finish := by
  induction path using edges.induct generalizing k with
  | case1 p q rest ih =>
    cases k with
    | zero =>
      obtain ⟨a, b⟩ := s
      simp [edges]
    | succ k => simp [edges, ih]
  | case2 path h =>
    have hshort : path[k + 1]? = none := by
      apply List.getElem?_eq_none
      rcases path with _ | ⟨p, _ | ⟨q, rest⟩⟩
      · exact Nat.zero_le _
      · exact Nat.le_add_left 1 k
      · exact absurd rfl (h p q rest)
    simp [edges, hshort]

theorem mem_of_mem_edges (h : s ∈ edges path) : s.start ∈ path ∧ s.finish ∈ path := by
  obtain ⟨k, hk⟩ := List.mem_iff_getElem?.mp h
  obtain ⟨hstart, hfinish⟩ := edges_getElem?.mp hk
  exact ⟨List.mem_of_getElem? hstart, List.mem_of_getElem? hfinish⟩

theorem length_edges (path : List Point) : (edges path).length = path.length - 1 := by
  induction path with
  | nil => rfl
  | cons p path ih =>
    cases path with
    | nil => rfl
    | cons q rest =>
      rw [edges, List.length_cons, ih]
      rfl

theorem edges_concat {path : List Point} {p : Point} (h : path.getLast? = some p) (q : Point) :
    edges (path ++ [q]) = edges path ++ [⟨p, q⟩] := by
  induction path with
  | nil => cases h
  | cons a path ih =>
    cases path with
    | nil =>
      cases h
      rfl
    | cons b rest =>
      rw [List.getLast?_cons_cons] at h
      exact congrArg _ (ih h)

theorem edges_reverse (path : List Point) : edges path.reverse = ((edges path).map reversed).reverse := by
  induction path with
  | nil => rfl
  | cons p path ih =>
    cases path with
    | nil => rfl
    | cons q rest =>
      have hlast : (q :: rest).reverse.getLast? = some q := by rw [List.getLast?_reverse, List.head?_cons]
      rw [List.reverse_cons, edges_concat hlast, ih]
      simp [edges, reversed]

theorem edges_collapse (path : List Point) :
    edges (collapse path) = (edges path).filter fun s => s.start ≠ s.finish := by
  induction path with
  | nil => rfl
  | cons a path ih =>
    cases path with
    | nil => rfl
    | cons b rest =>
      rw [collapse_cons, edges, List.filter_cons, ← ih]
      by_cases h : b = a
      · simp [h]
      · obtain ⟨rest', hrest⟩ := List.head?_eq_some_iff.mp (head?_collapse (b :: rest))
        simp [h, Ne.symm h, hrest, edges]

theorem ne_of_mem_edges (h : s ∈ edges (collapse path)) : s.start ≠ s.finish := by
  rw [edges_collapse] at h
  exact of_decide_eq_true (List.mem_filter.mp h).2

section ClosedUp

variable {α β : Type} {a : α} {l : List α}

def closedUp (round : List α) : List α :=
  round ++ round.head?.toList

theorem mem_closedUp : a ∈ closedUp l ↔ a ∈ l := by
  rw [closedUp, List.mem_append, or_iff_left_iff_imp]
  intro h
  exact List.mem_of_mem_head? (Option.mem_toList.mp h)

theorem map_closedUp (f : α → β) (l : List α) : (closedUp l).map f = closedUp (l.map f) := by
  cases l <;> simp [closedUp]

theorem closedUp_ends (l : List α) : (closedUp l).head? = (closedUp l).getLast? := by
  cases l with
  | nil => rfl
  | cons a rest => exact List.getLast?_concat.symm

theorem closedUp_dropLast (hends : l.head? = l.getLast?) (hlength : 2 ≤ l.length) : closedUp l.dropLast = l := by
  rcases l with _ | ⟨a, _ | ⟨b, rest⟩⟩
  · cases hlength
  · exact absurd hlength (Nat.not_succ_le_self 1)
  · exact List.dropLast_append_getLast? a hends.symm

end ClosedUp

theorem edges_cons_concat (p q : Point) (rest : List Point) :
    edges (p :: rest ++ [q]) = List.zipWith mk (p :: rest) (rest ++ [q]) := by
  induction rest generalizing p with
  | nil => rfl
  | cons r rest ih => exact congrArg _ (ih r)

theorem edges_closedUp (round : List Point) : edges (closedUp round) = List.zipWith mk round (round.rotate 1) := by
  cases round with
  | nil => rfl
  | cons p rest =>
    rw [List.rotate_cons_succ, List.rotate_zero]
    exact edges_cons_concat p p rest

theorem edges_closedUp_rotate (round : List Point) (n : ℕ) :
    edges (closedUp (round.rotate n)) = (edges (closedUp round)).rotate n := by
  rw [edges_closedUp, edges_closedUp, List.zipWith_rotate_distrib _ _ _ _ (List.length_rotate _ _).symm,
    List.rotate_rotate, List.rotate_rotate, Nat.add_comm]

theorem isRotated_filter {α : Type} {l l' : List α} (h : l.IsRotated l') (keep : α → Bool) :
    (l.filter keep).IsRotated (l'.filter keep) := by
  obtain ⟨n, hn, rfl⟩ := List.isRotated_iff_mod.mp h
  have hsplit : l.filter keep = (l.take n).filter keep ++ (l.drop n).filter keep := by
    rw [← List.filter_append, List.take_append_drop]
  rw [List.rotate_eq_drop_append_take hn, List.filter_append, hsplit]
  exact List.isRotated_append

theorem isRotated_edges {round round' : List Point} (h : round.IsRotated round') :
    (edges (collapse (closedUp round))).IsRotated (edges (collapse (closedUp round'))) := by
  obtain ⟨n, rfl⟩ := h
  rw [edges_collapse, edges_collapse, edges_closedUp_rotate]
  exact isRotated_filter ⟨n, rfl⟩ _

theorem map_start_edges (path : List Point) : (edges path).map start = path.dropLast := by
  induction path with
  | nil => rfl
  | cons a path ih =>
    cases path with
    | nil => rfl
    | cons b rest => rw [edges, List.map_cons, ih, List.dropLast_cons_cons]

end Ring

end FarmRegistry
