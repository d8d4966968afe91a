namespace FarmRegistry

variable {α : Type} [DecidableEq α]

def collapse : List α → List α
  | [] => []
  | [a] => [a]
  | a :: b :: rest => if a = b then collapse (b :: rest) else a :: collapse (b :: rest)

theorem mem_collapse {a : α} {l : List α} : a ∈ collapse l ↔ a ∈ l := by
  induction l using collapse.induct with
  | case1 => simp [collapse]
  | case2 => simp [collapse]
  | case3 b rest ih => simp [collapse, ih]
  | case4 b c rest h ih => simp [collapse, h, ih]

def sortDistinct (le : α → α → Bool) (l : List α) : List α :=
  collapse (l.mergeSort le)

theorem mem_sortDistinct {le : α → α → Bool} {a : α} {l : List α} : a ∈ sortDistinct le l ↔ a ∈ l := by
  simp [sortDistinct, mem_collapse, List.mem_mergeSort]

end FarmRegistry
