import FarmRegistry.Proofs.Wire.Decoding
import Mathlib.Data.Nat.Digits.Defs

namespace FarmRegistry

open Json

namespace Uuid

def IsDigit (c : Char) : Prop :=
  ∃ d < 16, c = Nat.digitChar d

variable {c : Char} {cs : List Char}

theorem hexValue_digitChar {d : ℕ} (h : d < 16) : isHex (Nat.digitChar d) ∧ hexValue (Nat.digitChar d) = d := by
  have hall : ∀ d : Fin 16, isHex (Nat.digitChar d) ∧ hexValue (Nat.digitChar d) = d := by decide
  exact hall ⟨d, h⟩

theorem IsDigit.isHex (h : IsDigit c) : isHex c := by
  obtain ⟨d, hd, rfl⟩ := h
  exact (hexValue_digitChar hd).1

theorem IsDigit.ne (h : IsDigit c) : c ≠ '\x7b' ∧ c.toLower ≠ 'u' := by
  have hall : ∀ d : Fin 16, Nat.digitChar d ≠ '\x7b' ∧ (Nat.digitChar d).toLower ≠ 'u' := by decide
  obtain ⟨d, hd, rfl⟩ := h
  exact hall ⟨d, hd⟩

def number (cs : List Char) : ℕ :=
  cs.foldl (fun n c => n * 16 + hexValue c) 0

theorem toDigits_spec (n : ℕ) : (∀ c ∈ Nat.toDigits 16 n, IsDigit c) ∧ number (Nat.toDigits 16 n) = n := by
  induction n using Nat.strongRecOn with
  | ind n ih =>
    rw [Nat.toDigits_eq_if (by decide)]
    split
    · rename_i h
      refine ⟨?_, ?_⟩
      · intro c hc
        exact ⟨n, h, List.mem_singleton.mp hc⟩
      · simp [number, (hexValue_digitChar h).2]
    · rename_i h
      have hlt : n % 16 < 16 := Nat.mod_lt n (by decide)
      obtain ⟨hdigits, hvalue⟩ := ih (n / 16) (by omega)
      refine ⟨?_, ?_⟩
      · intro c hc
        rcases List.mem_append.mp hc with hc | hc
        · exact hdigits c hc
        · exact ⟨n % 16, hlt, List.mem_singleton.mp hc⟩
      · unfold number at hvalue ⊢
        rw [List.foldl_append, hvalue]
        simp only [List.foldl_cons, List.foldl_nil, (hexValue_digitChar hlt).2]
        omega

theorem digits_spec (u : Uuid) :
    u.digits.length = 32 ∧ (∀ c ∈ u.digits, IsDigit c) ∧ number u.digits = u.value.val := by
  obtain ⟨hdigits, hvalue⟩ := toDigits_spec u.value.val
  have hlength : (Nat.toDigits 16 u.value.val).length ≤ 32 := Nat.toDigits_length 16 _ 32 (by decide) u.value.isLt
  unfold digits
  refine ⟨?_, ?_, ?_⟩
  · rw [List.length_append, List.length_replicate]
    omega
  · intro c hc
    rcases List.mem_append.mp hc with hc | hc
    · exact ⟨0, by decide, (List.mem_replicate.mp hc).2⟩
    · exact hdigits c hc
  · have hzeros (n : ℕ) : (List.replicate n '0').foldl (fun n c => n * 16 + hexValue c) 0 = 0 := by
      induction n with
      | zero => rfl
      | succ n ih => exact ih
    unfold number at hvalue ⊢
    rw [List.foldl_append, hzeros, hvalue]

theorem ofDigits?_digits (u : Uuid) : ofDigits? u.digits = some u := by
  obtain ⟨hlength, hdigits, hvalue⟩ := u.digits_spec
  have hhex : u.digits.all isHex := List.all_eq_true.mpr fun c hc => (hdigits c hc).isHex
  rw [ofDigits?, hlength, hhex]
  change some _ = _
  unfold number at hvalue
  rw [hvalue]
  obtain ⟨v⟩ := u
  simp

theorem joinGroups_splitGroups {ns : List ℕ} (hns : ns ≠ []) (hlength : cs.length = ns.sum) :
    joinGroups ns (splitGroups ns cs) = some cs := by
  induction ns generalizing cs with
  | nil => exact absurd rfl hns
  | cons n ns ih =>
    cases ns with
    | nil =>
      rw [List.sum_singleton] at hlength
      simp [joinGroups, splitGroups, hlength]
    | cons m ns =>
      rw [List.sum_cons] at hlength
      have htake : (cs.take n).length = n := List.length_take_of_le (by omega)
      have hdrop : (cs.drop n).length = (m :: ns).sum := by
        rw [List.length_drop]
        omega
      have hrest := ih (List.cons_ne_nil m ns) hdrop
      simp only [joinGroups, splitGroups, List.drop_left' htake, List.take_left' htake, hrest, Option.map_some,
        List.take_append_drop]

theorem length_splitGroups {ns : List ℕ} (hns : ns ≠ []) (hlength : cs.length = ns.sum) :
    (splitGroups ns cs).length = cs.length + (ns.length - 1) := by
  induction ns generalizing cs with
  | nil => exact absurd rfl hns
  | cons n ns ih =>
    cases ns with
    | nil => rfl
    | cons m ns =>
      rw [List.sum_cons] at hlength
      have hdrop : (cs.drop n).length = cs.length - n := List.length_drop
      have hrest := @ih (cs.drop n) (List.cons_ne_nil m ns) (by omega)
      simp only [splitGroups, List.length_append, List.length_take, List.length_cons, hrest, hdrop]
      omega

theorem exists_toChars_eq (u : Uuid) : ∃ c cs, u.toChars = c :: cs ∧ IsDigit c := by
  obtain ⟨hlength, hdigits, _⟩ := u.digits_spec
  unfold toChars
  generalize u.digits = ds at hlength hdigits
  cases ds with
  | nil => cases hlength
  | cons c cs => exact ⟨c, _, rfl, hdigits c List.mem_cons_self⟩

theorem ofChars?_toChars (u : Uuid) : ofChars? u.toChars = some u := by
  obtain ⟨hlength, _, _⟩ := u.digits_spec
  have hjoin : (joinGroups groups u.toChars).bind ofDigits? = some u := by
    unfold toChars
    rw [joinGroups_splitGroups (by decide) hlength]
    exact u.ofDigits?_digits
  have hwritten : u.toChars.length = 36 := by
    rw [toChars, length_splitGroups (by decide) hlength, hlength]
    rfl
  obtain ⟨c, cs, hcons, hc⟩ := u.exists_toChars_eq
  obtain ⟨hbrace, hname⟩ := hc.ne
  have hurn : ¬(u.toChars.take 9).map Char.toLower = urn := by
    rw [hcons]
    exact fun h => hname (List.cons.inj h).1
  unfold ofChars?
  split
  · rename_i rest h
    rw [hcons] at h
    exact absurd (List.cons.inj h).1 hbrace
  · rw [if_neg hurn, if_neg (by omega), hjoin]

end Uuid

theorem Uuid.ofJson_eq_ok_iff {j : Json} {u : Uuid} :
    Uuid.ofJson j = .ok u ↔ ∃ name, j = .string name ∧ Uuid.ofChars? name.toList = some u := by
  rw [Uuid.ofJson, bind_eq_ok_iff]
  apply exists_congr
  intro name
  rw [text_eq_ok_iff]
  apply and_congr_right
  intro _
  cases Uuid.ofChars? name.toList with
  | none => simp [throw, throwThe, MonadExceptOf.throw]
  | some v => simp [pure, Except.pure]

theorem FarmerId.ofJson_eq_ok_iff {j : Json} {i : FarmerId} :
    FarmerId.ofJson j = .ok i ↔ ∃ name, j = .string name ∧ Uuid.ofChars? name.toList = some i.uuid := by
  rw [← Uuid.ofJson_eq_ok_iff, FarmerId.ofJson, map_eq_ok_iff]
  constructor
  · rintro ⟨u, hu, rfl⟩
    exact hu
  · exact fun h => ⟨i.uuid, h, rfl⟩

theorem Uuid.ofJson_written (u : Uuid) : Uuid.ofJson (.string (String.ofList u.toChars)) = .ok u := by
  refine Uuid.ofJson_eq_ok_iff.mpr ⟨_, rfl, ?_⟩
  rw [String.toList_ofList, Uuid.ofChars?_toChars]

theorem FarmId.ofJson_toJson (i : FarmId) : FarmId.ofJson i.toJson = .ok i := by
  change (Uuid.ofJson (.string (String.ofList i.uuid.toChars))).map Identifier.mk = .ok i
  rw [Uuid.ofJson_written, Except.map]

theorem FarmerId.ofJson_toJson (i : FarmerId) : FarmerId.ofJson i.toJson = .ok i := by
  change (Uuid.ofJson (.string (String.ofList i.uuid.toChars))).map Identifier.mk = .ok i
  rw [Uuid.ofJson_written, Except.map]

end FarmRegistry
