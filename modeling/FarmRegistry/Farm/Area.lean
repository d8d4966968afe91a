import FarmRegistry.Decimal.Layout
import FarmRegistry.Geodesic.Area
import FarmRegistry.Number.Bounded

namespace FarmRegistry

/-- An area in whole square metres; differences of areas may be negative. -/
structure Area where
  squareMetres : Signed64
deriving DecidableEq

namespace Area

def val (a : Area) : Int :=
  a.squareMetres.val

theorem ext_val {a b : Area} (h : a.val = b.val) : a = b := by
  obtain ⟨x⟩ := a
  obtain ⟨y⟩ := b
  exact congrArg Area.mk (Bounded.ext h)

def ofInt? (n : Int) : Option Area :=
  (Bounded.ofInt? n).map Area.mk

theorem ofInt?_eq_some_iff {n : Int} {a : Area} : ofInt? n = some a ↔ a.val = n := by
  obtain ⟨b⟩ := a
  simp [ofInt?, val, Bounded.ofInt?_eq_some_iff]

def zero : Area := ⟨⟨0, by decide, by decide⟩⟩

instance : Inhabited Area := ⟨zero⟩

def ofNat (n : Nat) : Area :=
  ⟨⟨min (n : Int) 9223372036854775807, by omega, by omega⟩⟩

theorem ofNat_val_nonneg (n : Nat) : 0 ≤ (ofNat n).val := by
  simp only [val, ofNat]
  omega

def ofPolygon (p : Polygon) : Area :=
  ofNat (Float.round p.geodesicArea).toUInt64.toNat

theorem ofPolygon_val_nonneg (p : Polygon) : 0 ≤ (ofPolygon p).val :=
  ofNat_val_nonneg _

def add? (a b : Area) : Option Area :=
  ofInt? (a.val + b.val)

def sub? (a b : Area) : Option Area :=
  ofInt? (a.val - b.val)

def add (a b : Area) : Except Overflow Area :=
  match a.add? b with
  | some c => .ok c
  | none => .error .add

def sub (a b : Area) : Except Overflow Area :=
  match a.sub? b with
  | some c => .ok c
  | none => .error .subtract

def sum (areas : List Area) : Except Overflow Area :=
  areas.foldlM add zero

def isNegative (a : Area) : Bool :=
  a.val < 0

def hectares (a : Area) : Float :=
  Float.ofInt a.val / 10000

def display (a : Area) : String :=
  s!"{Decimal.fixed 4 a.hectares} ha"

end Area

end FarmRegistry
