namespace FarmRegistry.Text

def isBlank (c : Char) : Bool :=
  let n := c.toNat
  (9 ≤ n && n ≤ 13) || n = 0x20 || n = 0x85 || n = 0xA0 || n = 0x1680 || (0x2000 ≤ n && n ≤ 0x200A) ||
    n = 0x2028 || n = 0x2029 || n = 0x202F || n = 0x205F || n = 0x3000

def trimLeft : List Char → List Char
  | [] => []
  | c :: cs => if isBlank c then trimLeft cs else c :: cs

def trim (cs : List Char) : List Char :=
  (trimLeft (trimLeft cs).reverse).reverse

def allBlank (s : String) : Bool :=
  s.toList.all isBlank

theorem trimLeft_eq_nil_iff (cs : List Char) : trimLeft cs = [] ↔ cs.all isBlank = true := by
  induction cs with
  | nil => simp [trimLeft]
  | cons c cs ih => by_cases h : isBlank c <;> simp_all [trimLeft]

end FarmRegistry.Text
