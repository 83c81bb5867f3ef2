/- module: DddBoilerplate/Domain/Text
   generality: G
   digest: The operations of strings the code relies on, as the language has them. -/

import Mathlib.Algebra.GroupWithZero.Nat

set_option autoImplicit false
set_option relaxedAutoImplicit false
set_option linter.all false

namespace DddBoilerplate.Text

/-- What `String.prototype.trim` removes, and what `\s` matches. -/
def isSpace (c : Char) : Bool :=
  c.toNat ∈ [0x09, 0x0A, 0x0B, 0x0C, 0x0D, 0x20, 0xA0, 0x1680, 0x2028, 0x2029, 0x202F, 0x205F,
    0x3000, 0xFEFF] || (0x2000 ≤ c.toNat && c.toNat ≤ 0x200A)

def trim (s : String) : String :=
  String.ofList ((s.toList.dropWhile isSpace).reverse.dropWhile isSpace).reverse

/-- `length` counts UTF-16 code units. -/
def utf16Length (s : String) : Nat :=
  (s.toList.map fun c => if 0xFFFF < c.toNat then 2 else 1).sum

/-- `Array.prototype.join` -/
def join (separator : String) (parts : List String) : String := separator.intercalate parts

/-- `String.prototype.padStart` -/
def padStart (width : Nat) (fill : Char) (s : String) : String :=
  String.ofList (List.replicate (width - s.length) fill) ++ s

/-- The decimals of a number, however padded, say which number it is. -/
theorem padStart_toString_inj {width n m : Nat}
    (h : padStart width '0' (toString n) = padStart width '0' (toString m)) : n = m := by
  have hvalue : ∀ k : Nat,
      Nat.ofDigitChars 10 (padStart width '0' (toString k)).toList 0 = k := by
    intro k
    simp [padStart, Nat.ofDigitChars_append]
  rw [← hvalue n, h, hvalue m]

end DddBoilerplate.Text
