import DesignTokens.Text

/-! # Blank characters

The characters that count as white space in a font name, in a setting and around a number:
the separators of Unicode together with the control characters that part lines and records. -/
namespace DesignTokens.Text

/-- The blanks as ranges of code points, both ends included, in ascending order. -/
def blankRanges : List (Nat × Nat) :=
  [(0x09, 0x0D), (0x1C, 0x20), (0x85, 0x85), (0xA0, 0xA0), (0x1680, 0x1680), (0x2000, 0x200A),
    (0x2028, 0x2029), (0x202F, 0x202F), (0x205F, 0x205F), (0x3000, 0x3000)]

/-- A code point lies in one of the ranges. -/
def inRanges (ranges : List (Nat × Nat)) (code : Nat) : Bool :=
  ranges.any fun r => r.1 ≤ code && code ≤ r.2

def isBlank (c : Letter) : Bool := inRanges blankRanges c.code

/-- A list without what is blank at both ends. -/
def stripped {α : Type} (blank : α → Bool) (cs : List α) : List α :=
  ((cs.dropWhile blank).reverse.dropWhile blank).reverse

def strip (s : String) : String := String.ofList (stripped (fun c => isBlank c) s.toList)

/-- There are 29 blank characters. -/
example : (blankRanges.map fun r => r.2 + 1 - r.1).sum = 29 := by decide

end DesignTokens.Text
