/-!
# Compendium — blank space

Parameters and lookup names are read with the blanks around them left off. A blank is a character
with the White_Space property: twenty-five code points, the no-break and the ideographic space
among them. Zero-width characters are not blanks, so a text of only U+200B is not empty.

The properties that more characters have are given as lists of spans of code points (`Span`): a
character has the property if one of the spans holds its code point.
-/

namespace Compendium.Text

/-- The code points from `first` to `last`. -/
structure Span where
  first : Nat
  last : Nat

def Span.contains (s : Span) (n : Nat) : Bool := s.first ≤ n && n ≤ s.last

def isBlank (c : Char) : Bool :=
  let n := c.toNat
  (0x9 ≤ n && n ≤ 0xD) || n == 0x20 || n == 0x85 || n == 0xA0 || n == 0x1680
    || (0x2000 ≤ n && n ≤ 0x200A) || n == 0x2028 || n == 0x2029 || n == 0x202F
    || n == 0x205F || n == 0x3000

/-! ## Trimming

Both ends lose their blanks; what lies between two other characters stays. -/

def dropBlanksEnd (cs : List Char) : List Char :=
  (cs.reverse.dropWhile isBlank).reverse

def trimChars (cs : List Char) : List Char :=
  dropBlanksEnd (cs.dropWhile isBlank)

def trim (s : String) : String :=
  String.ofList (trimChars s.toList)

/-- Nothing but blanks, or nothing at all. -/
def isBlankText (s : String) : Bool :=
  (trim s).isEmpty

end Compendium.Text
