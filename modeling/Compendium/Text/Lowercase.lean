import Compendium.Text.Lowercase.Table

/-!
# Compendium — lowercase

Lookup names are compared in lowercase. Every character is replaced by its full lowercase, with
one rule that looks at the neighbours: a capital sigma that ends a word becomes `ς`, any other `σ`.
It ends a word if a cased character stands before it and none stands after it, case-ignorable
characters (accents, apostrophes, full stops) in between not counted.
-/

namespace Compendium.Text

def isCaseIgnorable (c : Char) : Bool :=
  caseIgnorableSpans.any (·.contains c.toNat)

def isCased (c : Char) : Bool :=
  casedSpans.any (·.contains c.toNat)

/-- The first character that is not case-ignorable, if any, is cased. -/
def nextIsCased (cs : List Char) : Bool :=
  match cs.dropWhile isCaseIgnorable with
  | [] => false
  | c :: _ => isCased c

/-- Lowercase of a character other than the capital sigma, whatever stands around it. -/
def lowercaseChar (c : Char) : List Char :=
  if c = '\u0130' then ['i', '\u0307']
  else match lowercaseRuns.find? (·.contains c.toNat) with
    | some run => [Char.ofNat (run.lowercase c.toNat)]
    | none => [c]

/-- `before` holds the characters already read, the last of them first. -/
def lowercaseAfter (before : List Char) : List Char → List Char
  | [] => []
  | c :: cs =>
    (if c = 'Σ' then [if nextIsCased before && !nextIsCased cs then 'ς' else 'σ']
      else lowercaseChar c)
      ++ lowercaseAfter (c :: before) cs

def lowercase (s : String) : String :=
  String.ofList (lowercaseAfter [] s.toList)

/-! ## ASCII

Keywords are compared with the case of ASCII letters ignored and every other character as it is. -/

def lowercaseAscii (s : String) : String := s.map Char.toLower

def equalsIgnoringAsciiCase (s t : String) : Bool :=
  lowercaseAscii s == lowercaseAscii t

end Compendium.Text
