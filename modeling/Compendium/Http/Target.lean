import Compendium.Text.Fields

/-!
# Compendium — request targets

What a request is sent to, as a path and a query string, both still encoded. A target may begin with
a scheme and the authority that it leads to, which are not looked at. The path ends at the first
question mark. A fragment, from the first `#` on, is for the client alone.
-/

namespace Compendium.Http

structure Target where
  path : String
  query : List Char
deriving DecidableEq, Repr

namespace Target

def isSchemeChar (c : Char) : Bool := c.isAlphanum || c ∈ ['+', '-', '.', '~']

/-- What follows a scheme and `://`, if the target begins with them. -/
def afterScheme? (cs : List Char) : Option (List Char) :=
  match cs.dropWhile isSchemeChar with
  | ':' :: '/' :: '/' :: rest => some rest
  | _ => none

def endsAuthority (c : Char) : Bool := c == '/' || c == '?' || c == '#'

def withoutOrigin (cs : List Char) : List Char :=
  match afterScheme? cs with
  | some rest => rest.dropWhile (!endsAuthority ·)
  | none => cs

def withoutFragment (cs : List Char) : List Char := cs.takeWhile (· ≠ '#')

def ofText (text : String) : Target :=
  let (path, query) := Text.cutFirst '?' (withoutFragment (withoutOrigin text.toList))
  ⟨String.ofList path, query⟩

end Target

end Compendium.Http
