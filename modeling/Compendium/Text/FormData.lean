import Compendium.Text.Fields
import Compendium.Text.Utf8

/-!
# Compendium — form data

A query string is `application/x-www-form-urlencoded`: pairs separated by `&`, a key and a value
separated by the first `=`, both percent-encoded with `+` for a space. Reading never fails: an
empty pair is skipped, a pair without `=` has an empty value, and a percent sign that no two
hexadecimal digits follow stands for itself.
-/

namespace Compendium.Text

def hexDigit? (c : Char) : Option UInt8 :=
  if '0' ≤ c && c ≤ '9' then some (c.toNat - '0'.toNat).toUInt8
  else if 'a' ≤ c && c ≤ 'f' then some (c.toNat - 'a'.toNat + 10).toUInt8
  else if 'A' ≤ c && c ≤ 'F' then some (c.toNat - 'A'.toNat + 10).toUInt8
  else none

/-- The byte spelled by the two characters after a percent sign. -/
def hexByte? (high low : Char) : Option UInt8 :=
  match hexDigit? high, hexDigit? low with
  | some h, some l => some (16 * h + l)
  | _, _ => none

def percentDecode : List Char → List UInt8
  | [] => []
  | '+' :: cs => 0x20 :: percentDecode cs
  | '%' :: high :: low :: cs =>
    match hexByte? high low with
    | some b => b :: percentDecode cs
    | none => 0x25 :: percentDecode (high :: low :: cs)
  | c :: cs => String.utf8EncodeChar c ++ percentDecode cs

def decodeComponent (cs : List Char) : String :=
  decodeLossy (percentDecode cs)

def decodePair (cs : List Char) : String × String :=
  let (key, value) := cutFirst '=' cs
  (decodeComponent key, decodeComponent value)

/-- The pairs of a query string in order, repeated keys included. -/
def formPairs (query : List Char) : List (String × String) :=
  ((fieldsOf '&' query).filter (!·.isEmpty)).map decodePair

end Compendium.Text
