/-!
# Compendium — decoding UTF-8 with replacement

Bytes that are not UTF-8 still decode: every maximal part that begins a well-formed sequence
without completing it, and every byte that begins none, becomes one U+FFFD. The decoder reads byte
by byte; between bytes it holds the bits so far and, for each byte still due, the range it must
lie in.
-/

namespace Compendium.Text

def replacementChar : Char := '\ufffd'

/-- The range that a byte must lie in. -/
structure ByteRange where
  low : UInt8
  high : UInt8

def ByteRange.contains (r : ByteRange) (b : UInt8) : Bool := r.low ≤ b && b ≤ r.high

def continuation : ByteRange := ⟨0x80, 0xBF⟩

/-- A sequence begun: its bits so far, the next byte's range and those of the bytes after it. -/
structure Unfinished where
  bits : Nat
  next : ByteRange
  later : List ByteRange

/-- What the first byte of a sequence of two or more bytes begins. The ranges leave out overlong
forms, surrogates and everything above U+10FFFF. -/
def Unfinished.ofLead? (b : UInt8) : Option Unfinished :=
  let n := b.toNat
  if 0xC2 ≤ n && n ≤ 0xDF then some ⟨n % 32, continuation, []⟩
  else if n == 0xE0 then some ⟨n % 16, ⟨0xA0, 0xBF⟩, [continuation]⟩
  else if n == 0xED then some ⟨n % 16, ⟨0x80, 0x9F⟩, [continuation]⟩
  else if 0xE1 ≤ n && n ≤ 0xEF then some ⟨n % 16, continuation, [continuation]⟩
  else if n == 0xF0 then some ⟨n % 8, ⟨0x90, 0xBF⟩, [continuation, continuation]⟩
  else if 0xF1 ≤ n && n ≤ 0xF3 then some ⟨n % 8, continuation, [continuation, continuation]⟩
  else if n == 0xF4 then some ⟨n % 8, ⟨0x80, 0x8F⟩, [continuation, continuation]⟩
  else none

/-- A byte between sequences: the characters it completes and the sequence it begins. -/
def startSequence (b : UInt8) : List Char × Option Unfinished :=
  if b < 0x80 then ([Char.ofNat b.toNat], none)
  else match Unfinished.ofLead? b with
    | some u => ([], some u)
    | none => ([replacementChar], none)

def decodeByte (state : Option Unfinished) (b : UInt8) : List Char × Option Unfinished :=
  match state with
  | none => startSequence b
  | some u =>
    if u.next.contains b then
      let bits := u.bits * 64 + b.toNat % 64
      match u.later with
      | [] => ([Char.ofNat bits], none)
      | next :: later => ([], some ⟨bits, next, later⟩)
    else
      let (cs, state) := startSequence b
      (replacementChar :: cs, state)

def decodeFrom : Option Unfinished → List UInt8 → List Char
  | none, [] => []
  | some _, [] => [replacementChar]
  | state, b :: bs =>
    let (cs, state) := decodeByte state b
    cs ++ decodeFrom state bs

def decodeLossy (bs : List UInt8) : String :=
  String.ofList (decodeFrom none bs)

end Compendium.Text
