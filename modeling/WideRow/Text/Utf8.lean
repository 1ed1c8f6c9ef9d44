namespace WideRow

abbrev Bytes := List UInt8

namespace Text.Utf8

def encode (s : String) : Bytes := s.toList.flatMap String.utf8EncodeChar

/-- What a lead byte asks for: how many more bytes, the bounds of the first of them, and the bits
that the lead byte itself carries. -/
def lead (b : UInt8) : Option (Nat × UInt8 × UInt8 × Nat) :=
  if b < 0x80 then some (0, 0, 0, b.toNat)
  else if b < 0xC2 then none
  else if b < 0xE0 then some (1, 0x80, 0xBF, b.toNat - 0xC0)
  else if b < 0xF0 then
    some (2, if b = 0xE0 then 0xA0 else 0x80, if b = 0xED then 0x9F else 0xBF, b.toNat - 0xE0)
  else if b < 0xF5 then
    some (3, if b = 0xF0 then 0x90 else 0x80, if b = 0xF4 then 0x8F else 0xBF, b.toNat - 0xF0)
  else none

def tail : Nat → UInt8 → UInt8 → Nat → Bytes → Option Nat × Bytes
  | 0, _, _, acc, bs => (some acc, bs)
  | _ + 1, _, _, _, [] => (none, [])
  | n + 1, lo, hi, acc, b :: bs =>
    if lo ≤ b ∧ b ≤ hi then tail n 0x80 0xBF (acc * 64 + (b.toNat - 0x80)) bs else (none, b :: bs)

/-- One character, or none for a maximal ill-formed piece, and the bytes after it. -/
def next (b : UInt8) (bs : Bytes) : Option Char × Bytes :=
  match lead b with
  | none => (none, bs)
  | some (n, lo, hi, acc) =>
    match tail n lo hi acc bs with
    | (code, rest) => (code.map Char.ofNat, rest)

def charsWithin : Nat → Bytes → List (Option Char)
  | _, [] => []
  | 0, _ => []
  | fuel + 1, b :: bs => (next b bs).1 :: charsWithin fuel (next b bs).2

def chars (bs : Bytes) : List (Option Char) := charsWithin bs.length bs

def decode? (bs : Bytes) : Option String := ((chars bs).mapM id).map String.ofList

def decodeLossy (bs : Bytes) : String := String.ofList ((chars bs).map (·.getD '\uFFFD'))

end Text.Utf8

end WideRow
