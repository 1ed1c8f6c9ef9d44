import WideRow.Text.Utf8

namespace WideRow.Digest.Sha256

abbrev Word := UInt32

def constants : List Word := [
  0x428a2f98, 0x71374491, 0xb5c0fbcf, 0xe9b5dba5, 0x3956c25b, 0x59f111f1, 0x923f82a4, 0xab1c5ed5,
  0xd807aa98, 0x12835b01, 0x243185be, 0x550c7dc3, 0x72be5d74, 0x80deb1fe, 0x9bdc06a7, 0xc19bf174,
  0xe49b69c1, 0xefbe4786, 0x0fc19dc6, 0x240ca1cc, 0x2de92c6f, 0x4a7484aa, 0x5cb0a9dc, 0x76f988da,
  0x983e5152, 0xa831c66d, 0xb00327c8, 0xbf597fc7, 0xc6e00bf3, 0xd5a79147, 0x06ca6351, 0x14292967,
  0x27b70a85, 0x2e1b2138, 0x4d2c6dfc, 0x53380d13, 0x650a7354, 0x766a0abb, 0x81c2c92e, 0x92722c85,
  0xa2bfe8a1, 0xa81a664b, 0xc24b8b70, 0xc76c51a3, 0xd192e819, 0xd6990624, 0xf40e3585, 0x106aa070,
  0x19a4c116, 0x1e376c08, 0x2748774c, 0x34b0bcb5, 0x391c0cb3, 0x4ed8aa4a, 0x5b9cca4f, 0x682e6ff3,
  0x748f82ee, 0x78a5636f, 0x84c87814, 0x8cc70208, 0x90befffa, 0xa4506ceb, 0xbef9a3f7, 0xc67178f2]

structure State where
  a : Word
  b : Word
  c : Word
  d : Word
  e : Word
  f : Word
  g : Word
  h : Word

def State.initial : State :=
  ⟨0x6a09e667, 0xbb67ae85, 0x3c6ef372, 0xa54ff53a, 0x510e527f, 0x9b05688c, 0x1f83d9ab, 0x5be0cd19⟩

def State.words (s : State) : List Word := [s.a, s.b, s.c, s.d, s.e, s.f, s.g, s.h]

def State.add (s t : State) : State :=
  ⟨s.a + t.a, s.b + t.b, s.c + t.c, s.d + t.d, s.e + t.e, s.f + t.f, s.g + t.g, s.h + t.h⟩

def rotate (x : Word) (n : Word) : Word := (x >>> n) ||| (x <<< (32 - n))

def sigma0 (x : Word) : Word := rotate x 7 ^^^ rotate x 18 ^^^ (x >>> 3)

def sigma1 (x : Word) : Word := rotate x 17 ^^^ rotate x 19 ^^^ (x >>> 10)

def sum0 (x : Word) : Word := rotate x 2 ^^^ rotate x 13 ^^^ rotate x 22

def sum1 (x : Word) : Word := rotate x 6 ^^^ rotate x 11 ^^^ rotate x 25

def round (s : State) (k w : Word) : State :=
  let choice := (s.e &&& s.f) ^^^ (~~~s.e &&& s.g)
  let majority := (s.a &&& s.b) ^^^ (s.a &&& s.c) ^^^ (s.b &&& s.c)
  let t := s.h + sum1 s.e + choice + k + w
  ⟨t + sum0 s.a + majority, s.a, s.b, s.c, s.d + t, s.e, s.f, s.g⟩

/-- The next word of the schedule, from the sixteen before it, the latest first. -/
def scheduled (recent : List Word) : Word :=
  sigma1 (recent.getD 1 0) + recent.getD 6 0 + sigma0 (recent.getD 14 0) + recent.getD 15 0

def extend : Nat → List Word → List Word
  | 0, reversed => reversed
  | n + 1, reversed => extend n (scheduled reversed :: reversed)

def compress (s : State) (block : List Word) : State :=
  let words := (extend 48 block.reverse).reverse
  s.add ((constants.zip words).foldl (fun s kw => round s kw.1 kw.2) s)

def word (bs : Bytes) : Word := bs.foldl (fun w b => (w <<< 8) ||| b.toUInt32) 0

def bytesOfNat : Nat → Nat → Bytes
  | 0, _ => []
  | k + 1, n => bytesOfNat k (n / 256) ++ [UInt8.ofNat n]

def pad (bs : Bytes) : Bytes :=
  bs ++ 0x80 :: List.replicate ((119 - bs.length % 64) % 64) 0 ++ bytesOfNat 8 (bs.length * 8)

def chunks (size : Nat) : Nat → Bytes → List Bytes
  | 0, _ => []
  | n + 1, bs => bs.take size :: chunks size n (bs.drop size)

def blocks (bs : Bytes) : List (List Word) :=
  let padded := pad bs
  (chunks 64 (padded.length / 64) padded).map fun block => (chunks 4 16 block).map word

def digest (bs : Bytes) : Bytes :=
  ((blocks bs).foldl compress State.initial).words.flatMap fun w => bytesOfNat 4 w.toNat

end WideRow.Digest.Sha256
