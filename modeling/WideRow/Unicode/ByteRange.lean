import WideRow.Unicode.CodeSet

namespace WideRow.Unicode

abbrev ByteRange := Nat × Nat

structure Band where
  first : Nat
  last : Nat
  more : Nat
  mark : Nat

def bands : List Band :=
  [⟨0, 0x7F, 0, 0⟩, ⟨0x80, 0x7FF, 1, 0xC0⟩, ⟨0x800, 0xD7FF, 2, 0xE0⟩, ⟨0xE000, 0xFFFF, 2, 0xE0⟩,
    ⟨0x10000, lastCode, 3, 0xF0⟩]

/-- The digits to base 64 of the numbers from `a` to `b`, with so many digits after the leading
one. -/
def digitRows : Nat → Nat → Nat → List (List (Nat × Nat))
  | 0, a, b => [[(a, b)]]
  | k + 1, a, b =>
    let size := Nat.pow 64 (k + 1)
    let p := a / size
    let q := b / size
    let behind (digit : Nat) (a b : Nat) : List (List (Nat × Nat)) :=
      (digitRows k a b).map ((digit, digit) :: ·)
    if p = q then behind p (a % size) (b % size)
    else
      let low := if a % size = 0 then p else p + 1
      let high := if b % size + 1 = size then q + 1 else q
      (if low = p then [] else behind p (a % size) (size - 1)) ++
        (if low < high then [(low, high - 1) :: List.replicate (k + 1) (0, 63)] else []) ++
        (if high = q then behind q 0 (b % size) else [])

def Band.encode (b : Band) : List (Nat × Nat) → List ByteRange
  | [] => []
  | (p, q) :: rest => (p + b.mark, q + b.mark) :: rest.map fun d => (d.1 + 0x80, d.2 + 0x80)

def byteRows (r : Range) : List (List ByteRange) :=
  bands.flatMap fun b =>
    let first := max r.1 b.first
    let last := min r.2 b.last
    if first ≤ last then (digitRows b.more first last).map b.encode else []

def byteCount (n : Nat) : Nat :=
  if n < 0x80 then 1 else if n < 0x800 then 2 else if n < 0x10000 then 3 else 4

end WideRow.Unicode
