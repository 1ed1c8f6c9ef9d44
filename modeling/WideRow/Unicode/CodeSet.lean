/-!
Sets of characters, as ascending ranges of code points with both ends included. No two ranges of a
set touch. Surrogates are no characters, so U+D7FF comes right before U+E000.
-/

namespace WideRow.Unicode

abbrev Range := Nat × Nat

def lastCode : Nat := 0x10FFFF

def next (n : Nat) : Nat := if n = 0xD7FF then 0xE000 else n + 1

def previous (n : Nat) : Nat := if n = 0xE000 then 0xD7FF else n - 1

structure CodeSet where
  ranges : List Range
  deriving DecidableEq, Repr, Inhabited

namespace CodeSet

def mem (s : CodeSet) (n : Nat) : Bool := s.ranges.any fun r => r.1 ≤ n && n ≤ r.2

def empty : CodeSet := ⟨[]⟩

def all : CodeSet := ⟨[(0, lastCode)]⟩

def range (first last : Nat) : CodeSet := ⟨[(first, last)]⟩

def single (n : Nat) : CodeSet := range n n

/-- Two lists of ranges in one, ordered by first code points. The number bounds their lengths. -/
def interleave : Nat → List Range → List Range → List Range
  | 0, rs, ts => rs ++ ts
  | _, [], ts => ts
  | _, rs, [] => rs
  | k + 1, r :: rs, t :: ts =>
    if r.1 ≤ t.1 then r :: interleave k rs (t :: ts) else t :: interleave k (r :: rs) ts

def join (first last : Nat) : List Range → List Range
  | [] => [(first, last)]
  | r :: rs =>
    if r.1 ≤ last + 1 then join first (max last r.2) rs else (first, last) :: join r.1 r.2 rs

def joined : List Range → List Range
  | [] => []
  | r :: rs => join r.1 r.2 rs

def union (s t : CodeSet) : CodeSet :=
  ⟨joined (interleave (s.ranges.length + t.ranges.length) s.ranges t.ranges)⟩

def unions (ss : List CodeSet) : CodeSet := ss.foldr union empty

def ofRanges (rs : List Range) : CodeSet := unions (rs.map fun r => range r.1 r.2)

def overlap : Nat → List Range → List Range → List Range
  | k + 1, r :: rs, t :: ts =>
    let shared := if max r.1 t.1 ≤ min r.2 t.2 then [(max r.1 t.1, min r.2 t.2)] else []
    shared ++ if r.2 < t.2 then overlap k rs (t :: ts) else overlap k (r :: rs) ts
  | _, _, _ => []

def inter (s t : CodeSet) : CodeSet :=
  ⟨overlap (s.ranges.length + t.ranges.length) s.ranges t.ranges⟩

def remainder : Nat → List Range → List Range → List Range
  | k + 1, r :: rs, t :: ts =>
    if t.2 < r.1 then remainder k (r :: rs) ts
    else if r.2 < t.1 then r :: remainder k rs (t :: ts)
    else
      let before := if r.1 < t.1 then [(r.1, previous t.1)] else []
      let after := if t.2 < r.2 then [(next t.2, r.2)] else []
      before ++ remainder k (after ++ rs) (t :: ts)
  | _, rs, _ => rs

def diff (s t : CodeSet) : CodeSet :=
  ⟨remainder (2 * (s.ranges.length + t.ranges.length)) s.ranges t.ranges⟩

def symmetricDiff (s t : CodeSet) : CodeSet := (s.union t).diff (s.inter t)

/-- What lies between two code points that are left out, its ends in order. Nothing lies between
U+D7FF and U+E000; their ends in order are both of them. -/
def gap (before after : Nat) : Range :=
  (min (next before) (previous after), max (next before) (previous after))

def gapsAfter (last : Nat) : List Range → List Range
  | [] => if last < lastCode then [(next last, lastCode)] else []
  | r :: rs => gap last r.1 :: gapsAfter r.2 rs

def complement (s : CodeSet) : CodeSet :=
  match s.ranges with
  | [] => all
  | r :: rs => ⟨(if 0 < r.1 then [(0, previous r.1)] else []) ++ gapsAfter r.2 rs⟩

def isEmpty (s : CodeSet) : Bool := s.ranges.isEmpty

def onlyMember? (s : CodeSet) : Option Nat :=
  match s.ranges with
  | [(n, m)] => if n = m then some n else none
  | _ => none

def isAscii (s : CodeSet) : Bool := s.ranges.all (·.2 < 0x80)

end CodeSet

end WideRow.Unicode
