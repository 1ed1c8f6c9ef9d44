import Std.Data.HashMap
import WideRow.Pattern.Shape

/-!
The size of the automata of a pattern, one that reads a text forwards and one that reads it
backwards, both byte by byte. A pattern is too large when either takes more than its share of
memory. Only what counts for the size is laid out: how many states there are, what they take beyond
a plain state, and whether a piece ends in a branch, which grows with every way out of it.
-/

namespace WideRow.Pattern

open Unicode (CodeSet ByteRange)

/-- The states of an automaton, and the bytes that they take beyond plain ones. -/
structure Tally where
  states : Nat
  extra : Nat

namespace Tally

def stateBytes : Nat := 32

def arcBytes : Nat := 8

def wayBytes : Nat := 4

def limit : Nat := 0xA00000

def bytes (t : Tally) : Nat := stateBytes * t.states + t.extra

end Tally

/-- Lays an automaton out, unless it grows beyond the limit. -/
abbrev Draft := StateT Tally Option

inductive Direction where
  | forward
  | backward
  deriving DecidableEq, Repr

namespace Draft

def grow (states extra : Nat) : Draft Unit := do
  let t ← get
  let t := ⟨t.states + states, t.extra + extra⟩
  if Tally.limit < Tally.bytes t then failure
  set t

def state (arcs : Nat) : Draft Nat := do
  let number := (← get).states
  grow 1 (Tally.arcBytes * arcs)
  return number

def plain : Draft Unit := grow 1 0

def ways (n : Nat) : Draft Unit := grow 0 (Tally.wayBytes * n)

def follow (branch : Bool) : Draft Unit := if branch then ways 1 else return

/-- A piece, after which it is known whether it ends in a branch. -/
abbrev Piece := Draft Bool

def point : Piece := do
  plain
  return false

def chain (branch : Bool) : List Piece → Piece
  | [] => return branch
  | p :: ps => do
    let after ← p
    follow branch
    chain after ps

def inRow : List Piece → Piece
  | [] => point
  | p :: ps => do chain (← p) ps

def again (p : Piece) (branch : Bool) : Nat → Piece
  | 0 => return branch
  | n + 1 => do
    let after ← p
    follow branch
    again p after n

def copies (p : Piece) : Nat → Piece
  | 0 => point
  | n + 1 => do again p (← p) n

def options : List Piece → Draft Unit
  | [] => return
  | p :: ps => do
    let branch ← p
    ways 1
    follow branch
    options ps

def fork : List Piece → Piece
  | [] => point
  | [p] => p
  | p :: q :: ps => do
    let first ← p
    let second ← q
    grow 2 0
    ways 2
    follow first
    follow second
    options ps
    return false

def optional (p : Piece) : Piece := do
  plain
  let branch ← p
  plain
  ways 2
  follow branch
  return false

/-- Any number of matches of a piece that takes something. -/
def star (p : Piece) : Piece := do
  plain
  let branch ← p
  ways 1
  follow branch
  return true

/-- Any number of matches of a piece that may take nothing. -/
def starOfEmpty (p : Piece) : Piece := do
  let branch ← p
  grow 3 0
  follow branch
  ways 4
  return false

def atLeast (p : Piece) (n : Nat) : Piece := do
  if n ≤ 1 then
    let branch ← p
    plain
    follow branch
  else
    let before ← copies p (n - 1)
    let branch ← p
    plain
    follow before
    follow branch
  ways 1
  return true

def steps (p : Piece) (branch : Bool) : Nat → Piece
  | 0 => return branch
  | n + 1 => do
    plain
    let after ← p
    follow branch
    ways 2
    steps p after n

def between (p : Piece) (least most : Nat) : Piece := do
  let before ← copies p least
  plain
  follow (← steps p before (most - least))
  return false

def repeated (bounds : Bounds) (takes : Bool) (p : Piece) : Piece :=
  match bounds with
  | ⟨0, some 1⟩ => optional p
  | ⟨0, none⟩ => if takes then star p else starOfEmpty p
  | ⟨n, none⟩ => atLeast p n
  | ⟨n, some m⟩ => if n = m then copies p n else between p n m

/-! Sets of characters are read as their encoded forms. States that go on alike are shared as long
as they are remembered: each slot of a table remembers the last state that was put into it. -/

abbrev Memory (α : Type) := Std.HashMap Nat (α × Nat)

abbrev Sharing (α : Type) := StateT (Memory α) Draft

def mix (h : UInt64) (n : Nat) : UInt64 := (h ^^^ n.toUInt64) * 1099511628211

def slot (slots : Nat) (key : List Nat) : Nat :=
  (key.foldl mix 14695981039346656037).toNat % slots

def shared {α : Type} [BEq α] (slots : Nat) (key : List Nat) (what : α) (make : Draft Nat) :
    Sharing α Nat := do
  let place := slot slots key
  let remembered :=
    match (← get)[place]? with
    | some (kept, number) => if kept == what then some number else none
    | none => none
  match remembered with
  | some number => return number
  | none =>
    let number ← make
    modify (·.insert place (what, number))
    return number

structure Arc where
  bytes : ByteRange
  target : Nat
  deriving BEq

def forwardSlots : Nat := 10000

def node (arcs : List Arc) : Sharing (List Arc) Nat :=
  shared forwardSlots (arcs.flatMap fun a => [a.bytes.1, a.bytes.2, a.target]) arcs
    (state arcs.length)

def groups : List (List ByteRange) → List (ByteRange × List (List ByteRange))
  | [] => []
  | [] :: rows => groups rows
  | (b :: row) :: rows =>
    match groups rows with
    | (c, same) :: rest =>
      if b = c then (b, row :: same) :: rest else (b, [row]) :: (c, same) :: rest
    | [] => [(b, [row])]

mutual

def rowsNode (target : Nat) : Nat → List (List ByteRange) → Sharing (List Arc) Nat
  | 0, _ => return target
  | k + 1, rows => do node (← rowsArcs target k (groups rows))

def rowsArcs (target : Nat) (k : Nat) :
    List (ByteRange × List (List ByteRange)) → Sharing (List Arc) (List Arc)
  | [] => return []
  | (b, rest) :: more => do
    let next ← if rest.all (·.isEmpty) then pure target else rowsNode target k rest
    return ⟨b, next⟩ :: (← rowsArcs target k more)

end

def longestForm : Nat := 4

def setForward (rows : List (List ByteRange)) : Piece := do
  let target ← state 0
  let _ ← (rowsNode target longestForm rows).run ∅
  return false

structure Suffix where
  after : Nat
  bytes : ByteRange
  deriving BEq

def backwardSlots : Nat := 1000

def suffixes (after : Nat) : List ByteRange → Sharing Suffix Nat
  | [] => return after
  | b :: row => do
    let number ← shared backwardSlots [after, b.1, b.2] ⟨after, b⟩ (state 0)
    suffixes number row

def rowsBackward (target : Nat) : List (List ByteRange) → Sharing Suffix Unit
  | [] => return
  | row :: rows => do
    let _ ← suffixes target row
    ways 1
    rowsBackward target rows

def setBackward (rows : List (List ByteRange)) : Piece := do
  plain
  let target ← state 0
  let _ ← (rowsBackward target rows).run ∅
  return false

def ofSet (d : Direction) (ofBytes : Bool) (s : CodeSet) : Piece :=
  if ofBytes || s.isAscii then do
    grow 2 (Tally.arcBytes * s.ranges.length)
    return false
  else
    let rows := s.ranges.flatMap Unicode.byteRows
    match d with
    | .forward => setForward rows
    | .backward => setBackward rows

/-! A choice between literals is one tree. Literals with a common beginning share it, but for those
between which one ends: what comes first is to be found first. -/

/-- Literals in runs, each up to one that ends here. -/
def runs : List Bytes → List (List Bytes)
  | [] => [[]]
  | [] :: ws => [] :: runs ws
  | w :: ws =>
    match runs ws with
    | r :: rs => (w :: r) :: rs
    | [] => [[w]]

def heads (run : List Bytes) : List UInt8 := (run.filterMap List.head?).eraseDups

def tailsAfter (b : UInt8) (run : List Bytes) : List Bytes :=
  run.filterMap fun w =>
    match w with
    | c :: rest => if b = c then some rest else none
    | [] => none

def runArcs (run : List Bytes) : Draft Unit := do
  let n := (heads run).length
  if 1 < n then grow 1 (Tally.arcBytes * n) else if n = 1 then plain

/-- The tree of some literals of at most so many bytes. One leaf serves all that end. -/
def tree : Nat → List Bytes → Draft Unit
  | 0, _ => return
  | k + 1, ws => do
    let rest := ws.dropWhile (·.isEmpty)
    if rest.isEmpty then return
    let rs := if rest.length < ws.length then [] :: runs rest else runs rest
    rs.forM runArcs
    grow 1 (Tally.wayBytes * ((rs.filter (!·.isEmpty)).length + rs.length - 1))
    rs.forM fun run => (heads run).forM fun b => tree k (tailsAfter b run)

def literals (ws : List Bytes) : Piece := do
  plain
  tree ((ws.map List.length).foldl max 0) ws
  return false

end Draft

namespace Shape

def literal? : Shape → Option Bytes
  | literal bytes => some bytes
  | _ => none

variable (d : Direction)

def ordered {α : Type} (items : List α) : List α :=
  match d with
  | .forward => items
  | .backward => items.reverse

mutual

def layout : Shape → Draft.Piece
  | empty => Draft.point
  | literal bytes => do
    Draft.grow bytes.length 0
    return false
  | set ofBytes s => Draft.ofSet d ofBytes s
  | anchor _ _ => Draft.point
  | repeated bounds _ s =>
    Draft.repeated bounds (s.leastLength.any (0 < ·)) s.layout
  | captured s =>
    match d with
    | .forward => do
      Draft.plain
      let branch ← s.layout
      Draft.plain
      Draft.follow branch
      return false
    | .backward => s.layout
  | concat ps => Draft.inRow (ordered d (layouts ps))
  | choice ps =>
    match ps.mapM literal? with
    | some ws => Draft.literals (ws.map (ordered d))
    | none => Draft.fork (layouts ps)

def layouts : List Shape → List Draft.Piece
  | [] => []
  | p :: ps => p.layout :: layouts ps

end

def anchored (s : Shape) : Bool :=
  match d with
  | .forward => s.startsText
  | .backward => s.endsText

/-- An automaton that may start anywhere first passes over any bytes. -/
def automaton (s : Shape) : Draft Unit := do
  if s.anchored d then Draft.plain
  else
    Draft.grow 3 Tally.arcBytes
    Draft.ways 2
  Draft.follow (← (captured s).layout d)
  Draft.plain

def fits (s : Shape) : Bool :=
  ((s.automaton .forward).run ⟨0, 0⟩).isSome && ((s.automaton .backward).run ⟨0, 0⟩).isSome

end Shape

end WideRow.Pattern
