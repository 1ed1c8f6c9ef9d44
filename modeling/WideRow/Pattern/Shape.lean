import WideRow.Pattern.Form
import WideRow.Text.Utf8
import WideRow.Unicode.ByteRange

namespace WideRow.Pattern

open Unicode (CodeSet)

inductive Shape where
  | empty
  | literal (bytes : Bytes)
  | set (ofBytes : Bool) (members : CodeSet)
  | anchor (kind : Anchor) (unicode : Bool)
  | repeated (bounds : Bounds) (lazy : Bool) (s : Shape)
  | captured (s : Shape)
  | concat (parts : List Shape)
  | choice (options : List Shape)
  deriving Inhabited

namespace Shape

def fail : Shape := set true .empty

def ofCode (n : Nat) : Shape := literal (String.utf8EncodeChar (Char.ofNat n))

def ofSet (ofBytes : Bool) (s : CodeSet) : Shape :=
  if s.isEmpty then fail
  else
    match s.onlyMember? with
    | some n => ofCode n
    | none => set ofBytes s

def sum? : List (Option Nat) → Option Nat
  | [] => some 0
  | n :: ns => return (← n) + (← sum? ns)

/-- The number that `pick` leaves of a list, if all of them are known. -/
def pick? (pick : Nat → Nat → Nat) : List (Option Nat) → Option Nat
  | [] => none
  | [n] => n
  | n :: ns => return pick (← n) (← pick? pick ns)

mutual

def leastLength : Shape → Option Nat
  | empty => some 0
  | literal bytes => some bytes.length
  | set ofBytes s => s.ranges.head?.map fun r => if ofBytes then 1 else Unicode.byteCount r.1
  | anchor _ _ => some 0
  | repeated bounds _ s => s.leastLength.map (bounds.least * ·)
  | captured s => s.leastLength
  | concat ps => sum? (leastLengths ps)
  | choice ps => pick? min (leastLengths ps)

def leastLengths : List Shape → List (Option Nat)
  | [] => []
  | p :: ps => p.leastLength :: leastLengths ps

end

mutual

def mostLength : Shape → Option Nat
  | empty => some 0
  | literal bytes => some bytes.length
  | set ofBytes s => s.ranges.getLast?.map fun r => if ofBytes then 1 else Unicode.byteCount r.2
  | anchor _ _ => some 0
  | repeated bounds _ s => do return (← bounds.most) * (← s.mostLength)
  | captured s => s.mostLength
  | concat ps => sum? (mostLengths ps)
  | choice ps => pick? max (mostLengths ps)

def mostLengths : List Shape → List (Option Nat)
  | [] => []
  | p :: ps => p.mostLength :: mostLengths ps

end

def takesNothing (s : Shape) : Bool := s.mostLength == some 0

mutual

def startsText : Shape → Bool
  | anchor kind _ => kind == .textStart
  | repeated bounds _ s => 0 < bounds.least && s.startsText
  | captured s => s.startsText
  | concat ps => someStarts ps
  | choice ps => allStart ps
  | _ => false

def someStarts : List Shape → Bool
  | [] => false
  | p :: ps => p.startsText || (p.takesNothing && someStarts ps)

def allStart : List Shape → Bool
  | [] => true
  | p :: ps => p.startsText && allStart ps

end

mutual

def endsText : Shape → Bool
  | anchor kind _ => kind == .textEnd
  | repeated bounds _ s => 0 < bounds.least && s.endsText
  | captured s => s.endsText
  | concat ps => someEnds ps
  | choice ps => allEnd ps
  | _ => false

def someEnds : List Shape → Bool
  | [] => false
  | p :: ps => someEnds ps || (ps.all takesNothing && p.endsText)

def allEnd : List Shape → Bool
  | [] => true
  | p :: ps => p.endsText && allEnd ps

end

mutual

/-- Equal shapes. Groups that capture are told apart by their numbers, so no two of them are
equal. -/
def same : Shape → Shape → Bool
  | empty, empty => true
  | literal bs, literal cs => bs == cs
  | set a s, set b t => a == b && s == t
  | anchor k a, anchor l b => k == l && a == b
  | repeated b l s, repeated c m t => b == c && l == m && s.same t
  | concat ps, concat qs => allSame ps qs
  | choice ps, choice qs => allSame ps qs
  | _, _ => false

def allSame : List Shape → List Shape → Bool
  | [], [] => true
  | p :: ps, q :: qs => p.same q && allSame ps qs
  | _, _ => false

end

def joinLiterals : List Shape → List Shape
  | [] => []
  | p :: ps =>
    match p, joinLiterals ps with
    | literal bs, literal cs :: rest => literal (bs ++ cs) :: rest
    | p, rest => p :: rest

def parts : Shape → List Shape
  | empty => []
  | concat ps => ps
  | p => [p]

def seq (ps : List Shape) : Shape :=
  match joinLiterals (ps.flatMap parts) with
  | [] => empty
  | [p] => p
  | ps => concat ps

/-- What takes nothing is repeated once at most. -/
def boundsFor (s : Shape) (b : Bounds) : Bounds :=
  if s.takesNothing then ⟨min b.least 1, some (min (b.most.getD 1) 1)⟩ else b

def times (s : Shape) (bounds : Bounds) (lazy : Bool) : Shape :=
  let bounds := s.boundsFor bounds
  if bounds = ⟨0, some 0⟩ then empty else if bounds = ⟨1, some 1⟩ then s else repeated bounds lazy s

def options : Shape → List Shape
  | choice ps => ps
  | p => [p]

def code? : Shape → Option Nat
  | literal bytes =>
    match Text.Utf8.chars bytes with
    | [some c] => some c.toNat
    | _ => none
  | _ => none

def members? : Shape → Option CodeSet
  | set _ s => some s
  | _ => none

def asSet? (ps : List Shape) : Option CodeSet :=
  match ps.mapM code? with
  | some codes => some (.unions (codes.map .single))
  | none => (ps.mapM members?).map .unions

def flatChoice (ps : List Shape) : Shape :=
  match ps.flatMap options with
  | [] => fail
  | [p] => p
  | ps =>
    match asSet? ps with
    | some s => ofSet false s
    | none => choice ps

def commonPrefix : List Shape → List Shape → List Shape
  | p :: ps, q :: qs => if p.same q then p :: commonPrefix ps qs else []
  | _, _ => []

def concat? : Shape → Option (List Shape)
  | concat ps => some ps
  | _ => none

/-- A choice between sequences, with what they all begin with before it. -/
def alternatives (ps : List Shape) : Shape :=
  match flatChoice ps with
  | choice ps =>
    match ps.mapM concat? with
    | some (first :: rest) =>
      match rest.foldl commonPrefix first with
      | [] => choice ps
      | shared =>
        let tails := (first :: rest).map fun parts => seq (parts.drop shared.length)
        seq (shared ++ [flatChoice tails])
    | _ => choice ps
  | s => s

end Shape

end WideRow.Pattern
