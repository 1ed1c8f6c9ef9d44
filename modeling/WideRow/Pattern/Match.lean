import WideRow.Unicode.CodeSet

namespace WideRow

namespace Pattern

inductive Anchor where
  | textStart
  | textEnd
  | lineStart
  | lineEnd
  /-- Lines that end in a line feed, a carriage return or both. -/
  | lineStartAny
  | lineEndAny
  | wordBoundary
  | notWordBoundary
  | wordStart
  | wordEnd
  | wordStartHalf
  | wordEndHalf
  deriving DecidableEq, Repr

end Pattern

inductive Pattern where
  | empty
  | letter (set : Unicode.CodeSet)
  | anchor (kind : Pattern.Anchor) (word : Unicode.CodeSet)
  | seq (p q : Pattern)
  | either (p q : Pattern)
  | repeated (p : Pattern) (least : Nat) (most : Option Nat)
  deriving Inhabited

namespace Pattern

open Unicode (CodeSet)

abbrev Text := Array Char

def codeAt? (text : Text) (i : Nat) : Option Nat := text[i]?.map Char.toNat

def codeBefore? (text : Text) (i : Nat) : Option Nat :=
  match i with
  | 0 => none
  | i + 1 => codeAt? text i

def isAt (set : CodeSet) (code : Option Nat) : Bool := code.any set.mem

namespace Anchor

def holds (word : CodeSet) (text : Text) (i : Nat) (kind : Anchor) : Bool :=
  let before := codeBefore? text i
  let after := codeAt? text i
  let wordBefore := isAt word before
  let wordAfter := isAt word after
  match kind with
  | textStart => i == 0
  | textEnd => i == text.size
  | lineStart => i == 0 || before == some 10
  | lineEnd => i == text.size || after == some 10
  | lineStartAny => i == 0 || before == some 10 || (before == some 13 && after != some 10)
  | lineEndAny => i == text.size || after == some 13 || (after == some 10 && before != some 13)
  | wordBoundary => wordBefore != wordAfter
  | notWordBoundary => wordBefore == wordAfter
  | wordStart => !wordBefore && wordAfter
  | wordEnd => wordBefore && !wordAfter
  | wordStartHalf => !wordBefore
  | wordEndHalf => !wordAfter

end Anchor

/-- A text matches from one place to another. -/
inductive Matches (text : Text) : Pattern → Nat → Nat → Prop where
  | empty (i : Nat) : Matches text .empty i i
  | letter {set : CodeSet} {i : Nat} (h : isAt set (codeAt? text i)) :
    Matches text (.letter set) i (i + 1)
  | anchor {kind : Anchor} {word : CodeSet} {i : Nat} (h : kind.holds word text i) :
    Matches text (.anchor kind word) i i
  | seq {p q : Pattern} {i j k : Nat} (hp : Matches text p i j) (hq : Matches text q j k) :
    Matches text (.seq p q) i k
  | left {p q : Pattern} {i j : Nat} (h : Matches text p i j) : Matches text (.either p q) i j
  | right {p q : Pattern} {i j : Nat} (h : Matches text q i j) : Matches text (.either p q) i j
  | none {p : Pattern} {most : Option Nat} (i : Nat) : Matches text (.repeated p 0 most) i i
  | needed {p : Pattern} {least : Nat} {most : Option Nat} {i j k : Nat}
    (hp : Matches text p i j) (hr : Matches text (.repeated p least most) j k) :
    Matches text (.repeated p (least + 1) (most.map (· + 1))) i k
  | more {p : Pattern} {most : Option Nat} {i j k : Nat}
    (hp : Matches text p i j) (hr : Matches text (.repeated p 0 most) j k) :
    Matches text (.repeated p 0 (most.map (· + 1))) i k

abbrev Places := List Nat

namespace Places

def upTo (n : Nat) : Places := (List.range (n + 1)).reverse

def without : Places → Places → Places
  | [], _ => []
  | i :: s, t =>
    let t := t.dropWhile (i < ·)
    if t.head? == some i then without s t else i :: without s t

def union (s t : Places) : Places := s.merge (t.without s) (· ≥ ·)

/-- Stops early where a step changes nothing, so that a large count costs no more than the text. -/
def after (step : Places → Places) : Nat → Places → Places
  | 0, s => s
  | n + 1, s =>
    let t := step s
    if t == s then s else after step n t

/-- Adds what up to so many steps reach, each step only from the places that the last one added. -/
def spread (step : Places → Places) : Nat → Places → Places → Places
  | 0, seen, _ => seen
  | n + 1, seen, last =>
    let fresh := (step last).without seen
    if fresh.isEmpty then seen else spread step n (seen.union fresh) fresh

end Places

def ends (text : Text) : Pattern → Places → Places
  | empty, s => s
  | letter set, s => (s.filter fun i => isAt set (codeAt? text i)).map (· + 1)
  | anchor kind word, s => s.filter fun i => kind.holds word text i
  | seq p q, s => q.ends text (p.ends text s)
  | either p q, s => (p.ends text s).union (q.ends text s)
  | repeated p least most, s =>
    let rest := match most with
      | none => text.size
      | some most => most - least
    let s := Places.after (p.ends text) least s
    Places.spread (p.ends text) rest s s

def isIn (p : Pattern) (s : String) : Bool :=
  let text : Text := s.toList.toArray
  !(p.ends text (.upTo text.size)).isEmpty

end Pattern

end WideRow
