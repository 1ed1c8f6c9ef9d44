import WideRow.Pattern.Automaton
import WideRow.Pattern.Reader
import WideRow.Unicode.Names

namespace WideRow.Pattern

open Unicode (CodeSet)

structure Flags where
  ignoreCase : Bool := false
  multiLine : Bool := false
  dotAll : Bool := false
  anyLineEnd : Bool := false
  unicode : Bool := true
  swapLazy : Bool := false

namespace Flags

def apply (flags : Flags) (change : FlagChange) : Flags :=
  let after (c : Char) (old : Bool) : Bool :=
    if change.on.contains c then true else if change.off.contains c then false else old
  ⟨after 'i' flags.ignoreCase, after 'm' flags.multiLine, after 's' flags.dotAll,
    after 'R' flags.anyLineEnd, after 'u' flags.unicode, after 'U' flags.swapLazy⟩

def fold (flags : Flags) (s : CodeSet) : CodeSet :=
  if flags.ignoreCase then (if flags.unicode then s.anyCase else s.anyCaseAscii) else s

def variants (flags : Flags) (n : Nat) : List Nat :=
  if flags.ignoreCase then
    (if flags.unicode then Unicode.caseVariants n else Unicode.asciiVariants n)
  else [n]

/-- What a class leaves out. Without the Unicode flag this would hold bytes beyond ASCII. -/
def negate? (flags : Flags) (negated : Bool) (s : CodeSet) : Option CodeSet :=
  if negated then (if flags.unicode then some s.complement else none) else some s

end Flags

def asciiDigits : CodeSet := .range 0x30 0x39

def asciiLetters : CodeSet := ⟨[(0x41, 0x5A), (0x61, 0x7A)]⟩

def asciiWord : CodeSet := .unions [asciiDigits, asciiLetters, .single 0x5F]

def asciiClass (name : String) : CodeSet :=
  match name with
  | "alnum" => asciiDigits.union asciiLetters
  | "alpha" => asciiLetters
  | "ascii" => .range 0 0x7F
  | "blank" => ⟨[(9, 9), (32, 32)]⟩
  | "cntrl" => ⟨[(0, 31), (127, 127)]⟩
  | "digit" => asciiDigits
  | "graph" => .range 33 126
  | "lower" => .range 0x61 0x7A
  | "print" => .range 32 126
  | "punct" => ⟨[(33, 47), (58, 64), (91, 96), (123, 126)]⟩
  | "space" => ⟨[(9, 13), (32, 32)]⟩
  | "upper" => .range 0x41 0x5A
  | "word" => asciiWord
  | "xdigit" => ⟨[(0x30, 0x39), (0x41, 0x46), (0x61, 0x66)]⟩
  | _ => .empty

def shorthandSet (unicode : Bool) : Shorthand → CodeSet
  | .digit => if unicode then Unicode.decimalNumber else asciiDigits
  | .space => if unicode then Unicode.whiteSpace else asciiClass "space"
  | .word => if unicode then Unicode.word else asciiWord

def wordSet (flags : Flags) : CodeSet := shorthandSet flags.unicode .word

def operation : SetOperator → CodeSet → CodeSet → CodeSet
  | .inter => .inter
  | .diff => .diff
  | .symmetricDiff => .symmetricDiff

def boundOf? (flags : Flags) (l : Literal) : Option Nat :=
  if flags.unicode || l.code < 0x80 then some l.code else none

namespace ClassForm

mutual

def meaning (flags : Flags) : ClassForm → Option CodeSet
  | range first last => do
    let a ← boundOf? flags first
    let b ← boundOf? flags last
    return .range a b
  | shorthand kind negated => flags.negate? negated (shorthandSet flags.unicode kind)
  | property name value negated => do
    if !flags.unicode then none
    let s ←
      match value with
      | some v => Unicode.valued? name v
      | none => Unicode.named? name
    flags.negate? negated (flags.fold s)
  | ascii name negated => flags.negate? negated (flags.fold (asciiClass name))
  | bracket negated body => do
    let s ← body.meaning flags
    flags.negate? negated (flags.fold s)
  | union items => do return .unions (← meanings flags items)
  | operation kind left right => do
    let s ← left.meaning flags
    let t ← right.meaning flags
    return Pattern.operation kind (flags.fold s) (flags.fold t)

def meanings (flags : Flags) : List ClassForm → Option (List CodeSet)
  | [] => some []
  | c :: cs => do return (← c.meaning flags) :: (← meanings flags cs)

end

end ClassForm

structure Reading where
  pattern : Pattern
  shape : Shape
  flags : Flags

namespace Reading

def ofSet (flags : Flags) (s : CodeSet) : Reading :=
  ⟨.letter s, .ofSet (!flags.unicode) s, flags⟩

def ofAnchor (flags : Flags) (kind : Anchor) (word : CodeSet) : Reading :=
  ⟨.anchor kind word, .anchor kind (!word.isEmpty && flags.unicode), flags⟩

/-- A literal is a set of its own only where case tells nothing apart. -/
def ofLetter (flags : Flags) (n : Nat) : Reading :=
  match flags.variants n with
  | [n] => ⟨.letter (.single n), .ofCode n, flags⟩
  | ns => .ofSet flags (.unions (ns.map .single))

def repeated (r : Reading) (bounds : Bounds) (lazy : Bool) : Reading :=
  let bounds := r.shape.boundsFor bounds
  ⟨.repeated r.pattern bounds.least bounds.most,
    r.shape.times bounds (lazy != r.flags.swapLazy), r.flags⟩

def seq (flags : Flags) (rs : List Reading) : Reading :=
  ⟨rs.foldr (fun r p => .seq r.pattern p) .empty, .seq (rs.map shape), flags⟩

def either : List Reading → Pattern
  | [] => .letter .empty
  | [r] => r.pattern
  | r :: rs => .either r.pattern (either rs)

def alternatives (flags : Flags) (rs : List Reading) : Reading :=
  ⟨either rs, .alternatives (rs.map shape), flags⟩

def flagsAfter (flags : Flags) (rs : List Reading) : Flags :=
  (rs.getLast?.map (·.flags)).getD flags

end Reading

namespace Form

def lineStart (flags : Flags) : Anchor :=
  if flags.multiLine then (if flags.anyLineEnd then .lineStartAny else .lineStart) else .textStart

def lineEnd (flags : Flags) : Anchor :=
  if flags.multiLine then (if flags.anyLineEnd then .lineEndAny else .lineEnd) else .textEnd

def isWordAnchor : Anchor → Bool
  | .textStart | .textEnd | .lineStart | .lineEnd | .lineStartAny | .lineEndAny => false
  | _ => true

def anchorWord (flags : Flags) (kind : Anchor) : CodeSet :=
  if isWordAnchor kind then wordSet flags else .empty

def dotSet (flags : Flags) : CodeSet :=
  if flags.dotAll then .all
  else if flags.anyLineEnd then CodeSet.complement ⟨[(10, 10), (13, 13)]⟩
  else CodeSet.complement (.single 10)

mutual

def meaning (flags : Flags) : Form → Option Reading
  | empty => some ⟨.empty, .empty, flags⟩
  | Form.flags change => some ⟨.empty, .empty, flags.apply change⟩
  | letter l =>
    if !flags.unicode && l.isByte && 0x80 ≤ l.code then none else some (.ofLetter flags l.code)
  | dot => if flags.unicode then some (.ofSet flags (dotSet flags)) else none
  | caret => some (.ofAnchor flags (lineStart flags) .empty)
  | dollar => some (.ofAnchor flags (lineEnd flags) .empty)
  | anchor kind => some (.ofAnchor flags kind (anchorWord flags kind))
  | set c => (c.meaning flags).map (.ofSet flags)
  | group captures change f => do
    let r ← f.meaning (flags.apply change)
    return ⟨r.pattern, if captures then .captured r.shape else r.shape, flags⟩
  | repeated f bounds lazy => do return (← f.meaning flags).repeated bounds lazy
  | concat fs => do
    let rs ← meanings flags fs
    return .seq (Reading.flagsAfter flags rs) rs
  | alternation fs => do
    let rs ← meanings flags fs
    return .alternatives (Reading.flagsAfter flags rs) rs

def meanings (flags : Flags) : List Form → Option (List Reading)
  | [] => some []
  | f :: fs => do
    let r ← f.meaning flags
    return r :: (← meanings r.flags fs)

end

end Form

def read? (s : String) : Option Pattern := do
  let form ← Form.read? s
  let r ← form.meaning {}
  if r.shape.fits then some r.pattern else none

end WideRow.Pattern
