import WideRow.Pattern.Match

namespace WideRow.Pattern

structure FlagChange where
  on : List Char
  off : List Char

inductive Shorthand where
  | digit
  | space
  | word

inductive SetOperator where
  | inter
  | diff
  | symmetricDiff

/-- A literal character; two hexadecimal digits may also stand for a byte. -/
structure Literal where
  code : Nat
  isByte : Bool

inductive ClassForm where
  | range (first last : Literal)
  | shorthand (kind : Shorthand) (negated : Bool)
  | property (name : String) (value : Option String) (negated : Bool)
  | ascii (name : String) (negated : Bool)
  | bracket (negated : Bool) (body : ClassForm)
  | union (items : List ClassForm)
  | operation (kind : SetOperator) (left right : ClassForm)

structure Bounds where
  least : Nat
  most : Option Nat
  deriving DecidableEq, Repr

inductive Form where
  | empty
  | flags (change : FlagChange)
  | letter (l : Literal)
  | dot
  | caret
  | dollar
  | anchor (kind : Anchor)
  | set (c : ClassForm)
  | group (captures : Bool) (change : FlagChange) (f : Form)
  /-- A lazy repetition takes as few as will do. -/
  | repeated (f : Form) (bounds : Bounds) (lazy : Bool)
  | concat (fs : List Form)
  | alternation (fs : List Form)

namespace ClassForm

def ofItems : List ClassForm → ClassForm
  | [item] => item
  | items => union items

mutual

def depth : ClassForm → Nat
  | bracket _ body => body.depth + 1
  | union items => if items.isEmpty then 0 else depthItems items + 1
  | operation _ left right => max left.depth right.depth + 1
  | _ => 0

def depthItems : List ClassForm → Nat
  | [] => 0
  | c :: cs => max c.depth (depthItems cs)

end

end ClassForm

namespace Form

def ofSequence : List Form → Form
  | [] => empty
  | [f] => f
  | fs => concat fs

def ofAlternatives : List Form → Form
  | [f] => f
  | fs => alternation fs

def isFlags : Form → Bool
  | flags _ => true
  | _ => false

mutual

def depth : Form → Nat
  | set c => c.depth
  | group _ _ f => f.depth + 1
  | repeated f _ _ => f.depth + 1
  | concat fs => depthList fs + 1
  | alternation fs => depthList fs + 1
  | _ => 0

def depthList : List Form → Nat
  | [] => 0
  | f :: fs => max f.depth (depthList fs)

end

def nestingLimit : Nat := 250

end Form

end WideRow.Pattern
