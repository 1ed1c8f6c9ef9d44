import WideRow.Json.Reader
import WideRow.Pattern.Form
import WideRow.Text.Blank
import WideRow.Unicode.Derived

namespace WideRow.Pattern

structure Cursor where
  rest : List Char
  verbose : Bool
  names : List String

abbrev Read := StateT Cursor Option

namespace Read

def peek? : Read (Option Char) := do return (← get).rest.head?

def peek : Read Char := do
  match (← get).rest with
  | c :: _ => return c
  | [] => failure

def dropBlank (inComment : Bool) : List Char → List Char
  | [] => []
  | c :: cs =>
    if inComment then dropBlank (c != '\n') cs
    else if Text.isBlank c then dropBlank false cs
    else if c = '#' then dropBlank true cs
    else c :: cs

def visible (verbose : Bool) (cs : List Char) : List Char :=
  if verbose then dropBlank false cs else cs

def skipBlank : Read Unit := modify fun c => { c with rest := visible c.verbose c.rest }

def advance : Read Unit := modify fun c => { c with rest := c.rest.tail }

def step : Read Unit := do
  advance
  skipBlank

def stepInside : Read Unit := do
  step
  let _ ← peek

def accept (text : List Char) : Read Bool := do
  let c ← get
  if text.isPrefixOf c.rest then
    set { c with rest := c.rest.drop text.length }
    return true
  else return false

def length : Read Nat := do return (← get).rest.length

def takeWhile (keep : Char → Bool) : Nat → Read (List Char)
  | 0 => return []
  | fuel + 1 => do
    match ← peek? with
    | some c =>
      if keep c then
        step
        return c :: (← takeWhile keep fuel)
      else return []
    | none => return []

def dropSpaces : Read Unit := modify fun c => { c with rest := c.rest.dropWhile Text.isBlank }

def decimal : Read Nat := do
  dropSpaces
  let digits ← takeWhile Text.isDigit (← length)
  dropSpaces
  skipBlank
  let n := Text.digitsValue digits
  if digits.isEmpty || 0xFFFFFFFF < n then failure
  return n

def hexNumber (cs : List Char) : Option Nat :=
  cs.foldlM (fun n c => (Json.hexValue? c).map (n * 16 + ·)) 0

def isScalar (n : Nat) : Bool := n < 0xD800 || (0xDFFF < n && n ≤ 0x10FFFF)

def scalar (cs : List Char) : Read Nat := do
  match hexNumber cs with
  | some n => if isScalar n then return n else failure
  | none => failure

def hexDigits : Nat → Read (List Char)
  | 0 => return []
  | n + 1 => do
    let c ← peek
    step
    return c :: (← hexDigits n)

def hexLiteral (kind : Char) : Read Literal := do
  stepInside
  if (← peek) = '{' then
    step
    let digits ← takeWhile (· != '}') (← length)
    if (← peek) != '}' || digits.isEmpty then failure
    step
    return ⟨← scalar digits, false⟩
  else
    let digits ← hexDigits (if kind = 'x' then 2 else if kind = 'u' then 4 else 8)
    return ⟨← scalar digits, kind = 'x'⟩

def cutAt (marks : List Char) : List Char → Option (List Char × List Char)
  | [] => none
  | c :: cs =>
    if marks.isPrefixOf (c :: cs) then some ([], (c :: cs).drop marks.length)
    else (cutAt marks cs).map fun (a, b) => (c :: a, b)

def propertyOf (negated : Bool) (name : List Char) : ClassForm :=
  match cutAt ['!', '='] name with
  | some (p, v) => .property (String.ofList p) (some (String.ofList v)) (!negated)
  | none =>
    match (cutAt [':'] name).orElse fun _ => cutAt ['='] name with
    | some (p, v) => .property (String.ofList p) (some (String.ofList v)) negated
    | none => .property (String.ofList name) none negated

def unicodeClass (negated : Bool) : Read ClassForm := do
  stepInside
  let c ← peek
  if c = '{' then
    step
    let name ← takeWhile (· != '}') (← length)
    if (← peek) != '}' then failure
    advance
    return propertyOf negated name
  else if c = '\\' then failure
  else
    step
    return propertyOf negated [c]

def isMeta (c : Char) : Bool :=
  ['\\', '.', '+', '*', '?', '(', ')', '|', '[', ']', '{', '}', '^', '$', '#', '&', '-',
    '~'].contains c

/-- Any mark of ASCII may be escaped; letters, digits and angle brackets have to mean something. -/
def isEscapable (c : Char) : Bool :=
  isMeta c || (c.toNat < 0x80 && !c.isAlphanum && c != '<' && c != '>')

def control? (c : Char) : Option Nat :=
  match c with
  | 'a' => some 7
  | 'f' => some 12
  | 't' => some 9
  | 'n' => some 10
  | 'r' => some 13
  | 'v' => some 11
  | _ => none

def isBoundaryLetter (c : Char) : Bool := c.isAlpha || c == '-'

/-- A kind of word boundary named in braces; other braces are left to be a repetition. -/
def boundary : Read Anchor := do
  if (← peek?) != some '{' then return .wordBoundary
  let start ← get
  stepInside
  if !isBoundaryLetter (← peek) then
    set start
    return .wordBoundary
  let name ← takeWhile isBoundaryLetter (← length)
  if (← peek) != '}' then failure
  advance
  match String.ofList name with
  | "start" => return .wordStart
  | "end" => return .wordEnd
  | "start-half" => return .wordStartHalf
  | "end-half" => return .wordEndHalf
  | _ => failure

def plain (n : Nat) : Form := .letter ⟨n, false⟩

def anchor? (c : Char) : Option Anchor :=
  match c with
  | 'A' => some .textStart
  | 'z' => some .textEnd
  | 'B' => some .notWordBoundary
  | '<' => some .wordStart
  | '>' => some .wordEnd
  | _ => none

def shorthand? (c : Char) : Option ClassForm :=
  match c with
  | 'd' => some (.shorthand .digit false)
  | 's' => some (.shorthand .space false)
  | 'w' => some (.shorthand .word false)
  | 'D' => some (.shorthand .digit true)
  | 'S' => some (.shorthand .space true)
  | 'W' => some (.shorthand .word true)
  | _ => none

def escape : Read Form := do
  advance
  let c ← peek
  if c = 'x' ∨ c = 'u' ∨ c = 'U' then return .letter (← hexLiteral c)
  if c = 'p' ∨ c = 'P' then return .set (← unicodeClass (c = 'P'))
  advance
  match shorthand? c with
  | some s => return .set s
  | none =>
    if isEscapable c then return plain c.toNat
    if c = 'b' then return .anchor (← boundary)
    match control? c with
    | some n => return plain n
    | none =>
      match anchor? c with
      | some a => return .anchor a
      | none => failure

def asciiClassNames : List String :=
  ["alnum", "alpha", "ascii", "blank", "cntrl", "digit", "graph", "lower", "print", "punct",
    "space", "upper", "word", "xdigit"]

def caret : List Char → Bool × List Char
  | '^' :: cs => (true, cs)
  | cs => (false, cs)

/-- A named class between colons; anything else leaves the text as it was. -/
def asciiClass? (cs : List Char) : Option (ClassForm × List Char) :=
  match cs with
  | '[' :: ':' :: cs =>
    let (negated, cs) := caret cs
    let (name, cs) := cs.span (· != ':')
    let name := String.ofList name
    match cs with
    | ':' :: ']' :: rest =>
      if asciiClassNames.contains name then some (.ascii name negated, rest) else none
    | _ => none
  | _ => none

def classItem : Read Form := do
  let c ← peek
  if c = '\\' then escape
  else
    advance
    return plain c.toNat

def literalOf : Form → Read Literal
  | .letter l => return l
  | _ => failure

def itemOf : Form → Read ClassForm
  | .letter l => return .range l l
  | .set c => return c
  | _ => failure

/-- The first character that is no blank, past one number sign. -/
def beyondBlank (pastSign : Bool) : List Char → Option Char
  | [] => none
  | c :: cs =>
    if Text.isBlank c then beyondBlank pastSign cs
    else if c = '#' && !pastSign then beyondBlank true cs
    else some c

/-- The character after the one in front. Where blanks do not count it is looked for past them and
past one number sign, but not to the end of the comment that this begins. -/
def peekBeyond? : Read (Option Char) := do
  let c ← get
  let rest := c.rest.tail
  return if c.verbose then (beyondBlank false rest).or rest.head? else rest.head?

def classRange : Read ClassForm := do
  let first ← classItem
  skipBlank
  let c ← peek
  let beyond ← peekBeyond?
  if c != '-' || beyond == some ']' || beyond == some '-' then itemOf first
  else
    stepInside
    let last ← classItem
    let first ← literalOf first
    let last ← literalOf last
    if first.code ≤ last.code then return .range first last else failure

def dashes : Nat → Read (List ClassForm)
  | 0 => return []
  | fuel + 1 => do
    if (← peek) = '-' then
      stepInside
      return .range ⟨45, false⟩ ⟨45, false⟩ :: (← dashes fuel)
    else return []

def classOpen : Read (Bool × List ClassForm) := do
  stepInside
  let negated := (← peek) == '^'
  if negated then stepInside
  let items ← dashes (← length)
  if items.isEmpty && (← peek) == ']' then
    stepInside
    return (negated, [.range ⟨93, false⟩ ⟨93, false⟩])
  return (negated, items)

def setOperator? (cs : List Char) : Option SetOperator :=
  match cs with
  | '&' :: '&' :: _ => some .inter
  | '-' :: '-' :: _ => some .diff
  | '~' :: '~' :: _ => some .symmetricDiff
  | _ => none

def operate (pending : Option (SetOperator × ClassForm)) (right : ClassForm) : ClassForm :=
  match pending with
  | some (kind, left) => .operation kind left right
  | none => right

mutual

/-- Operators of sets bind weaker than juxtaposition and group to the left. Two steps for each
character are enough. -/
def classBody : Nat → Option (SetOperator × ClassForm) → List ClassForm → Read ClassForm
  | 0, _, _ => failure
  | fuel + 1, pending, reversed => do
    skipBlank
    let rest := (← get).rest
    match rest with
    | [] => failure
    | ']' :: _ =>
      advance
      return operate pending (.ofItems reversed.reverse)
    | '[' :: _ =>
      match asciiClass? rest with
      | some (item, rest) =>
        modify fun c => { c with rest }
        classBody fuel pending (item :: reversed)
      | none =>
        let item ← bracketed fuel
        classBody fuel pending (item :: reversed)
    | _ =>
      match setOperator? rest with
      | some kind =>
        modify fun c => { c with rest := rest.drop 2 }
        classBody fuel (some (kind, operate pending (.ofItems reversed.reverse))) []
      | none =>
        let item ← classRange
        classBody fuel pending (item :: reversed)

def bracketed : Nat → Read ClassForm
  | 0 => failure
  | fuel + 1 => do
    let (negated, items) ← classOpen
    return .bracket negated (← classBody fuel none items.reverse)

end

def isNameStart (c : Char) : Bool := c == '_' || Unicode.alphabetic.mem c.toNat

def isNamePart (c : Char) : Bool :=
  isNameStart c || c == '.' || c == '[' || c == ']' || Unicode.number.mem c.toNat

def isFreshName (names : List String) : List Char → Bool
  | [] => false
  | first :: more =>
    isNameStart first && more.all isNamePart && !names.contains (String.ofList (first :: more))

def groupName : Read Unit := do
  let c ← get
  let (name, rest) := c.rest.span (· != '>')
  if rest.isEmpty || !isFreshName c.names name then failure
  set { c with rest := rest.tail, names := String.ofList name :: c.names }

def isFlag (c : Char) : Bool := ['i', 'm', 's', 'U', 'u', 'R', 'x'].contains c

/-- Flags, each at most once, with one dash at most and not at the end. -/
def flagsOf? (written : List Char) : Option FlagChange :=
  let (on, off) := written.span (· != '-')
  let flags := on ++ off.drop 1
  if !flags.all isFlag || flags.eraseDups.length != flags.length || off.length == 1 then none
  else some ⟨on, off.drop 1⟩

def endsFlags (c : Char) : Bool := c == ':' || c == ')'

def flagChange : Read FlagChange := do
  let c ← get
  let (written, rest) := c.rest.span fun c => !endsFlags c
  if rest.isEmpty then failure
  match flagsOf? written with
  | some change =>
    set { c with rest }
    return change
  | none => failure

def verboseAfter (change : FlagChange) (verbose : Bool) : Bool :=
  if change.on.contains 'x' then true else if change.off.contains 'x' then false else verbose

def isLookAround (cs : List Char) : Bool :=
  [['?', '='], ['?', '!'], ['?', '<', '='], ['?', '<', '!']].any (·.isPrefixOf cs)

inductive Opening where
  | capture
  | group (change : FlagChange)
  | flags (change : FlagChange)

/-- The mark before the name of a group. The shorter one is not looked for behind the longer. -/
def nameMark : Read Bool := do
  if ← accept ['?', 'P', '<'] then return true else accept ['?', '<']

def groupOpen : Read Opening := do
  step
  if isLookAround (← get).rest then failure
  if ← nameMark then
    groupName
    return .capture
  else if ← accept ['?'] then
    let change ← flagChange
    let mark ← peek
    advance
    if mark = ':' then return .group change
    if change.on.isEmpty && change.off.isEmpty then failure
    return .flags change
  else return .capture

def Opening.change : Opening → FlagChange
  | capture => ⟨[], []⟩
  | group change => change
  | flags change => change

def lazyMark : Read Bool := do
  if (← peek?) = some '?' then
    advance
    return true
  else return false

def bounds : Read Bounds := do
  stepInside
  let least ← decimal
  let c ← peek
  let most ←
    if c = ',' then
      stepInside
      if (← peek) = '}' then pure none else pure (some (← decimal))
    else pure (some least)
  if (← peek) != '}' then failure
  step
  if most.all (least ≤ ·) then return ⟨least, most⟩ else failure

def repeatable : List Form → Read (Form × List Form)
  | [] => failure
  | f :: before => if f.isFlags then failure else return (f, before)

def simpleBounds? (c : Char) : Option Bounds :=
  match c with
  | '?' => some ⟨0, some 1⟩
  | '*' => some ⟨0, none⟩
  | '+' => some ⟨1, none⟩
  | _ => none

def primitive : Read Form := do
  let c ← peek
  if c = '\\' then escape
  else
    advance
    match c with
    | '.' => return .dot
    | '^' => return .caret
    | '$' => return .dollar
    | _ => return plain c.toNat

mutual

def sequence : Nat → List Form → Read Form
  | 0, _ => failure
  | fuel + 1, reversed => do
    skipBlank
    match ← peek? with
    | none => return .ofSequence reversed.reverse
    | some c =>
      if c = ')' ∨ c = '|' then return .ofSequence reversed.reverse
      else if c = '(' then
        let f ← group fuel
        sequence fuel (f :: reversed)
      else if c = '[' then
        let s ← bracketed (2 * (← length))
        sequence fuel (.set s :: reversed)
      else if c = '{' then
        let (f, before) ← repeatable reversed
        let b ← bounds
        sequence fuel (.repeated f b (← lazyMark) :: before)
      else
        match simpleBounds? c with
        | some b =>
          let (f, before) ← repeatable reversed
          advance
          sequence fuel (.repeated f b (← lazyMark) :: before)
        | none =>
          let f ← primitive
          sequence fuel (f :: reversed)

def alternatives : Nat → List Form → Read Form
  | 0, _ => failure
  | fuel + 1, reversed => do
    let f ← sequence fuel []
    if (← peek?) = some '|' then
      advance
      alternatives fuel (f :: reversed)
    else return .ofAlternatives (f :: reversed).reverse

def group : Nat → Read Form
  | 0 => failure
  | fuel + 1 => do
    let outer := (← get).verbose
    let opening ← groupOpen
    let change := opening.change
    modify fun c => { c with verbose := verboseAfter change outer }
    match opening with
    | .flags _ => return .flags change
    | _ =>
      let f ← alternatives fuel []
      if (← peek) != ')' then failure
      advance
      modify fun c => { c with verbose := outer }
      return .group (opening matches .capture) change f

end

end Read

/-- The form of a whole text. Three steps for each character are enough. -/
def Form.read? (s : String) : Option Form :=
  let cs := s.toList
  match (Read.alternatives (3 * cs.length + 3) []).run ⟨cs, false, []⟩ with
  | some (f, c) => if c.rest.isEmpty && f.depth ≤ Form.nestingLimit then some f else none
  | none => none

end WideRow.Pattern
