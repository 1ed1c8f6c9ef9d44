import WideRow.Json.Basic
import WideRow.Text.Numeral

namespace WideRow.Json

open Text (isDigit digitsValue digits? exponent?)

def skipBlank : List Char → List Char
  | [] => []
  | c :: cs => if c = ' ' ∨ c = '\n' ∨ c = '\t' ∨ c = '\r' then skipBlank cs else c :: cs

def hexValue? (c : Char) : Option Nat :=
  let n := c.toNat
  if 0x30 ≤ n ∧ n ≤ 0x39 then some (n - 0x30)
  else if 0x41 ≤ n ∧ n ≤ 0x46 then some (n - 0x41 + 10)
  else if 0x61 ≤ n ∧ n ≤ 0x66 then some (n - 0x61 + 10)
  else none

def hexCode? (a b c d : Char) : Option Nat := do
  let a ← hexValue? a
  let b ← hexValue? b
  let c ← hexValue? c
  let d ← hexValue? d
  return ((a * 16 + b) * 16 + c) * 16 + d

/-- What a string literal is made of: characters, and 16-bit units named by their number. -/
inductive Letter where
  | char (c : Char)
  | unit (n : Nat)

def unescape? (c : Char) : Option Char :=
  if c = '"' ∨ c = '\\' ∨ c = '/' then some c
  else if c = 'b' then some '\x08'
  else if c = 'f' then some '\x0C'
  else if c = 'n' then some '\n'
  else if c = 'r' then some '\r'
  else if c = 't' then some '\t'
  else none

def letters : List Char → Option (List Letter × List Char)
  | [] => none
  | '"' :: rest => some ([], rest)
  | '\\' :: 'u' :: a :: b :: c :: d :: rest => do
    let n ← hexCode? a b c d
    let (ls, rest) ← letters rest
    return (.unit n :: ls, rest)
  | '\\' :: e :: rest => do
    let c ← unescape? e
    let (ls, rest) ← letters rest
    return (.char c :: ls, rest)
  | c :: rest =>
    if c.toNat < 0x20 then none
    else do
      let (ls, rest) ← letters rest
      return (.char c :: ls, rest)

def isLeading (n : Nat) : Bool := 0xD800 ≤ n && n ≤ 0xDBFF

def isTrailing (n : Nat) : Bool := 0xDC00 ≤ n && n ≤ 0xDFFF

/-- Units pair up as UTF-16 has them; half of a pair stands for nothing. -/
def spell? : List Letter → Option (List Char)
  | [] => some []
  | .char c :: ls => (spell? ls).map (c :: ·)
  | .unit hi :: .unit lo :: ls =>
    if isLeading hi then
      if isTrailing lo then
        (spell? ls).map (Char.ofNat (0x10000 + (hi - 0xD800) * 0x400 + (lo - 0xDC00)) :: ·)
      else none
    else if isTrailing hi then none
    else (spell? (.unit lo :: ls)).map (Char.ofNat hi :: ·)
  | .unit n :: ls =>
    if isLeading n || isTrailing n then none else (spell? ls).map (Char.ofNat n :: ·)

/-- The text of a literal after its opening quote, none where the text stands for nothing. -/
def stringBody (cs : List Char) : Option (Option String × List Char) := do
  let (ls, rest) ← letters cs
  return ((spell? ls).map String.ofList, rest)

def wholePart : List Char → Option (List Char × List Char)
  | '0' :: c :: rest => if isDigit c then none else some (['0'], c :: rest)
  | cs => digits? cs

def fractionPart : List Char → Option (List Char × List Char)
  | '.' :: rest => digits? rest
  | cs => some ([], cs)

def lastInteger : Nat := 0xFFFFFFFFFFFFFFFF

def takeDigits (n : Nat) : List Char → Nat × Nat
  | [] => (n, 0)
  | c :: cs =>
    let m := n * 10 + (c.toNat - 48)
    if lastInteger < m then (n, 0)
    else
      let (m, count) := takeDigits m cs
      (m, count + 1)

/-- The digits that count, as an integer, and the power of ten that it stands at. Whole digits that
are not taken up make the power greater, and fraction digits are taken up after them. -/
def significand (whole fraction : List Char) : Nat × Int :=
  let (n, wholeCount) := takeDigits 0 whole
  let (n, fractionCount) := takeDigits n fraction
  (n, (whole.length - wholeCount : Nat) - (fractionCount : Int))

/-- Integers of 64 bits, signed or not, stay integers; other numbers become floating-point numbers,
if they are finite. Minus zero is such a number. -/
def numberValue (negative : Bool) (whole fraction : List Char) (exponent : Option Int) : Json :=
  let n := digitsValue whole
  let fits := if negative then 0 < n && n ≤ 0x8000000000000000 else n ≤ lastInteger
  if fraction.isEmpty && exponent.isNone && fits then
    integer (if negative then -n else n)
  else
    let (digits, power) := significand whole fraction
    let place := Binary64.scaled digits (power + exponent.getD 0)
    if place = Binary64.infinite then unreadable else real ⟨negative, place⟩

def number (negative : Bool) (cs : List Char) : Option (Json × List Char) := do
  let (whole, rest) ← wholePart cs
  let (fraction, rest) ← fractionPart rest
  let (exponent, rest) ← exponent? rest
  return (numberValue negative whole fraction exponent, rest)

/-- An object one of whose names stands for nothing is itself unreadable. -/
def ofMembers (ms : List (Option String × Json)) : Json :=
  match ms.mapM fun m => m.1.map (·, m.2) with
  | some ms => object ms
  | none => unreadable

mutual

def value : Nat → List Char → Option (Json × List Char)
  | 0, _ => none
  | fuel + 1, cs =>
    match skipBlank cs with
    | 'n' :: 'u' :: 'l' :: 'l' :: rest => some (null, rest)
    | 't' :: 'r' :: 'u' :: 'e' :: rest => some (bool true, rest)
    | 'f' :: 'a' :: 'l' :: 's' :: 'e' :: rest => some (bool false, rest)
    | '"' :: rest => do
      let (s, rest) ← stringBody rest
      return (s.elim unreadable text, rest)
    | '[' :: rest =>
      match skipBlank rest with
      | ']' :: rest => some (array [], rest)
      | rest => do
        let (js, rest) ← items fuel rest
        return (array js, rest)
    | '{' :: rest =>
      match skipBlank rest with
      | '}' :: rest => some (object [], rest)
      | rest => do
        let (ms, rest) ← namedItems fuel rest
        return (ofMembers ms, rest)
    | '-' :: rest => number true rest
    | rest => number false rest

def items : Nat → List Char → Option (List Json × List Char)
  | 0, _ => none
  | fuel + 1, cs => do
    let (j, rest) ← value fuel cs
    match skipBlank rest with
    | ',' :: rest =>
      let (js, rest) ← items fuel rest
      return (j :: js, rest)
    | ']' :: rest => return ([j], rest)
    | _ => none

def namedItems : Nat → List Char → Option (List (Option String × Json) × List Char)
  | 0, _ => none
  | fuel + 1, cs =>
    match skipBlank cs with
    | '"' :: rest => do
      let (name, rest) ← stringBody rest
      match skipBlank rest with
      | ':' :: rest =>
        let (j, rest) ← value fuel rest
        match skipBlank rest with
        | ',' :: rest =>
          let (ms, rest) ← namedItems fuel rest
          return ((name, j) :: ms, rest)
        | '}' :: rest => return ([(name, j)], rest)
        | _ => none
      | _ => none
    | _ => none

end

/-- The value of a whole text. Two steps for each character are enough. -/
def read? (s : String) : Option Json :=
  let cs := s.toList
  match value (2 * cs.length + 2) cs with
  | some (j, rest) => if (skipBlank rest).isEmpty then some j else none
  | none => none

end WideRow.Json
