import WideRow.Binary64

namespace WideRow.Binary64

def decimalLength (n : Nat) : Nat := (Nat.toDigits 10 n).length

def wholeDigits (num den : Nat) : Int := decimalLength (num * Nat.pow 10 400 / den) - 400

def neighbours (num den : Nat) (exponent : Int) : List Nat :=
  let lower := num * Nat.pow 10 (-exponent).toNat / (den * Nat.pow 10 exponent.toNat)
  [lower, lower + 1]

def distance (a b : Nat) : Nat := (a - b) + (b - a)

def missBy (num den : Nat) (exponent : Int) (digits : Nat) : Nat :=
  distance (digits * den * Nat.pow 10 exponent.toNat) (num * Nat.pow 10 (-exponent).toNat)

def isNearer (num den : Nat) (exponent : Int) (d e : Nat) : Bool :=
  let a := missBy num den exponent d
  let b := missBy num den exponent e
  a < b || (a = b && d % 2 = 0)

def nearest? (num den : Nat) (exponent : Int) : List Nat → Option Nat
  | [] => none
  | d :: ds =>
    match nearest? num den exponent ds with
    | none => some d
    | some e => if isNearer num den exponent d e then some d else some e

/-- The digits of the first length from `17 - fuel` up at which some decimal reads back. -/
def search (place : Nat) (num den : Nat) (whole : Int) : Nat → Nat × Int
  | 0 => (0, 0)
  | fuel + 1 =>
    let exponent : Int := whole - (17 - fuel : Nat)
    let hits := (neighbours num den exponent).filter (placeOfDecimal · exponent == place)
    match nearest? num den exponent hits with
    | some digits => (digits, exponent)
    | none => search place num den whole fuel

def dropZeros : Nat → Nat → Int → Nat × Int
  | 0, digits, exponent => (digits, exponent)
  | fuel + 1, digits, exponent =>
    if digits % 10 = 0 then dropZeros fuel (digits / 10) (exponent + 1) else (digits, exponent)

def shortest (place : Nat) : Nat × Int :=
  let (num, den) := quotient place
  let (digits, exponent) := search place num den (wholeDigits num den) 17
  dropZeros 17 digits exponent

def zeros (n : Nat) : List Char := List.replicate n '0'

def signed (n : Int) : List Char := (if n < 0 then '-' else '+') :: Nat.toDigits 10 n.natAbs

/-- Positional while the leading digit stands for `10 ^ (-5)` up to `10 ^ 15`, and then always with
a digit after the point; otherwise with one digit before the point and a signed exponent. -/
def layoutDigits (digits : List Char) (exponent : Int) : List Char :=
  let whole : Int := digits.length + exponent
  if 0 ≤ exponent ∧ whole ≤ 16 then digits ++ zeros exponent.toNat ++ ['.', '0']
  else if 0 < whole ∧ whole ≤ 16 then
    digits.take whole.toNat ++ '.' :: digits.drop whole.toNat
  else if -5 < whole ∧ whole ≤ 0 then '0' :: '.' :: zeros (-whole).toNat ++ digits
  else
    match digits with
    | [] => []
    | [d] => d :: 'e' :: signed (whole - 1)
    | d :: ds => d :: '.' :: ds ++ 'e' :: signed (whole - 1)

def text (x : Binary64) : String :=
  let sign := if x.negative then ['-'] else []
  let body :=
    if x.place = 0 then ['0', '.', '0']
    else
      let (digits, exponent) := shortest x.place
      layoutDigits (Nat.toDigits 10 digits) exponent
  String.ofList (sign ++ body)

end WideRow.Binary64
