import WideRow.Json.Basic

namespace WideRow.Json

def hexDigit (n : Nat) : Char := (Nat.digitChar n)

def escape? (c : Char) : Option (List Char) :=
  if c = '"' then some ['\\', '"']
  else if c = '\\' then some ['\\', '\\']
  else if c = '\x08' then some ['\\', 'b']
  else if c = '\t' then some ['\\', 't']
  else if c = '\n' then some ['\\', 'n']
  else if c = '\x0C' then some ['\\', 'f']
  else if c = '\r' then some ['\\', 'r']
  else if c.toNat < 0x20 then
    some ['\\', 'u', '0', '0', hexDigit (c.toNat / 16), hexDigit (c.toNat % 16)]
  else none

def runs : List Char → List (List Char)
  | [] => []
  | c :: cs =>
    match escape? c with
    | some e => e :: runs cs
    | none =>
      match runs cs with
      | [] => [[c]]
      | r :: rs =>
        match cs with
        | [] => [c] :: r :: rs
        | d :: _ => if (escape? d).isSome then [c] :: r :: rs else (c :: r) :: rs

def quoted (s : String) : List (List Char) := ['"'] :: runs s.toList ++ [['"']]

def integerDigits (n : Int) : List Char :=
  if n < 0 then '-' :: Nat.toDigits 10 n.natAbs else Nat.toDigits 10 n.natAbs

mutual

def pieces : Json → List (List Char)
  | null => [['n', 'u', 'l', 'l']]
  | bool true => [['t', 'r', 'u', 'e']]
  | bool false => [['f', 'a', 'l', 's', 'e']]
  | integer n => [integerDigits n]
  | real x => [x.text.toList]
  | text s => quoted s
  | array [] => [['['], [']']]
  | array (j :: js) => ['['] :: j.pieces ++ piecesItems js
  | object [] => [['{'], ['}']]
  | object ((name, j) :: ms) => ['{'] :: quoted name ++ [':'] :: j.pieces ++ piecesMembers ms
  | unreadable => [['n', 'u', 'l', 'l']]

def piecesItems : List Json → List (List Char)
  | [] => [[']']]
  | j :: js => [','] :: j.pieces ++ piecesItems js

def piecesMembers : List (String × Json) → List (List Char)
  | [] => [['}']]
  | (name, j) :: ms => [','] :: quoted name ++ [':'] :: j.pieces ++ piecesMembers ms

end

def print (j : Json) : String := String.ofList j.pieces.flatten

end WideRow.Json
