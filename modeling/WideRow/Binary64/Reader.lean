import WideRow.Binary64
import WideRow.Text.Numeral

namespace WideRow.Binary64

open Text

def isInfinityWord (cs : List Char) : Bool :=
  let w := cs.map Char.toLower
  w == ['i', 'n', 'f'] || w == ['i', 'n', 'f', 'i', 'n', 'i', 't', 'y']

def fraction (cs : List Char) : List Char × List Char :=
  match cs with
  | '.' :: rest => rest.span isDigit
  | _ => ([], cs)

def read? (cs : List Char) : Option Binary64 :=
  let (negative, rest) := sign cs
  if isInfinityWord rest then some ⟨negative, infinite⟩
  else do
    let (whole, rest) := rest.span isDigit
    let (part, rest) := fraction rest
    if whole.isEmpty && part.isEmpty then none
    else
      match exponent? rest with
      | some (e, []) =>
        some (ofDecimal negative (digitsValue (whole ++ part)) (e.getD 0 - part.length))
      | _ => none

end WideRow.Binary64
