import WideRow.Error
import WideRow.Store

namespace WideRow.Dump

open Json (text? nat? optional? choice? fields? required? default?)

structure Line where
  row : Bytes
  cell : Cell

def lineFeed : UInt8 := 10

/-- Lines without their ends; nothing after the last end is no line. -/
def lines : Bytes → List Bytes
  | [] => []
  | b :: bs =>
    if b = lineFeed then [] :: lines bs
    else
      match lines bs with
      | [] => [[b]]
      | l :: ls =>  (b :: l) :: ls

def ofJson? (j : Json) : Option Line := do
  match ← fields? ["row", "family", "qualifier", "value", "ts", "kind"] j with
  | [row, family, qualifier, value, ts, kind] =>
    let row ← required? text? row
    let family ← required? text? family
    let qualifier ← default? "" text? qualifier
    let value ← default? none (optional? text?) value
    let timestamp ← required? (nat? Window.lastTimestamp) ts
    let kind ← default? "Put" choice? kind
    let content ← Content.ofKind? kind (Text.Utf8.encode qualifier)
      (Text.Utf8.encode (value.getD ""))
    return ⟨Text.Utf8.encode row, ⟨family, timestamp, content⟩⟩
  | _ => none

def unreadable : Error := (Error.of .io "failed to read table dump").caused

def invalidLine (number : Nat) : Error :=
  (Error.of .usage s!"invalid cell on line {number}").caused

def isBlankLine (s : String) : Bool := s.toList.all Text.isBlank

/-- Reads lines in turn into a store, where `number` counts the lines before. -/
def readFrom (number : Nat) (store : Store) : List Bytes → Except Error Store
  | [] => .ok store
  | bytes :: rest =>
    match Text.Utf8.decode? bytes with
    | none => .error unreadable
    | some s =>
      if isBlankLine s then readFrom (number + 1) store rest
      else
        match (Json.read? s).bind ofJson? with
        | some line => readFrom (number + 1) (store.insert line.row line.cell) rest
        | none => .error (invalidLine (number + 1))

def read (bytes : Bytes) : Except Error Store := readFrom 0 .empty (lines bytes)

end WideRow.Dump
