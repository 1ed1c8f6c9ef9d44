import WideRow.Plan

namespace WideRow

inductive Reach where
  | key
  | group (id : String)
  deriving DecidableEq, Repr

structure Deletion where
  reach : Reach
  timestamp : Nat
  deriving DecidableEq, Repr

structure DeleteOrder where
  rowKey : Bytes
  key : List Field
  reach : Reach
  keyTail : List Field
  timestamp : Nat
  deriving DecidableEq, Repr

namespace Reach

def name : Reach → String
  | key => "key"
  | group _ => "group"

def groupJson : Reach → Json
  | key => .null
  | group id => .text id

end Reach

namespace DeleteOrder

def json (d : DeleteOrder) : Json :=
  Json.members [("delete", Json.members [
    ("scope", .text d.reach.name),
    ("row", .text (Text.Utf8.decodeLossy d.rowKey)),
    ("key", Record.keyJson (d.key ++ d.keyTail)),
    ("group", d.reach.groupJson),
    ("ts", .nat d.timestamp)])]

end DeleteOrder

namespace Deletion

/-- The static row has no key fields beyond those of its key. -/
def keyTail (schema : Schema) : Reach → Except Error (List Field)
  | .key => .ok []
  | .group id =>
    match schema.layout? with
    | some layout =>
      if id = noGroup then .ok [] else (layout.components id).map (layout.keyFields id)
    | none => .ok []

def row (schema : Schema) (rowKey : Bytes) (key : List Field) (d : Deletion) :
    Except Error DeleteOrder :=
  match keyTail schema d.reach with
  | .ok keyTail => .ok ⟨rowKey, key, d.reach, keyTail, d.timestamp⟩
  | .error e => .error (e.atRow rowKey)

end Deletion

end WideRow
