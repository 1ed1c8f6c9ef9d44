import WideRow.Schema.Basic

namespace WideRow.Schema

inductive Fault where
  | staticUnnamed
  | duplicateQualifier (family : String) (qualifier : Bytes)
  | duplicateName (family name : String)
  | dynamicUnnamed
  | leadAndTrail (family name : String)
  | noParts (name : String)
  | noSeparator (name : String) (parts : Nat)
  | otherLayout (family name : String)
  | secondOpen (family : String)
  | hidesKeyField (part : String)
  deriving DecidableEq, Repr

namespace Fault

def message : Fault → String
  | staticUnnamed => "static column needs a family and a name"
  | duplicateQualifier _ qualifier =>
    let text := Text.Utf8.decodeLossy qualifier
    s!"duplicate static qualifier `{text}`"
  | duplicateName _ name => s!"duplicate column name `{name}`"
  | dynamicUnnamed => "dynamic column needs a family and a name"
  | leadAndTrail _ name => s!"dynamic column `{name}` may set a prefix or a suffix, not both"
  | noParts name => s!"dynamic column `{name}` names no dynamic-part components"
  | noSeparator name parts => s!"dynamic column `{name}` has {parts} components but no separator"
  | otherLayout _ name => s!"dynamic column `{name}` uses a different dynamic-part layout"
  | secondOpen _ => "only one dynamic column per family may omit prefix and suffix"
  | hidesKeyField part => s!"dynamic-part component `{part}` collides with a row-key field"

def family? : Fault → Option String
  | duplicateQualifier family _ | duplicateName family _ | leadAndTrail family _
  | otherLayout family _ | secondOpen family => some family
  | _ => none

def error (f : Fault) : Error := { Error.validation f.message with family := f.family? }

end Fault

def staticFault? (before : List StaticColumn) (c : StaticColumn) : Option Fault :=
  if c.family.isEmpty ∨ c.name.isEmpty then some .staticUnnamed
  else if before.any (·.address == c.address) then
    some (.duplicateQualifier c.family c.qualifier)
  else if before.any (·.columnName == c.columnName) then some (.duplicateName c.family c.name)
  else none

def staticsFault? (before : List StaticColumn) : List StaticColumn → Option Fault
  | [] => none
  | c :: cs =>
    match staticFault? before c with
    | some f => some f
    | none => staticsFault? (before ++ [c]) cs

def ownFault? (d : DynamicColumn) : Option Fault :=
  if d.family.isEmpty ∨ d.name.isEmpty then some .dynamicUnnamed
  else if !d.lead.isEmpty ∧ !d.trail.isEmpty then some (.leadAndTrail d.family d.name)
  else if d.layout.parts.isEmpty then some (.noParts d.name)
  else if 1 < d.layout.parts.length ∧ d.layout.separatorText.isEmpty then
    some (.noSeparator d.name d.layout.parts.length)
  else none

def dynamicFault? (statics : List StaticColumn) (before : List DynamicColumn)
    (d : DynamicColumn) : Option Fault :=
  match ownFault? d with
  | some f => some f
  | none =>
    if before.any (·.layout != d.layout) then some (.otherLayout d.family d.name)
    else if statics.any (·.columnName == d.columnName) ∨ before.any (·.columnName == d.columnName)
    then some (.duplicateName d.family d.name)
    else if d.isOpen ∧ before.any (fun e => e.family == d.family && e.isOpen) then
      some (.secondOpen d.family)
    else none

def dynamicsFault? (statics : List StaticColumn) (before : List DynamicColumn) :
    List DynamicColumn → Option Fault
  | [] => none
  | d :: ds =>
    match dynamicFault? statics before d with
    | some f => some f
    | none => dynamicsFault? statics (before ++ [d]) ds

/-- A component that is put out may not hide a field of the row key. -/
def layoutFault? (rowKey : RowKey.Spec) (layout : Layout) : Option Fault :=
  (layout.shownNames.find? fun name => (rowKey.component? name).isSome).map .hidesKeyField

def fault? (schema : Schema) : Option Fault :=
  match staticsFault? [] schema.statics with
  | some f => some f
  | none =>
    match dynamicsFault? schema.statics [] schema.dynamics with
    | some f => some f
    | none => schema.layout?.bind (layoutFault? schema.rowKey)

def make (rowKey : RowKey.Spec) (statics : List StaticColumn) (dynamics : List DynamicColumn) :
    Except Fault Schema :=
  let schema : Schema := ⟨rowKey, statics, dynamics⟩
  match schema.fault? with
  | some f => .error f
  | none => .ok schema

end WideRow.Schema
