import WideRow.Document.Column
import WideRow.Error
import WideRow.Json.Printer
import WideRow.Json.Reader

namespace WideRow

inductive Node where
  | scalar (value : Option String)
  | list (items : List Node)
  /-- Members in ascending order of distinct names. -/
  | branch (members : List (String × Node))
  deriving Inhabited

namespace Node

mutual

/-- Of members with equal names the last one counts. -/
def ofJson : Json → Node
  | .null => scalar none
  | .text s => scalar (some s)
  | .array items => list (ofItems items)
  | .object members => branch (SortedMap.ofList (ofMembers members)).entries
  | j => scalar (some j.print)

def ofItems : List Json → List Node
  | [] => []
  | j :: js => ofJson j :: ofItems js

def ofMembers : List (String × Json) → List (String × Node)
  | [] => []
  | (name, j) :: ms => (name, ofJson j) :: ofMembers ms

end

def isScalar : Node → Bool
  | scalar _ => true
  | _ => false

def isBranch : Node → Bool
  | branch _ => true
  | _ => false

end Node

namespace Document

structure Item where
  name : String
  value : Option String
  deriving DecidableEq, Repr

abbrev Row := List Item

inductive Fault where
  | notJson
  | notObject
  | mixedList (path : String)
  deriving DecidableEq, Repr

def Fault.message : Fault → String
  | notJson => "document is not valid JSON"
  | notObject => "document root is not an object"
  | mixedList path => s!"array `{path}` mixes objects, arrays and scalars"

def Fault.causes : Fault → Nat
  | notJson => 1
  | _ => 0

def Fault.error (d : DocumentColumn) (f : Fault) : Error :=
  { Error.of .malformedDocument (d.name ++ ": " ++ f.message) with
    family := some d.family, causes := f.causes }

def product (left right : List Row) : List Row := left.flatMap fun l => right.map (l ++ ·)

/-- What the members of one object give: fields, rows of objects and rows of lists. -/
structure Yield where
  fields : Row := []
  nested : List (List Row) := []
  listed : List (List Row) := []

namespace Yield

def append (a b : Yield) : Yield :=
  ⟨a.fields ++ b.fields, a.nested ++ b.nested, a.listed ++ b.listed⟩

/-- Objects are combined before lists; a single row without fields is none. -/
def rows (y : Yield) : List Row :=
  let combined := (y.nested ++ y.listed).foldl product [y.fields]
  if combined = [[]] then [] else combined

end Yield

/-- No rows take part in no combination. -/
def present (rows : List Row) : List (List Row) := if rows.isEmpty then [] else [rows]

def flatName (path : List String) : String := Text.join "_" path

def isIncluded (d : DocumentColumn) (path : List String) : Bool :=
  path.length ≤ 1 || d.allows (DocumentColumn.pathText path)

def item (path : List String) (value : Option String) : Item := ⟨flatName path, value⟩

def scalarRows (path : List String) : List Node → List Row
  | [] => []
  | .scalar value :: items => [item path value] :: scalarRows path items
  | _ :: items => scalarRows path items

mutual

/-- What the member at `path` gives. Lists hold objects alone or scalars alone. -/
def memberYield (d : DocumentColumn) (path : List String) : Node → Except Fault Yield
  | .scalar value => .ok { fields := if isIncluded d path then [item path value] else [] }
  | .branch members =>
    if d.opensBelow (DocumentColumn.pathText path) then do
      let y ← yield d path members
      return { nested := present y.rows }
    else .ok {}
  | .list items =>
    if items.all (·.isBranch) then
      if d.opensBelow (DocumentColumn.pathText path) then do
        let rows ← elementRows d path items
        return { listed := present rows }
      else .ok {}
    else if items.all (·.isScalar) then
      .ok { listed := if isIncluded d path then present (scalarRows path items) else [] }
    else .error (.mixedList (DocumentColumn.pathText path))

def yield (d : DocumentColumn) (path : List String) : List (String × Node) → Except Fault Yield
  | [] => .ok {}
  | (name, node) :: members => do
    let y ← memberYield d (path ++ [name]) node
    let z ← yield d path members
    return y.append z

/-- Rows of the objects of a list, one object after another. -/
def elementRows (d : DocumentColumn) (path : List String) : List Node → Except Fault (List Row)
  | [] => .ok []
  | .branch members :: items => do
    let y ← yield d path members
    let rows ← elementRows d path items
    return y.rows ++ rows
  | _ :: items => elementRows d path items

end

def rootRows (d : DocumentColumn) : Node → Except Fault (List Row)
  | .branch members => (yield d [] members).map (·.rows)
  | _ => .error .notObject

def read? (s : String) : Option Node :=
  match Json.read? s with
  | some j => if j.depth ≤ Json.nestingLimit ∧ j.readable then some (.ofJson j) else none
  | none => none

def flatten (d : DocumentColumn) (s : String) : Except Fault (List Row) :=
  match read? s with
  | some node => rootRows d node
  | none => .error .notJson

end Document

end WideRow
