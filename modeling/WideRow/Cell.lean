import WideRow.Column

namespace WideRow

/-- What a cell says of its column, or of its family where it names no column. -/
inductive Content where
  | put (qualifier value : Bytes)
  /-- Deletes the value of exactly its time. -/
  | delete (qualifier : Bytes)
  /-- Deletes values up to its time. -/
  | deleteColumn (qualifier : Bytes)
  /-- Deletes values of the whole family up to its time. -/
  | deleteFamily
  /-- Deletes values of the whole family of exactly its time. -/
  | deleteFamilyVersion
  deriving DecidableEq, Repr

namespace Content

def kindName : Content → String
  | put _ _ => "Put"
  | delete _ => "Delete"
  | deleteColumn _ => "DeleteColumn"
  | deleteFamily => "DeleteFamily"
  | deleteFamilyVersion => "DeleteFamilyVersion"

/-- Content of a kind. Markers have no value, and markers of a family no qualifier either. -/
def ofKind? (kind : String) (qualifier value : Bytes) : Option Content :=
  match kind with
  | "Put" => some (put qualifier value)
  | "Delete" => some (delete qualifier)
  | "DeleteColumn" => some (deleteColumn qualifier)
  | "DeleteFamily" => some deleteFamily
  | "DeleteFamilyVersion" => some deleteFamilyVersion
  | _ => none

/-- A marker of a family stands at the empty qualifier. -/
def qualifier : Content → Bytes
  | put q _ => q
  | delete q => q
  | deleteColumn q => q
  | deleteFamily => []
  | deleteFamilyVersion => []

def value? : Content → Option Bytes
  | put _ v => some v
  | _ => none

def isPut : Content → Bool
  | put _ _ => true
  | _ => false

def isFamilyMarker : Content → Bool
  | deleteFamily => true
  | deleteFamilyVersion => true
  | _ => false

def rank : Content → Nat
  | put _ _ => 0
  | delete _ => 1
  | deleteColumn _ => 2
  | deleteFamilyVersion => 3
  | deleteFamily => 4

end Content

structure Cell where
  family : String
  timestamp : Nat
  content : Content
  deriving DecidableEq, Repr

namespace Cell

def qualifier (c : Cell) : Bytes := c.content.qualifier

def address (c : Cell) : Address := ⟨c.family, c.qualifier⟩

def value? (c : Cell) : Option Bytes := c.content.value?

def isPut (c : Cell) : Bool := c.content.isPut

def isFamilyMarker (c : Cell) : Bool := c.content.isFamilyMarker

/-- By time, then by kind, then by value. -/
def order : Cell → Cell → Ordering :=
  compareLex (compareOn timestamp)
    (compareLex (compareOn (·.content.rank)) (compareOn fun c => c.value?.getD []))

def outranks (a b : Cell) : Bool := order a b == .gt

def later (a b : Cell) : Cell := if b.outranks a then b else a

def latest? : List Cell → Option Cell
  | [] => none
  | c :: cs => some (cs.foldl later c)

def addLatest (m : SortedMap Address Cell) (c : Cell) : SortedMap Address Cell :=
  m.update c.address (·.elim c (later · c))

def latestByColumn (cells : List Cell) : SortedMap Address Cell := cells.foldl addLatest .empty

def hides (marker put : Cell) : Bool :=
  marker.family == put.family &&
    match marker.content with
    | .put _ _ => false
    | .delete q => q == put.qualifier && marker.timestamp == put.timestamp
    | .deleteColumn q => q == put.qualifier && put.timestamp ≤ marker.timestamp
    | .deleteFamily => put.timestamp ≤ marker.timestamp
    | .deleteFamilyVersion => marker.timestamp == put.timestamp

end Cell

structure RowCells where
  key : Bytes
  cells : List Cell
  deriving DecidableEq, Repr

namespace RowCells

/-- The latest cell at the empty qualifier, where markers of a family stand. -/
def familyMarker? (row : RowCells) (family : String) : Option Cell :=
  Cell.latest? (row.cells.filter (·.address == ⟨family, []⟩))

end RowCells

end WideRow
