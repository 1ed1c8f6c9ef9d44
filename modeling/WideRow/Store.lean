import WideRow.Cell
import WideRow.Json.Reader
import WideRow.Text.Blank
import WideRow.Window

namespace WideRow

inductive ReadTarget where
  | family (name : String)
  | column (address : Address)
  deriving DecidableEq, Repr

def ReadTarget.covers (f : ReadTarget) (a : Address) : Bool :=
  match f with
  | family name => name == a.family
  | column address => address == a

/-- Whether a read asks for the column; one that names nothing asks for all. -/
def asksFor (targets : List ReadTarget) (a : Address) : Bool :=
  targets.isEmpty || targets.any (·.covers a)

/-- A put in the window that no marker up to its end deletes. -/
def isVisible (cells : List Cell) (window : Window) (c : Cell) : Bool :=
  c.isPut && window.contains c.timestamp &&
    !cells.any fun m => m.timestamp ≤ window.max && m.hides c

def visible (cells : List Cell) (window : Window) (targets : List ReadTarget) : List Cell :=
  (Cell.latestByColumn
    (cells.filter fun c => asksFor targets c.address && isVisible cells window c)).values

structure Store where
  rows : SortedMap Bytes (List Cell)

namespace Store

def empty : Store := ⟨.empty⟩

def insert (s : Store) (key : Bytes) (c : Cell) : Store :=
  ⟨s.rows.update key fun cells => cells.getD [] ++ [c]⟩

def insertAll (s : Store) (key : Bytes) (cells : List Cell) : Store :=
  cells.foldl (fun s c => s.insert key c) s

def cellsAt (s : Store) (key : Bytes) : List Cell := (s.rows.get? key).getD []

def row? (key : Bytes) (cells : List Cell) : Option RowCells :=
  if cells.isEmpty then none else some ⟨key, cells⟩

variable (s : Store)

def changes (window : Window) : List RowCells :=
  s.rows.entries.filterMap fun (key, cells) =>
    row? key (cells.filter fun c => window.contains c.timestamp)

def latest (window : Window) : List RowCells :=
  s.rows.entries.filterMap fun (key, cells) => row? key (visible cells window [])

def scan (key : Bytes) (targets : List ReadTarget) (window : Window) : Option RowCells :=
  row? key (visible (s.cellsAt key) window targets)

end Store

end WideRow
