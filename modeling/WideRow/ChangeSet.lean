import WideRow.Deletion
import WideRow.Source

namespace WideRow

structure GroupDiff where
  puts : SortedMap Address Cell
  markers : SortedMap Address Cell
  deriving DecidableEq

namespace GroupDiff

def hasPuts (g : GroupDiff) : Bool := !g.puts.isEmpty

def hasMarkers (g : GroupDiff) : Bool := !g.markers.isEmpty

def lastMarker (g : GroupDiff) : Nat := (g.markers.values.map (·.timestamp)).foldl max 0

end GroupDiff

inductive Read where
  | nothing
  | backfill (columns : List Address)
  | rescan
  deriving DecidableEq, Repr

structure ChangeSet where
  tombstones : SortedMap String Nat
  /-- Every required family has a tombstone. -/
  allTombstoned : Bool
  groups : SortedMap String GroupDiff
  deletions : List Deletion
  /-- The changes alone do not tell what is left of the row. -/
  mustRescan : Bool
  /-- Columns that changed groups need and that did not change themselves. -/
  backfill : List Address
  unrecognized : SortedSet Address
  unsplit : SortedSet String
  deriving DecidableEq

inductive Placement where
  | unrecognized
  /-- The id of the group does not split as the layout says. -/
  | unsplit (group : String)
  | inGroup (group : String)
  deriving DecidableEq, Repr

namespace Placement

def group? : Placement → Option String
  | inGroup g => some g
  | _ => none

def unsplit? : Placement → Option String
  | unsplit g => some g
  | _ => none

end Placement

namespace Schema

/-- Whether the id of a dynamic group has the components of the layout. -/
def splits (schema : Schema) (group : String) : Bool :=
  schema.layout?.any fun layout => (layout.split? group).isSome

def place (schema : Schema) (a : Address) : Placement :=
  match schema.reading? a with
  | none => .unrecognized
  | some reading =>
    let group := reading.group
    if group = noGroup || schema.splits group then .inGroup group else .unsplit group

end Schema

namespace ChangeSet

/-- The time of a marker of the whole family, unless it is older than the window. -/
def tombstone? (window : Window) (row : RowCells) (family : String) : Option Nat := do
  let marker ← row.familyMarker? family
  if marker.isFamilyMarker && window.min ≤ marker.timestamp then some marker.timestamp else none

def findTombstones (plan : Plan) (window : Window) (row : RowCells) : SortedMap String Nat :=
  .ofList (plan.neededFamilies.filterMap fun family =>
    (tombstone? window row family).map (family, ·))

def latestTime? : List Nat → Option Nat
  | [] => none
  | t :: ts => some (ts.foldl max t)

/-- Markers count also from before the window; nothing counts up to a tombstone of its family. -/
def takesPart (window : Window) (tombstones : SortedMap String Nat) (c : Cell) : Bool :=
  !c.isFamilyMarker && c.timestamp ≤ window.max && (window.min ≤ c.timestamp || !c.isPut) &&
    (tombstones.get? c.family).all (· < c.timestamp)

def inGroups (schema : Schema) (cells : List Cell) : List (String × Cell) :=
  cells.filterMap fun c => (schema.place c.address).group?.map (·, c)

def unrecognizedOf (schema : Schema) (cells : List Cell) : SortedSet Address :=
  .ofList ((cells.map (·.address)).filter fun a => schema.place a == .unrecognized)

def unsplitOf (schema : Schema) (cells : List Cell) : SortedSet String :=
  .ofList (cells.filterMap fun c => (schema.place c.address).unsplit?)

def cellsOf (group : String) (cells : List (String × Cell)) : List Cell :=
  (cells.filter (·.1 == group)).map (·.2)

/-- Whether a marker of a column deletes a value of that column. -/
def cancels (marker put : Cell) : Bool :=
  marker.address == put.address &&
    match marker.content with
    | .deleteColumn _ => put.timestamp ≤ marker.timestamp
    | .delete _ => marker.timestamp == put.timestamp
    | _ => false

/-- Puts that a marker deletes do not count; markers of every group are looked at. -/
def gather (cells : List (String × Cell)) : SortedMap String GroupDiff :=
  let markers := cells.filter (!·.2.isPut)
  let puts := cells.filter fun p => p.2.isPut && !markers.any fun m => cancels m.2 p.2
  (SortedSet.ofList ((markers ++ puts).map (·.1))).mapValues fun group _ =>
    ⟨Cell.latestByColumn (cellsOf group puts), Cell.latestByColumn (cellsOf group markers)⟩

/-- Groups with markers; the static row counts only when no other group has one. -/
def deletionsOf (groups : SortedMap String GroupDiff) : List Deletion :=
  let marked := groups.entries.filter (·.2.hasMarkers)
  let dynamic := marked.filter (·.1 != noGroup)
  (if dynamic.isEmpty then marked else dynamic).map fun (group, changes) =>
    ⟨.group group, changes.lastMarker⟩

def putsOf (groups : SortedMap String GroupDiff) (group : String) : SortedMap Address Cell :=
  (groups.get? group).elim .empty (·.puts)

def columnsToRead (plan : Plan) (groups : SortedMap String GroupDiff) : List Address :=
  let statics := plan.neededStatics.map (·.address)
  let ofGroup (group : String) : List Address :=
    let columns := plan.neededDynamics.map (·.addressOf group)
    columns.filter fun a => !(putsOf groups group).contains a
  (SortedSet.ofList (
    (statics.filter fun a => !(putsOf groups noGroup).contains a) ++
      (groups.keys.filter (· != noGroup)).flatMap ofGroup)).members

def partlyDeleted (tombstones : SortedMap String Nat) (deletion : Deletion) : ChangeSet where
  tombstones := tombstones
  allTombstoned := false
  groups := .empty
  deletions := [deletion]
  mustRescan := true
  backfill := []
  unrecognized := .empty
  unsplit := .empty

/-- Cells at or below no tombstone, by group; a changed static row that the output does not show
makes the whole row be read. -/
def ofCells (plan : Plan) (tombstones : SortedMap String Nat) (allTombstoned : Bool)
    (deletion : Option Deletion) (cells : List Cell) : ChangeSet :=
  let groups := gather (inGroups plan.schema cells)
  let mustRescan := plan.readsHiddenStatic && groups.contains noGroup
  { tombstones := tombstones
    allTombstoned
    groups
    deletions := deletion.elim (deletionsOf groups) ([·])
    mustRescan
    backfill := if mustRescan || groups.isEmpty then [] else columnsToRead plan groups
    unrecognized := unrecognizedOf plan.schema cells
    unsplit := unsplitOf plan.schema cells }

def isBlank (c : ChangeSet) : Bool :=
  c.groups.isEmpty && c.deletions.isEmpty && c.unrecognized.isEmpty && c.unsplit.isEmpty

def ofRow (plan : Plan) (window : Window) (row : RowCells) : Outcome ChangeSet :=
  let found := findTombstones plan window row
  let all := !found.isEmpty && found.size == plan.neededFamilies.length
  let deletion := (latestTime? found.values).map (Deletion.mk .key)
  match deletion, all with
  | some d, false => .ready (partlyDeleted found d)
  | _, _ =>
    let changes := ofCells plan found all deletion (row.cells.filter (takesPart window found))
    if changes.isBlank then .skip .unchanged else .ready changes

variable (c : ChangeSet)

def isEmpty : Bool := c.groups.isEmpty && c.deletions.isEmpty && !c.mustRescan

def read : Read :=
  if c.mustRescan then .rescan
  else if c.backfill.isEmpty then .nothing
  else .backfill c.backfill

def request? (plan : Plan) : Option (List ReadTarget) :=
  match c.read with
  | .nothing => none
  | .backfill columns => some (columns.map .column)
  | .rescan => some (plan.neededFamilies.map .family)

def putCells : List Cell := c.groups.values.flatMap (·.puts.values)

/-- New values take the place of those read for the same column. -/
def merge (found : List Cell) : List Cell :=
  (SortedMap.ofList ((found.filter (·.isPut) ++ c.putCells).map fun p => (p.address, p))).values

/-- The latest cells of the row, from the changes and what was read. -/
def conclude (found : Option RowCells) : Outcome (List Cell) :=
  match c.read with
  | .rescan =>
    match found with
    | some row => .ready (row.cells.filter (·.isPut))
    | none => .skip .vanished
  | _ => .ready (c.merge (found.elim [] (·.cells)))

/-- Reads what the changes leave open, once or not at all. -/
def complete {ρ : Type} (source : Source ρ) (plan : Plan) (window : Window) (key : Bytes) :
    Action ρ (Outcome (List Cell)) :=
  match c.request? plan with
  | none => pure (c.conclude none)
  | some targets => do
    let found ← EStateM.adaptExcept (·.atRow key) (source.scan key targets window.toEnd)
    return c.conclude found

end ChangeSet

end WideRow
