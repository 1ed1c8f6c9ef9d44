import WideRow.Column
import WideRow.Text.Split

namespace WideRow

def startsWith (front s : String) : Bool := front.toList.isPrefixOf s.toList

structure DocumentColumn where
  family : String
  name : String
  paths : SortedSet String

namespace DocumentColumn

def pathMark : String := ">"

def pathText (path : List String) : String := Text.join pathMark path

variable (d : DocumentColumn)

def columnName : ColumnName := ⟨d.family, d.name⟩

def allows (path : String) : Bool := d.paths.contains path

/-- Looks only at the first authorized path that does not come before those below `path`. -/
def opensBelow (path : String) : Bool :=
  (d.paths.members.find? fun p => compare (path ++ pathMark) p != .gt).any
    (startsWith (path ++ pathMark))

def hasEmptySegment : Bool :=
  d.paths.members.any fun path => (Text.split pathMark path).any (·.isEmpty)

end DocumentColumn

end WideRow
