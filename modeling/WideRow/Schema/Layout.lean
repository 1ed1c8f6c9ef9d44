import WideRow.Record
import WideRow.Text.Split

namespace WideRow

structure Layout where
  parts : List String
  separator : Option String
  deriving DecidableEq, Repr

namespace Layout

variable (layout : Layout)

/-- A component of this name is read and never put out. -/
def skipped : String := "SKIP"

def separatorText : String := layout.separator.getD ""

def split? (group : String) : Option (List String) :=
  let components := Text.split layout.separatorText group
  if components.length = layout.parts.length then some components else none

def malformed (group : String) : Error :=
  let count := layout.parts.length
  .of .malformedGroup s!"dynamic group `{group}` does not split into {count} components"

def components (group : String) : Except Error (List String) :=
  match layout.split? group with
  | some components => .ok components
  | none => .error (layout.malformed group)

def join (components : List String) : String := Text.join layout.separatorText components

def shownNames : List String := layout.parts.filter (· != skipped)

def keyFields (group : String) (components : List String) : List Field :=
  ((layout.parts.zip components).filter (·.1 != skipped)).map fun (name, value) =>
    (Field.key name value .string).grouped group

end Layout

end WideRow
