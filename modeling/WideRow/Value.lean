import WideRow.Binary64.Reader
import WideRow.Calendar
import WideRow.Error
import WideRow.Text.Blank

namespace WideRow

inductive FieldType where
  | string
  | int
  | long
  | double
  | boolean
  | date
  | timestamp
  | document
  deriving DecidableEq, Repr, Inhabited

namespace FieldType

def name : FieldType → String
  | string => "String"
  | int => "Int"
  | long => "Long"
  | double => "Double"
  | boolean => "Boolean"
  | date => "Date"
  | timestamp => "Timestamp"
  | document => "Document"

def keyword : FieldType → String
  | string => "string"
  | int => "int"
  | long => "long"
  | double => "double"
  | boolean => "boolean"
  | date => "date"
  | timestamp => "timestamp"
  | document => "document"

def all : List FieldType := [string, int, long, double, boolean, date, timestamp, document]

def ofKeyword? (s : String) : Option FieldType := all.find? (·.keyword == s)

def hasOrder : FieldType → Bool
  | int | long | double | date | timestamp => true
  | string | boolean | document => false

end FieldType

inductive Value where
  | text (s : String)
  | integer (n : Int)
  | double (x : Binary64)
  | bool (b : Bool)
  | date (d : Date)
  | instant (t : Instant)
  deriving DecidableEq, Repr

namespace Value

/-- Values of different kinds do not compare. -/
def order? : Value → Value → Option Ordering
  | text a, text b => some (compare a b)
  | integer a, integer b => some (compare a b)
  | double a, double b => some (a.order b)
  | bool a, bool b => some (compare a b)
  | date a, date b => some (a.order b)
  | instant a, instant b => some (a.order b)
  | _, _ => none

end Value

namespace FieldType

def integerWithin? (bits : Nat) (cs : List Char) : Option Value := do
  let n ← Text.integer? cs
  let bound := Nat.pow 2 (bits - 1)
  if -bound ≤ n ∧ n < bound then some (.integer n) else none

def bool? (cs : List Char) : Option Bool :=
  let w := String.ofList (cs.map Char.toLower)
  if w = "true" ∨ w = "y" ∨ w = "1" then some true
  else if w = "false" ∨ w = "n" ∨ w = "0" then some false
  else none

def trimmed? (cs : List Char) : FieldType → Option Value
  | int => integerWithin? 32 cs
  | long => integerWithin? 64 cs
  | double => (Binary64.read? cs).map .double
  | boolean => (bool? cs).map .bool
  | date => (Date.read? cs).map .date
  | timestamp => (Instant.read? cs).map .instant
  | string | document => none

def parse? (t : FieldType) (raw : String) : Option Value :=
  match t with
  | string | document => some (.text raw)
  | t => t.trimmed? (Text.trimChars raw.toList)

def unparsable (t : FieldType) (raw : String) : String :=
  let value := Text.trim raw
  let type := t.name
  s!"value `{value}` is not a valid {type}"

def parse (t : FieldType) (raw : String) : Except Error Value :=
  match t.parse? raw with
  | some v => .ok v
  | none => .error (.validation (t.unparsable raw))

end FieldType

end WideRow
