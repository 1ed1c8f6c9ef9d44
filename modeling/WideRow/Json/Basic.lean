import WideRow.Binary64.Shortest
import WideRow.SortedMap

namespace WideRow

inductive Json where
  | null
  | bool (b : Bool)
  | integer (n : Int)
  | real (x : Binary64)
  | text (s : String)
  | array (items : List Json)
  /-- The members in their order of appearance; a name may appear more than once. -/
  | object (members : List (String × Json))
  /-- Well-formed text without a value: a number out of range, half of a surrogate pair. -/
  | unreadable
  deriving Inhabited

namespace Json

mutual

def depth : Json → Nat
  | array items => depthItems items + 1
  | object members => depthMembers members + 1
  | _ => 0

def depthItems : List Json → Nat
  | [] => 0
  | j :: js => max j.depth (depthItems js)

def depthMembers : List (String × Json) → Nat
  | [] => 0
  | (_, j) :: ms => max j.depth (depthMembers ms)

end

mutual

def readable : Json → Bool
  | array items => readableItems items
  | object members => readableMembers members
  | unreadable => false
  | _ => true

def readableItems : List Json → Bool
  | [] => true
  | j :: js => j.readable && readableItems js

def readableMembers : List (String × Json) → Bool
  | [] => true
  | (_, j) :: ms => j.readable && readableMembers ms

end

def nestingLimit : Nat := 127

def ofMap (m : SortedMap String Json) : Json := object m.entries

/-- An object with its members in name order; of equal names the last one counts. -/
def members (ms : List (String × Json)) : Json := ofMap (.ofList ms)

def nat (n : Nat) : Json := integer n

def texts (ss : List String) : Json := array (ss.map text)

def ofOption : Option String → Json
  | none => null
  | some s => text s

def text? : Json → Option String
  | text s => some s
  | _ => none

def bool? : Json → Option Bool
  | bool b => some b
  | _ => none

/-- A whole number from zero up to a bound, written without fraction or exponent. -/
def nat? (bound : Nat) : Json → Option Nat
  | integer n => if 0 ≤ n ∧ n ≤ bound then some n.toNat else none
  | _ => none

def list? {α : Type} (read : Json → Option α) : Json → Option (List α)
  | array items => items.mapM read
  | _ => none

def optional? {α : Type} (read : Json → Option α) : Json → Option (Option α)
  | null => some none
  | j => (read j).map some

def choice? : Json → Option String
  | text s => some s
  | object [(s, null)] => some s
  | _ => none

def member? (ms : List (String × Json)) (name : String) : Option (Option Json) :=
  match ms.filter (·.1 == name) with
  | [] => some none
  | [m] => some (some m.2)
  | _ => none

/-- The named members of a record: by name, each at most once and others passed over, or by
position, none too many. -/
def fields? (names : List String) : Json → Option (List (Option Json))
  | object ms => names.mapM (member? ms)
  | array items =>
    if items.length ≤ names.length then
      some (items.map some ++ List.replicate (names.length - items.length) none)
    else none
  | _ => none

def required? {α : Type} (read : Json → Option α) (field : Option Json) : Option α :=
  field.bind read

def default? {α : Type} (d : α) (read : Json → Option α) : Option Json → Option α
  | none => some d
  | some j => read j

end Json

end WideRow
