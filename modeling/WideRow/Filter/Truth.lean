import WideRow.Record

namespace WideRow

inductive Truth where
  | yes
  | no
  | unknown
  deriving DecidableEq, Repr

namespace Truth

def all : List Truth := [yes, no, unknown]

def name : Truth → String
  | yes => "True"
  | no => "False"
  | unknown => "Unknown"

def ofBool (b : Bool) : Truth := if b then yes else no

def and : Truth → Truth → Truth
  | no, _ => no
  | _, no => no
  | yes, yes => yes
  | _, _ => unknown

def or : Truth → Truth → Truth
  | yes, _ => yes
  | _, yes => yes
  | no, no => no
  | _, _ => unknown

end Truth

/-- What is known of a row: its key, its static columns too, or all. -/
inductive Stage where
  | rowKey
  | static
  | full
  deriving DecidableEq, Repr

namespace Stage

def resolves : Stage → Origin → Bool
  | rowKey, origin => origin == .rowKey
  | static, origin => origin != .dynamic
  | full, _ => true

def rank : Stage → Nat
  | rowKey => 0
  | static => 1
  | full => 2

end Stage

end WideRow
