import WideRow.Text.Utf8

namespace WideRow

inductive Error.Kind where
  | internal
  | usage
  | schema
  | validation
  | malformedRowKey
  | malformedGroup
  | malformedDocument
  | io
  deriving DecidableEq, Repr

namespace Error.Kind

def all : List Error.Kind :=
  [internal, usage, schema, validation, malformedRowKey, malformedGroup, malformedDocument, io]

def name : Error.Kind → String
  | internal => "Internal"
  | usage => "Usage"
  | schema => "Schema"
  | validation => "Validation"
  | malformedRowKey => "MalformedRowKey"
  | malformedGroup => "MalformedGroup"
  | malformedDocument => "MalformedDocument"
  | io => "Io"

def exitCode : Error.Kind → Nat
  | internal => 1
  | usage => 2
  | schema => 3
  | validation => 4
  | malformedRowKey => 5
  | malformedGroup => 6
  | malformedDocument => 7
  | io => 8

end Error.Kind

structure Error where
  kind : Error.Kind
  message : Option String := none
  hint : Option String := none
  rowKey : Option Bytes := none
  family : Option String := none
  qualifier : Option Bytes := none
  /-- How many errors of other parties lie behind this one. -/
  causes : Nat := 0
  deriving DecidableEq, Repr

namespace Error

def of (kind : Error.Kind) (message : String) : Error := { kind, message }

def validation (message : String) : Error := of .validation message

def atRow (e : Error) (key : Bytes) : Error := { e with rowKey := key }

def inFamily (e : Error) (family : String) : Error := { e with family }

def caused (e : Error) : Error := { e with causes := 1 }

def place (e : Error) : String :=
  match e.family, e.qualifier with
  | some family, some qualifier =>
    let column := Text.Utf8.decodeLossy qualifier
    s!" (column: {family}:{column})"
  | some family, none => s!" (family: {family})"
  | none, _ => ""

def display (e : Error) : String :=
  let message := e.message.elim "" (": " ++ ·)
  let row := e.rowKey.elim "" fun key => " (row: " ++ Text.Utf8.decodeLossy key ++ ")"
  e.kind.name ++ message ++ row ++ e.place

end Error

inductive Skip where
  | malformedRowKey
  | rejectedByKey
  | rejectedByStatics
  | unchanged
  | vanished
  | malformedDocument
  deriving DecidableEq, Repr

namespace Skip

def name : Skip → String
  | malformedRowKey => "malformed_row_key"
  | rejectedByKey => "filtered_by_row_key"
  | rejectedByStatics => "filtered_by_static"
  | unchanged => "unchanged"
  | vanished => "row_vanished"
  | malformedDocument => "malformed_document"

def rank : Skip → Nat
  | malformedRowKey => 0
  | rejectedByKey => 1
  | rejectedByStatics => 2
  | unchanged => 3
  | vanished => 4
  | malformedDocument => 5

instance : Ord Skip := ⟨compareOn rank⟩

instance : Std.TransOrd Skip := inferInstanceAs (Std.TransCmp (compareOn rank))

instance : Std.LawfulEqOrd Skip where
  eq_of_compare {a b} h := by revert h; cases a <;> cases b <;> decide

end Skip

inductive Outcome (α : Type) where
  | ready (value : α)
  | skip (reason : Skip)
  deriving DecidableEq, Repr

namespace Outcome

def map {α β : Type} (f : α → β) : Outcome α → Outcome β
  | ready a => ready (f a)
  | skip r => skip r

def reason? {α : Type} : Outcome α → Option Skip
  | ready _ => none
  | skip r => some r

end Outcome

variable {ε ε' α β : Type}

theorem bind_eq_ok {x : Except ε α} {f : α → Except ε β} {b : β} (h : x >>= f = .ok b) :
    ∃ a, x = .ok a ∧ f a = .ok b := by
  cases x with
  | error e => cases h
  | ok a => exact ⟨a, rfl, h⟩

theorem bind_eq_error {x : Except ε α} {f : α → Except ε β} {e : ε} (h : x >>= f = .error e) :
    x = .error e ∨ ∃ a, x = .ok a ∧ f a = .error e := by
  cases x with
  | error e' =>
      cases h
      exact .inl rfl
  | ok a => exact .inr ⟨a, rfl, h⟩

theorem map_eq_ok {x : Except ε α} {f : α → β} {b : β} (h : x.map f = .ok b) :
    ∃ a, x = .ok a ∧ f a = b := by
  cases x with
  | error e => cases h
  | ok a =>
      cases h
      exact ⟨a, rfl, rfl⟩

theorem eq_ok_of_mapError {x : Except ε α} {f : ε → ε'} {a : α} (h : x.mapError f = .ok a) :
    x = .ok a := by
  cases x <;> cases h
  rfl

end WideRow
