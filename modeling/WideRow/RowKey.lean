import WideRow.Digest.Sha256
import WideRow.Record
import WideRow.Text.Split

namespace WideRow.RowKey

inductive Role where
  | plain
  | literal (value : String)
  | salt (bits : Nat)
  deriving DecidableEq, Repr

structure Part where
  name : String
  role : Role
  type : FieldType
  deriving DecidableEq, Repr

def Part.isSalt (p : Part) : Bool :=
  match p.role with
  | .salt _ => true
  | _ => false

structure Spec where
  separator : String
  parts : List Part
  deriving DecidableEq, Repr

inductive Fault where
  | duplicate (name : String)
  | saltNotFirst
  | saltWidth (bits : Nat)
  | noComponent
  | noSeparator
  deriving DecidableEq, Repr

def Fault.message : Fault → String
  | duplicate name => s!"duplicate row-key field `{name}`"
  | saltNotFirst => "only the first row-key field may be hashed"
  | saltWidth bits => s!"hash width {bits} must be within 1..=256 bits"
  | noComponent => "row key needs at least one non-hashed field"
  | noSeparator => "multi-component row key needs a separator"

def Fault.error (f : Fault) : Error := .validation f.message

def partFault? (seen : List String) : List Part → Option Fault
  | [] => none
  | p :: ps =>
    if p.name ∈ seen then some (.duplicate p.name)
    else
      match p.role with
      | .salt bits =>
        if !seen.isEmpty then some .saltNotFirst
        else if bits = 0 ∨ 256 < bits then some (.saltWidth bits)
        else partFault? (p.name :: seen) ps
      | _ => partFault? (p.name :: seen) ps

namespace Spec

variable (spec : Spec)

def components : List Part := spec.parts.filter (!·.isSalt)

def fault? : Option Fault :=
  match partFault? [] spec.parts with
  | some f => some f
  | none =>
    if spec.components.isEmpty then some .noComponent
    else if 1 < spec.components.length ∧ spec.separator.isEmpty then some .noSeparator
    else none

def make (separator : String) (parts : List Part) : Except Fault Spec :=
  let spec : Spec := ⟨separator, parts⟩
  match spec.fault? with
  | some f => .error f
  | none => .ok spec

def component? (name : String) : Option Part := spec.components.find? (·.name == name)

def saltWidth : Nat :=
  match spec.parts with
  | p :: _ =>
    match p.role with
    | .salt bits => bits
    | _ => 0
  | [] => 0

def saltLength : Nat := (spec.saltWidth + 7) / 8

/-- Fields of the components, none if a literal differs. -/
def fields? : List Part → List String → Option (List Field)
  | p :: ps, v :: vs =>
    match p.role with
    | .literal expected =>
      if v = expected then (fields? ps vs).map (Field.key p.name v p.type :: ·) else none
    | _ => (fields? ps vs).map (Field.key p.name v p.type :: ·)
  | _, _ => some []

def fieldsOfBody? (body : String) : Option (List Field) :=
  let values := Text.split spec.separator body
  if values.length = spec.components.length then fields? spec.components values else none

def parse? (key : Bytes) : Option (List Field) :=
  if key.length ≤ spec.saltLength then none
  else (Text.Utf8.decode? (key.drop spec.saltLength)).bind spec.fieldsOfBody?

def parse (key : Bytes) : Outcome (List Field) :=
  match spec.parse? key with
  | some fields => .ready fields
  | none => .skip .malformedRowKey

def maskBits (keep : Nat) (b : UInt8) : UInt8 := b &&& (0xFF <<< UInt8.ofNat (8 - keep))

/-- The first salt bits of the digest, filled up with zeros to whole bytes. -/
def salt (body : Bytes) : Bytes :=
  let whole := (Digest.Sha256.digest body).take spec.saltLength
  match whole.reverse with
  | [] => []
  | last :: before =>
    (maskBits (8 - (spec.saltLength * 8 - spec.saltWidth)) last :: before).reverse

def valueFault? (p : Part) (value : String) : Option Error :=
  let separator := spec.separator
  let inside :=
    if Text.holds separator value then
      some (Error.of .malformedRowKey s!"component `{value}` contains the separator `{separator}`")
    else none
  match p.role with
  | .literal expected =>
    let name := p.name
    if value = expected then inside
    else some (.of .malformedRowKey s!"`{name}` must be `{expected}`")
  | _ => inside

def encode (values : List String) : Except Error Bytes :=
  let expected := spec.components.length
  let got := values.length
  if got ≠ expected then
    .error (.of .malformedRowKey s!"expected {expected} row-key components, got {got}")
  else
    match (values.zip spec.components).findSome? fun (v, p) => spec.valueFault? p v with
    | some e => .error e
    | none =>
      let body := Text.Utf8.encode (Text.join spec.separator values)
      .ok (spec.salt body ++ body)

end Spec

end WideRow.RowKey
