import WideRow.Text.Utf8

/-!
Text without what a terminal would act on: control characters other than white space, and the
sequences that begin with an escape. A sequence that is broken off by white space or within a
character ends there; of that character only a piece is left.
-/

namespace WideRow.Text.Terminal

inductive Mode where
  | plain
  | escape
  | marked
  | control
  | command
  /-- A string that only another escape ends. -/
  | string
  deriving DecidableEq, Repr

def isSpaceControl (b : UInt8) : Bool := b == 9 || b == 10 || b == 12 || b == 13

def isContinuation (b : UInt8) : Bool := 0x80 ≤ b && b < 0xC0

def isShown (b : UInt8) : Bool := (0x20 ≤ b && b != 0x7F) || isSpaceControl b

/-- White space is acted on in the middle of a sequence, but not within its string. -/
def breaksOff (b : UInt8) : Mode → Bool
  | .plain | .command | .string => false
  | _ => isSpaceControl b

def afterEscape (b : UInt8) : Mode :=
  if b < 0x20 || b == 0x7F || 0x80 ≤ b then .escape
  else if b < 0x30 then .marked
  else if b == 0x5B then .control
  else if b == 0x5D then .command
  else if b == 0x50 || b == 0x58 || b == 0x5E || b == 0x5F then .string
  else .plain

def Mode.after (b : UInt8) (mode : Mode) : Mode :=
  if b == 0x1B then .escape
  else if b == 0x18 || b == 0x1A then .plain
  else
    match mode with
    | .plain => .plain
    | .escape => afterEscape b
    | .marked => if 0x30 ≤ b && b < 0x7F then .plain else .marked
    | .control => if 0x40 ≤ b && b < 0x7F then .plain else .control
    | .command => if b == 7 then .plain else .command
    | .string => .string

def shown (mode : Mode) : Bytes → Bytes
  | [] => []
  | b :: bs =>
    if isContinuation b || breaksOff b mode || (mode == .plain && isShown b) then
      b :: shown .plain bs
    else shown (mode.after b) bs

end Terminal

def withoutControls (s : String) : String :=
  Utf8.decodeLossy (Terminal.shown .plain (Utf8.encode s))

end WideRow.Text
