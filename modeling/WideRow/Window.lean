import WideRow.Error

namespace WideRow

structure Window where
  min : Nat
  max : Nat
  deriving DecidableEq, Repr

namespace Window

def lastTimestamp : Nat := 0xFFFFFFFFFFFFFFFF

def inverted (min max : Nat) : Error := .of .usage s!"time window is inverted ({min} > {max})"

def make (min max : Nat) : Except Error Window :=
  if max < min then .error (inverted min max) else .ok ⟨min, max⟩

def full : Window := ⟨0, lastTimestamp⟩

def toEnd (w : Window) : Window := ⟨0, w.max⟩

def contains (w : Window) (timestamp : Nat) : Bool := w.min ≤ timestamp && timestamp ≤ w.max

end Window

end WideRow
