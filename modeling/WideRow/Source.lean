import WideRow.Action
import WideRow.Store

namespace WideRow

/-- A source answers for one row the latest visible value of every column asked for. -/
structure Source (ρ : Type) where
  scan : Bytes → List ReadTarget → Window → Action ρ (Option RowCells)

namespace Source

/-- A store never fails and never changes by being read. -/
def ofStore (store : Store) : Source Unit :=
  ⟨fun key targets window => pure (store.scan key targets window)⟩

def counted {ρ : Type} (source : Source ρ) : Source (Nat × ρ) :=
  ⟨fun key targets window => do
    modify fun (n, r) => (n + 1, r)
    Action.within (·.2) (fun s r => (s.1, r)) (source.scan key targets window)⟩

end Source

end WideRow
