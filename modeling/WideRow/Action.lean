import WideRow.Error

namespace WideRow

abbrev Action (σ α : Type) := EStateM Error σ α

def Action.within {σ τ α : Type} (part : σ → τ) (replace : σ → τ → σ) (a : Action τ α) :
    Action σ α := fun s =>
  match a (part s) with
  | .ok x t => .ok x (replace s t)
  | .error e t => .error e (replace s t)

end WideRow
