import Mathlib.Algebra.Group.Defs
import WideRow.Action

namespace WideRow

namespace Action

variable {σ α β M : Type} [AddMonoid M] {inUse : σ → Prop} {seen : σ → M} {x : α} {m : M}
  {e : Error}

/-- From all states in use the step adds the same and answers the same, or fails with the same
error. -/
def Adds (inUse : σ → Prop) (seen : σ → M) (a : Action σ α) (r : Except Error (α × M)) : Prop :=
  ∀ s, inUse s → match r with
    | .ok (x, m) => ∃ s', a s = .ok x s' ∧ inUse s' ∧ seen s' = seen s + m
    | .error e => ∃ s', a s = .error e s'

theorem adds_pure (x : α) : Adds inUse seen (pure x) (.ok (x, 0)) := fun s hs =>
  ⟨s, rfl, hs, (add_zero _).symm⟩

theorem Adds.bind_map {a : Action σ α} {f : α → Action σ β} {r : Except Error (β × M)}
    (ha : Adds inUse seen a (.ok (x, m))) (hf : Adds inUse seen (f x) r) :
    Adds inUse seen (a >>= f) (r.map fun p => (p.1, m + p.2)) := by
  intro s hs
  obtain ⟨s₁, hrun, hs₁, hseen⟩ := ha s hs
  have hf := hf s₁ hs₁
  simp only [Bind.bind, EStateM.bind, hrun]
  cases r with
  | error e => exact hf
  | ok p =>
      obtain ⟨s', hrest, hs', hseen'⟩ := hf
      exact ⟨s', hrest, hs', by rw [hseen', hseen, add_assoc]⟩

theorem Adds.bind {a : Action σ α} {f : α → Action σ β} {y : β} {n : M}
    (ha : Adds inUse seen a (.ok (x, m))) (hf : Adds inUse seen (f x) (.ok (y, n))) :
    Adds inUse seen (a >>= f) (.ok (y, m + n)) := ha.bind_map hf

theorem Adds.bind_error {a : Action σ α} (ha : Adds inUse seen a (.error e))
    (f : α → Action σ β) : Adds inUse seen (a >>= f) (.error e) := by
  intro s hs
  obtain ⟨s', hrun⟩ := ha s hs
  exact ⟨s', by simp only [Bind.bind, EStateM.bind, hrun]⟩

/-- What a step adds does not depend on the state in use. -/
def Additive (inUse : σ → Prop) (seen : σ → M) (a : Action σ α) : Prop :=
  ∃ r, Adds inUse seen a r

theorem Additive.bind {a : Action σ α} {f : α → Action σ β} (ha : Additive inUse seen a)
    (hf : ∀ x, Additive inUse seen (f x)) : Additive inUse seen (a >>= f) := by
  obtain ⟨r, ha⟩ := ha
  cases r with
  | error e => exact ⟨_, ha.bind_error f⟩
  | ok p =>
      obtain ⟨r, hf⟩ := hf p.1
      exact ⟨_, ha.bind_map hf⟩

theorem additive_pure (x : α) : Additive inUse seen (pure x) := ⟨_, adds_pure x⟩

theorem additive_ofExcept (r : Except Error α) : Additive inUse seen (MonadExcept.ofExcept r) := by
  cases r with
  | ok x => exact additive_pure x
  | error e => exact ⟨.error e, fun s _ => ⟨s, rfl⟩⟩

end Action

end WideRow
