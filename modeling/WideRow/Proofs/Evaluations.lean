import WideRow.Proofs.BuiltPlan
import WideRow.Proofs.Conditions

namespace WideRow.Predicate

variable {p : Predicate} {base r r' : Record} {memo : Memo} {steps : List (Stage × Record)}

/-- Records with the same values in all that a condition reads of their key and their static
fields. -/
def SameRow (p : Predicate) (r r' : Record) : Prop :=
  ∀ l ∈ p.leaves, l.origin ≠ .dynamic → l.valueIn r = l.valueIn r'

instance : Decidable (p.SameRow r r') :=
  inferInstanceAs (Decidable (∀ l ∈ p.leaves, l.origin ≠ .dynamic → l.valueIn r = l.valueIn r'))

theorem SameRow.symm (h : p.SameRow r r') : p.SameRow r' r := fun l hl ho => (h l hl ho).symm

def evaluateEach (p : Predicate) : Memo → List (Stage × Record) → List Truth
  | _, [] => []
  | memo, (stage, r) :: steps =>
    (p.evaluateWith memo r stage).1 :: p.evaluateEach (p.evaluateWith memo r stage).2 steps

/-- A step answers as if nothing was remembered, and leaves behind what is right for the whole
row. -/
theorem evaluateWith_of_sameRow (h : Remembers p.leaves base memo) (hr : p.SameRow base r)
    (stage : Stage) :
    (p.evaluateWith memo r stage).1 = p.truth r stage ∧
      Remembers p.leaves base (p.evaluateWith memo r stage).2 := by
  obtain ⟨ht, hmemo⟩ := evaluateWith_eq_truth (h.congr hr) stage
  exact ⟨ht, hmemo.congr hr.symm⟩

theorem evaluateEach_of_sameRow (h : Remembers p.leaves base memo)
    (hsteps : ∀ step ∈ steps, p.SameRow base step.2) :
    p.evaluateEach memo steps = steps.map fun step => p.truth step.2 step.1 := by
  induction steps generalizing memo with
  | nil => rfl
  | cons step steps ih =>
      obtain ⟨stage, r⟩ := step
      obtain ⟨ht, hmemo⟩ := evaluateWith_of_sameRow h (hsteps _ List.mem_cons_self) stage
      rw [evaluateEach, List.map_cons, ht,
        ih hmemo fun step hstep => hsteps step (List.mem_cons_of_mem _ hstep)]

/-- On records of one row, at whatever stages and in whatever order, a shared memory gives each step
the truth that every leaf looked at on its own gives it. -/
theorem evaluateEach_eq_truth (p : Predicate) (steps : List (Stage × Record))
    (h : ∀ a ∈ steps, ∀ b ∈ steps, p.SameRow a.2 b.2) :
    p.evaluateEach .empty steps = steps.map fun step => p.truth step.2 step.1 := by
  cases steps with
  | nil => rfl
  | cons first steps =>
      exact evaluateEach_of_sameRow (remembers_empty _ first.2) (h first List.mem_cons_self)

private def status : Record :=
  (Record.ofKey [.key "id" "k" .string]).add (.column "D" "SR1" "Y" .string)

private def line (number value : String) : Record :=
  status.add ((Field.column "D" "RC" value .string).grouped number)

private def visits : List (Stage × Record) :=
  [(.rowKey, status), (.static, status), (.full, line "1" "b"), (.full, line "2" "x"),
    (.static, line "2" "x"), (.full, line "1" "b")]

theorem paid_invoice_evaluated :
    Plan.paid.resolve Plan.invoices.schema = .ok Plan.isPaid ∧
      (∀ a ∈ visits, ∀ b ∈ visits, Plan.isPaid.SameRow a.2 b.2) ∧
      Plan.isPaid.evaluateEach .empty visits =
        visits.map (fun step => Plan.isPaid.truth step.2 step.1) ∧
      Plan.isPaid.evaluateEach .empty visits = [.unknown, .unknown, .yes, .no, .unknown, .yes] := by
  have hrow : ∀ a ∈ visits, ∀ b ∈ visits, Plan.isPaid.SameRow a.2 b.2 := by decide
  exact ⟨Plan.resolve_paid, hrow, evaluateEach_eq_truth Plan.isPaid visits hrow, by decide⟩

end WideRow.Predicate
