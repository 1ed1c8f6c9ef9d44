import WideRow.Proofs.Turns

namespace WideRow

namespace Predicate

/-- What a condition finds at a stage it finds at every later one, of any record with the same
values in all that the stage sees. So a row that is dropped by its key, or by its static fields, has
no record with more fields that meets the condition. -/
theorem evaluate_of_earlier {schema : Schema} {condition : Condition} {p : Predicate}
    (hp : condition.resolve schema = .ok p) :
    (∀ s t : Stage, s.rank ≤ t.rank → ∀ r r' : Record,
      (∀ l ∈ p.leaves, s.resolves l.origin → l.valueIn r = l.valueIn r') →
        p.evaluate r s ≠ .unknown → p.evaluate r' t = p.evaluate r s) ∧
    ∀ plan : Plan, plan.schema = schema → plan.predicate = some p →
      (∀ rowKey, Worker.screen plan rowKey = .skip .rejectedByKey →
        ∃ key, schema.rowKey.parse rowKey = .ready key ∧
          ∀ r, Record.Extends schema .rowKey (.ofKey key) r → p.evaluate r .full = .no) ∧
      ∀ row, RowOutput.ofFields plan row = .skip .rejectedByStatics →
        ∀ r, Record.Extends schema .static row.base r → p.evaluate r .full = .no := by
  have hearlier (s t : Stage) (hst : s.rank ≤ t.rank) (r r' : Record)
      (hr : ∀ l ∈ p.leaves, s.resolves l.origin → l.valueIn r = l.valueIn r')
      (hknown : p.evaluate r s ≠ .unknown) : p.evaluate r' t = p.evaluate r s := by
    simp only [evaluate_eq_truth] at hknown ⊢
    exact truth_of_earlier hst hr hknown
  have hdropped (s : Stage) (r r' : Record) (hno : p.evaluate r s = .no)
      (h : Record.Extends schema s r r') : p.evaluate r' .full = .no := by
    rw [← hno]
    refine hearlier s .full s.rank_le_full r r' (fun l hl hs => ?_) (by simp [hno])
    exact h.valueIn (Condition.resolved_of_resolve hp l hl) hs
  refine ⟨hearlier, ?_⟩
  rintro plan rfl hpredicate
  refine ⟨fun rowKey hskip => ?_, fun row hskip r h => ?_⟩
  · rw [Worker.screen] at hskip
    split at hskip
    next reason hparse =>
      cases Worker.reason_of_parse hparse
      cases hskip
    next key hparse =>
      simp only [hpredicate] at hskip
      split at hskip
      next hno => exact ⟨key, hparse, fun r h => hdropped .rowKey _ r hno h⟩
      next => cases hskip
  · simp only [RowOutput.ofFields, RowOutput.truthOf, hpredicate] at hskip
    split at hskip
    next heq => exact hdropped .static _ r (congrArg Prod.fst heq) h
    next => cases hskip

private def lateLine : Field := (Field.column "D" "RC" "b" .string).grouped "1"

private def unpaid : RowFields :=
  ⟨[.key "id" "k" .string], [.column "D" "SR1" "N" .string], .ofList [("1", [lateLine])], .empty⟩

private theorem unpaid_extends :
    Record.Extends Plan.invoices.schema .static unpaid.base (unpaid.base.addAll [lateLine]) := by
  refine .addAll fun f hf origin type hresolve => ?_
  cases List.mem_singleton.1 hf
  cases hresolve
  rfl

theorem unpaid_invoice_rejected :
    Plan.paid.resolve Plan.invoices.schema = .ok Plan.isPaid ∧
      Plan.isPaid.evaluate unpaid.base .static = .no ∧
      Plan.isPaid.evaluate (unpaid.base.addAll [lateLine]) .full =
        Plan.isPaid.evaluate unpaid.base .static ∧
      Worker.screen .paidInvoices [106] = .skip .rejectedByKey ∧
      (∃ key, Plan.invoices.schema.rowKey.parse [106] = .ready key ∧
        ∀ r, Record.Extends Plan.invoices.schema .rowKey (.ofKey key) r →
          Plan.isPaid.evaluate r .full = .no) ∧
      RowOutput.ofFields .paidInvoices unpaid = .skip .rejectedByStatics ∧
      Plan.isPaid.evaluate (unpaid.base.addAll [lateLine]) .full = .no := by
  obtain ⟨hearlier, hdropped⟩ := evaluate_of_earlier Plan.resolve_paid
  obtain ⟨hkey, hstatics⟩ := hdropped .paidInvoices rfl rfl
  refine ⟨Plan.resolve_paid, by decide, ?_, by decide, hkey [106] (by decide), rfl, ?_⟩
  · exact hearlier .static .full (by decide) _ _ (by decide) (by decide)
  · exact hstatics unpaid rfl _ unpaid_extends

end Predicate

end WideRow
