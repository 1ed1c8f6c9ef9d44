import WideRow.Worker
import WideRow.Proofs.RowRecords

namespace WideRow

namespace RowOutput

variable {plan : Plan} {fields : List Field} {cells : List Cell} {r : Record} {g : String}
  {records : List Record}

theorem error_offerAll_of_no_documents (h : plan.documents = []) (cs : List Candidate) :
    (offerAll plan cs).2 = none := by
  induction cs with
  | nil => rfl
  | cons c cs ih =>
      have ho : ∃ records, offer plan c = .ok records := by
        cases c with
        | error g => exact ⟨[], rfl⟩
        | ok a =>
            rw [offer]
            split
            next => exact ⟨_, by rw [spread, h]; rfl⟩
            next => exact ⟨[], rfl⟩
      obtain ⟨records, ho⟩ := ho
      rw [offerAll_cons_of_ok ho]
      exact ih

/-- A row that is not passed over for a malformed document has the records of each candidate. -/
theorem settled_of_offer (hplan : plan.Sound) {c : Candidate}
    (hc : c ∈ candidates plan.schema (RowFields.ofCells plan.schema fields cells))
    (ho : offer plan c = .ok records) (hr : r ∈ records) :
    r ∈ recordsOf (settled plan fields cells) ∨
      settled plan fields cells = .skip .malformedDocument ∧ plan.documents ≠ [] := by
  have hmem (hno : (offered plan fields cells).2 = none) : r ∈ (offered plan fields cells).1 :=
    mem_of_mem_offer hno hc ho hr
  rw [settled]
  rcases ofFields_eq hplan fields cells with ⟨_, hoff⟩ | ⟨out, hready, hoff⟩
  · have hr := hmem (by rw [hoff])
    rw [hoff] at hr
    cases hr
  · rw [hready]
    rw [← hoff] at hmem
    cases he : out.error with
    | none => exact .inl (by simpa [he, recordsOf] using hmem he)
    | some e =>
        refine .inr ⟨by simp [he], fun hdocuments => ?_⟩
        have hno : (offered plan fields cells).2 = none :=
          error_offerAll_of_no_documents hdocuments _
        rw [← hoff, he] at hno
        cases hno

theorem accepted_of_offer {c : Candidate} (ho : offer plan c = .ok records) (hr : r ∈ records) :
    Accepted plan c := by
  refine Classical.byContradiction fun h => ?_
  rw [offer_of_not_accepted h] at ho
  cases ho
  cases hr

end RowOutput

namespace Worker

open RowOutput

end Worker

end WideRow
