import WideRow.Proofs.RowRecords

namespace WideRow

def Plan.keeps (plan : Plan) (r : Record) : Bool :=
  plan.truth r .full = .yes && plan.hasOutput r

namespace RowOutput

/-- A row without groups stands for itself, else each of its groups does whose id splits. -/
def plainCandidates (schema : Schema) (row : RowFields) : List Record :=
  if row.groups.isEmpty then [row.base]
  else row.groups.entries.filterMap fun (group, fields) => do
    let layout ← schema.layout?
    let components ← layout.split? group
    return (row.base.addAll fields).extendKey (layout.keyFields group components)

def kept (plan : Plan) (row : RowFields) : List Record :=
  (plainCandidates plan.schema row).filter plan.keeps

def spreadAll (plan : Plan) : List Record → List Record × Option Error
  | [] => ([], none)
  | r :: rs =>
    match spread plan r with
    | .error e => ([], some e)
    | .ok records => (records ++ (spreadAll plan rs).1, (spreadAll plan rs).2)

/-- Candidates that are not kept, and groups that make none, leave no trace in what is offered. -/
theorem offerAll_eq_spreadAll (plan : Plan) (cs : List Candidate) :
    offerAll plan cs = spreadAll plan ((cs.filterMap Except.toOption).filter plan.keeps) := by
  induction cs with
  | nil => rfl
  | cons c cs ih =>
      cases c with
      | error g =>
          rw [offerAll_cons_of_ok rfl, ih]
          rfl
      | ok r =>
          have hrecords : ((.ok r :: cs : List Candidate).filterMap Except.toOption) =
              r :: cs.filterMap Except.toOption := rfl
          rw [hrecords, offerAll, offer, ih, ← Plan.keeps]
          cases hr : plan.keeps r with
          | false =>
              rw [List.filter_cons_of_neg (by simp [hr])]
              rfl
          | true =>
              rw [List.filter_cons_of_pos hr, spreadAll]
              cases spread plan r <;> rfl

private def lines (status : String) : List Cell :=
  [⟨"D", 10, .put (Text.Utf8.encode "SR1") (Text.Utf8.encode status)⟩,
    ⟨"D", 20, .put (Text.Utf8.encode "RC3") (Text.Utf8.encode "c")⟩,
    ⟨"D", 20, .put (Text.Utf8.encode "RC2") (Text.Utf8.encode "x")⟩,
    ⟨"D", 20, .put (Text.Utf8.encode "RC1") (Text.Utf8.encode "b")⟩]

end RowOutput

end WideRow
