import WideRow.Proofs.Protocol

namespace WideRow

namespace Sink

def Call.record? : Call → Option Record
  | .write r => some r
  | _ => none

def written (calls : List Call) : List Record := calls.filterMap (·.record?)

theorem written_append (calls calls' : List Call) :
    written (calls ++ calls') = written calls ++ written calls' := List.filterMap_append

end Sink

namespace Worker

variable {σ α : Type} {inUse : σ → Prop} {sink : Sink σ}

abbrev Recorded (σ : Type) := State Unit (List Sink.Call × σ)

/-- The step succeeds with such a value, and hands these records to the sink. -/
def Hands (inUse : σ → Prop) (a : Action (Recorded σ) α) (rs : List Record) (Q : α → Prop) :
    Prop :=
  ∀ st, inUse st.sink.2 → ∃ x st', a st = .ok x st' ∧ Q x ∧ inUse st'.sink.2 ∧
    Sink.written st'.sink.1 = Sink.written st.sink.1 ++ rs

variable {w : Worker Unit (List Sink.Call × σ)} {s : Store} {row : RowCells}

/-- All records that the changes of a row lead to, or why it is passed over. -/
def ofChanges (plan : Plan) (window : Window) (s : Store) (key : List Field) (row : RowCells) :
    Outcome (List Record) :=
  match ChangeSet.ofRow plan window row with
  | .skip reason => .skip reason
  | .ready c =>
    if c.isEmpty then .skip .unchanged else
      settledOf plan key (c.conclude
        ((c.request? plan).bind fun targets => s.scan row.key targets window.toEnd))

def outcome (w : Worker Unit (List Sink.Call × σ)) (s : Store) (row : RowCells) :
    Outcome (List Record) :=
  match screen w.plan row.key with
  | .skip reason => .skip reason
  | .ready key =>
    if w.incremental then ofChanges w.plan w.window s key row
    else RowOutput.settled w.plan key row.cells

def handed (w : Worker Unit (List Sink.Call × σ)) (s : Store) (row : RowCells) : List Record :=
  RowOutput.recordsOf (outcome w s row)

theorem written_handover (deletes : List DeleteOrder) (records : List Record) :
    Sink.written (handover deletes records) = records := by
  have hrecords : Sink.written (records.map .write) = records := by
    induction records with
    | nil => rfl
    | cons r rs ih => exact congrArg (r :: ·) ih
  rw [handover, Sink.written_append, Sink.written_append, hrecords]
  split <;> simp [Sink.written, Sink.Call.record?]

theorem outcome_of_cellsOf (hsource : w.source = .ofStore s) {key : List Field}
    {cells : Outcome (List Cell)} (hkey : screen w.plan row.key = .ready key)
    (hcells : w.cellsOf row () = .ok cells ()) :
    outcome w s row = settledOf w.plan key cells := by
  simp only [outcome, hkey]
  cases hi : w.incremental with
  | false =>
      rw [cellsOf_of_full hi] at hcells
      cases hcells
      rfl
  | true =>
      simp only [if_true, ofChanges]
      cases hready : ChangeSet.ofRow w.plan w.window row with
      | skip reason =>
          rw [cellsOf_of_skip hi hready] at hcells
          cases hcells
          rfl
      | ready c =>
          by_cases hempty : c.isEmpty
          · rw [cellsOf_of_isEmpty hi hready hempty] at hcells
            cases hcells
            simp only [hempty, if_true]
            rfl
          · rw [cellsOf_of_ready hi hready hempty, hsource, ChangeSet.complete_ofStore] at hcells
            cases hcells
            simp only [hempty, if_false, Bool.false_eq_true]

theorem outcome_of_turn (hsource : w.source = .ofStore s) {o : Outcome Nat}
    {calls : List Sink.Call} (h : Turn w row () () o calls) :
    o = (outcome w s row).map (·.length) ∧ Sink.written calls = handed w s row := by
  rw [handed]
  cases h with
  | rejected hkey =>
      simp only [outcome, hkey]
      exact ⟨rfl, rfl⟩
  | unchanged hkey hcells =>
      rw [outcome_of_cellsOf hsource hkey hcells]
      exact ⟨rfl, rfl⟩
  | written hkey hcells hrecords =>
      rw [outcome_of_cellsOf hsource hkey hcells, settledOf, hrecords]
      exact ⟨rfl, written_handover _ _⟩
  | passedOver hkey hcells hskip =>
      rw [outcome_of_cellsOf hsource hkey hcells, hskip]
      exact ⟨rfl, written_handover _ _⟩

/-- A worker hands the records of a row to its sink and answers with their number. -/
theorem hands_workOn (hplan : w.plan.Sound) (hsource : w.source = .ofStore s)
    (hsink : sink.NeverFails inUse) (hw : w.sink = sink.recorded) (row : RowCells) :
    Hands inUse (w.workOn row) (handed w s row) (· = (outcome w s row).map (·.length)) := by
  intro st hst
  obtain ⟨o, st', hwork, _, huse⟩ := workOn_eq_ok hplan
    (hsource ▸ Source.neverFails_ofStore s) (hw ▸ hsink.recorded) row trivial hst
  obtain ⟨calls, hturn, _, hlog⟩ := exists_turn_of_workOn hplan hw hwork
  obtain ⟨ho, hwritten⟩ := outcome_of_turn hsource hturn
  exact ⟨o, st', hwork, ho, huse, by rw [hlog, Sink.written_append, hwritten]⟩

theorem hands_workOnAll (hplan : w.plan.Sound) (hsource : w.source = .ofStore s)
    (hsink : sink.NeverFails inUse) (hw : w.sink = sink.recorded) (rows : List RowCells) :
    Hands inUse (w.workOnAll rows) (rows.flatMap (handed w s)) fun _ => True := by
  induction rows with
  | nil => exact fun st hst => ⟨(), st, rfl, trivial, hst, (List.append_nil _).symm⟩
  | cons row rows ih =>
      intro st hst
      obtain ⟨o, st₁, hrow, _, huse, hwritten⟩ := hands_workOn hplan hsource hsink hw row st hst
      obtain ⟨_, st', hrows, _, huse', hwritten'⟩ := ih st₁ huse
      refine ⟨(), st', ?_, trivial, huse', ?_⟩
      · rw [workOnAll_cons, hrow]
        exact hrows
      · rw [hwritten', hwritten, List.append_assoc, List.flatMap_cons]

/-- A run over a store goes through to its end, and its sink has the records of all rows in their
order. -/
theorem run_eq_ok (hplan : w.plan.Sound) (hsource : w.source = .ofStore s)
    (hsink : sink.NeverFails inUse) (hw : w.sink = sink.recorded) (rows : List RowCells)
    (st : Recorded σ) (hst : inUse st.sink.2) :
    ∃ st', w.run rows st = .ok () st' ∧
      Sink.written st'.sink.1 = Sink.written st.sink.1 ++ rows.flatMap (handed w s) := by
  obtain ⟨_, st', hrows, _, huse, hwritten⟩ :=
    hands_workOnAll hplan hsource hsink hw rows st hst
  obtain ⟨t, hclose⟩ := hsink.close st'.sink.2 huse
  refine ⟨{ st' with sink := (st'.sink.1 ++ [.close], t) }, ?_, ?_⟩
  · rw [run_eq, hrows]
    simp only [close, hw, Sink.recorded_eq, onSink, Action.within]
    rw [Sink.record_eq_ok hclose .close st'.sink.1]
  · rw [Sink.written_append, hwritten]
    exact List.append_nil _

end Worker

end WideRow
