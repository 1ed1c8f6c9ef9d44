import WideRow.Proofs.Turns

namespace WideRow

/-- Every read goes through in the states that the source is in while it is used. -/
def Source.NeverFails {ρ : Type} (source : Source ρ) (inUse : ρ → Prop) : Prop :=
  ∀ key targets window r, inUse r →
    ∃ found r', source.scan key targets window r = .ok found r' ∧ inUse r'

theorem Source.neverFails_ofStore (s : Store) : (Source.ofStore s).NeverFails fun _ => True :=
  fun _ _ _ _ _ => ⟨_, _, rfl, trivial⟩

namespace Sink

structure NeverFails {σ : Type} (sink : Sink σ) (inUse : σ → Prop) : Prop where
  write : ∀ r t, inUse t → ∃ j t', sink.write r t = .ok j t' ∧ inUse t'
  delete : ∀ rows t, inUse t → ∃ n t', sink.delete rows t = .ok n t' ∧ inUse t'
  flush : ∀ t, inUse t → ∃ t', sink.flush t = .ok () t' ∧ inUse t'
  close : ∀ t, inUse t → ∃ t', sink.close t = .ok () t'

variable {σ : Type} {sink : Sink σ} {inUse : σ → Prop} {t : σ}

theorem NeverFails.make (h : sink.NeverFails inUse) {call : Call} (hcall : call ≠ .close)
    (ht : inUse t) : ∃ t', sink.make call t = .ok () t' ∧ inUse t' := by
  cases call with
  | write r =>
      obtain ⟨j, t', hwrite, ht'⟩ := h.write r t ht
      exact ⟨t', by simp only [Sink.make, Bind.bind, EStateM.bind, hwrite]; rfl, ht'⟩
  | delete rows =>
      obtain ⟨n, t', hdelete, ht'⟩ := h.delete rows t ht
      exact ⟨t', by simp only [Sink.make, Bind.bind, EStateM.bind, hdelete]; rfl, ht'⟩
  | flush => exact h.flush t ht
  | close => exact absurd rfl hcall

theorem NeverFails.makeAll (h : sink.NeverFails inUse) {calls : List Call}
    (hcalls : ∀ call ∈ calls, call ≠ .close) (ht : inUse t) :
    ∃ t', sink.makeAll calls t = .ok () t' ∧ inUse t' := by
  induction calls generalizing t with
  | nil => exact ⟨t, rfl, ht⟩
  | cons call calls ih =>
      obtain ⟨t₁, hmake, ht₁⟩ := h.make (hcalls call List.mem_cons_self) ht
      obtain ⟨t', hrest, ht'⟩ := ih (fun c hc => hcalls c (List.mem_cons_of_mem call hc)) ht₁
      refine ⟨t', ?_, ht'⟩
      rw [makeAll_cons, hmake]
      exact hrest

end Sink

theorem KeepingSink.whenOpen_eq_ok {α : Type} {answer : α} {change : KeepingSink → KeepingSink}
    {t : KeepingSink} (h : t.closed = false) :
    whenOpen answer change t = .ok answer (change t) := by
  obtain ⟨records, deletes, flushes, closed⟩ := t
  cases h
  rfl

theorem KeepingSink.neverFails : KeepingSink.sink.NeverFails (·.closed = false) where
  write _ _ ht := ⟨_, _, whenOpen_eq_ok ht, ht⟩
  delete _ _ ht := ⟨_, _, whenOpen_eq_ok ht, ht⟩
  flush _ ht := ⟨_, whenOpen_eq_ok ht, ht⟩
  close _ ht := ⟨_, whenOpen_eq_ok ht⟩

namespace Worker

variable {ρ σ : Type} {w : Worker ρ σ} {row : RowCells} {r r' : ρ} {o : Outcome Nat}
  {calls : List Sink.Call} {inUse : σ → Prop} {readable : ρ → Prop}

theorem ne_close_of_mem_handover {deletes : List DeleteOrder} {records : List Record}
    {call : Sink.Call} (h : call ∈ handover deletes records) : call ≠ .close := by
  rintro rfl
  rw [handover] at h
  split at h <;> simp at h

/-- The sink is never closed for a row. -/
theorem Turn.ne_close (h : Turn w row r r' o calls) : ∀ call ∈ calls, call ≠ .close := by
  cases h with
  | rejected => nofun
  | unchanged => nofun
  | written => exact fun _ => ne_close_of_mem_handover
  | passedOver => exact fun _ => ne_close_of_mem_handover

theorem readable_of_cellsOf (hsource : w.source.NeverFails readable) (hr : readable r)
    {cells : Outcome (List Cell)} (h : w.cellsOf row r = .ok cells r') : readable r' := by
  rcases cellsOf_cases w row with ⟨o, hpure⟩ | ⟨c, _, hcomplete⟩
  · rw [hpure] at h
    cases h
    exact hr
  · rw [hcomplete] at h
    rcases complete_cases c w.source w.plan w.window row.key r with
      ⟨found, r₁, hdone, rfl | ⟨targets, hscan⟩⟩ | ⟨targets, e, r₁, _, hfails⟩
    · cases hdone.symm.trans h
      exact hr
    · cases hdone.symm.trans h
      obtain ⟨found', r₂, hscan', hr₂⟩ := hsource row.key targets w.window.toEnd r hr
      cases hscan'.symm.trans hscan
      exact hr₂
    · cases hfails.symm.trans h

theorem readable_of_turn (hsource : w.source.NeverFails readable) (hr : readable r)
    (h : Turn w row r r' o calls) : readable r' := by
  cases h with
  | rejected => exact hr
  | unchanged _ hcells => exact readable_of_cellsOf hsource hr hcells
  | written _ hcells => exact readable_of_cellsOf hsource hr hcells
  | passedOver _ hcells => exact readable_of_cellsOf hsource hr hcells

theorem workOn_eq_ok (hplan : w.plan.Sound) (hsource : w.source.NeverFails readable)
    (hsink : w.sink.NeverFails inUse) (row : RowCells) {st : State ρ σ}
    (hr : readable st.source) (ht : inUse st.sink) :
    ∃ o st', w.workOn row st = .ok o st' ∧ readable st'.source ∧ inUse st'.sink := by
  have hworked := workOn_worked hplan row st
  generalize w.workOn row st = result at hworked
  cases hworked with
  | done hturn hmade =>
      obtain ⟨t', hmade', ht'⟩ := hsink.makeAll hturn.ne_close ht
      cases hmade'.symm.trans hmade
      exact ⟨_, _, rfl, readable_of_turn hsource hr hturn, ht'⟩
  | unread hread _ =>
      obtain ⟨targets, e', hscan, _⟩ := hread
      obtain ⟨found, r', hscan', _⟩ := hsource row.key targets w.window.toEnd st.source hr
      cases hscan'.symm.trans hscan
  | refused hturn hmade =>
      obtain ⟨t', hmade', _⟩ := hsink.makeAll hturn.ne_close ht
      cases hmade'.symm.trans hmade

theorem workOnAll_eq_ok (hplan : w.plan.Sound) (hsource : w.source.NeverFails readable)
    (hsink : w.sink.NeverFails inUse) (rows : List RowCells) {st : State ρ σ}
    (hr : readable st.source) (ht : inUse st.sink) :
    ∃ st', w.workOnAll rows st = .ok () st' ∧ inUse st'.sink := by
  induction rows generalizing st with
  | nil => exact ⟨st, rfl, ht⟩
  | cons row rows ih =>
      obtain ⟨o, st₁, hrow, hr₁, ht₁⟩ := workOn_eq_ok hplan hsource hsink row hr ht
      obtain ⟨st', hrows, ht'⟩ := ih hr₁ ht₁
      refine ⟨st', ?_, ht'⟩
      rw [workOnAll_cons, hrow]
      exact hrows

/-- Only a read or a call that fails ends the work on a row, whatever its key and its cells are:
deletions always make deletes, and nothing but a malformed document stops the records of a row. With
a source and a sink that never fail, a run goes through to its end. -/
theorem workOn_fails_only_outside (hplan : w.plan.Built) :
    (∀ row st e st', w.workOn row st = .error e st' →
      Unread w row st.source e st'.source ∧ st'.sink = st.sink ∨
        ∃ o made call rest t, Turn w row st.source st'.source o (made ++ call :: rest) ∧
          call ≠ .close ∧ w.sink.makeAll made st.sink = .ok () t ∧
            w.sink.make call t = .error e st'.sink) ∧
    (∀ row c, ChangeSet.ofRow w.plan w.window row = .ready c → ∀ d ∈ c.deletions, ∀ key,
      ∃ order, d.row w.plan.schema row.key key = .ok order) ∧
    (∀ key cells out e, RowOutput.ofFields w.plan (RowFields.ofCells w.plan.schema key cells) =
      .ready out → out.error = some e → e.kind = .malformedDocument) ∧
    ∀ readable inUse, w.source.NeverFails readable → w.sink.NeverFails inUse →
      ∀ rows st, readable st.source → inUse st.sink → ∃ st', w.run rows st = .ok () st' := by
  refine ⟨fun row st e st' h => ?_, fun row c hready d hd key => ?_,
    fun key cells out e hready he => ?_,
    fun readable inUse hsource hsink rows st hr ht => ?_⟩
  · have hworked := workOn_worked hplan.sound row st
    rw [h] at hworked
    cases hworked with
    | unread hread hsink => exact .inl ⟨hread, hsink⟩
    | refused hturn hmade =>
        obtain ⟨made, call, rest, t, rfl, hmade, hfails⟩ := Sink.makeAll_eq_error hmade
        exact .inr ⟨_, made, call, rest, t, hturn, hturn.ne_close call (by simp), hmade, hfails⟩
  · exact row_of_splits (fun g hg => ChangeSet.reach_of_mem_deletions hready hd hg) row.key key
  · rcases RowOutput.ofFields_eq hplan.sound key cells with ⟨hskip, _⟩ | ⟨out', hready', hoff⟩
    · cases hskip.symm.trans hready
    · cases hready'.symm.trans hready
      exact RowOutput.kind_of_offerAll (by rw [← RowOutput.offered, ← hoff, he])
  · obtain ⟨st₁, hrows, ht₁⟩ := workOnAll_eq_ok hplan.sound hsource hsink rows hr ht
    obtain ⟨t', hclose⟩ := hsink.close st₁.sink ht₁
    refine ⟨{ st₁ with sink := t' }, ?_⟩
    rw [run_eq, hrows]
    simp only [close, onSink, Action.within, hclose]

private def deletedLine : RowCells :=
  ⟨[107], [⟨"D", 70, .deleteColumn (Text.Utf8.encode "RC1")⟩]⟩

private def lineWorker : Worker Unit KeepingSink :=
  ⟨.invoices, ⟨50, 200⟩, true, .ofStore .empty, KeepingSink.sink⟩

theorem deleted_line_fails_only_outside :
    (∃ st', lineWorker.workOn deletedLine { source := (), sink := { closed := true } } =
        .error Sink.afterClose st' ∧
      ∃ o made call rest t, Turn lineWorker deletedLine () () o (made ++ call :: rest) ∧
        call ≠ .close ∧ lineWorker.sink.makeAll made { closed := true } = .ok () t ∧
          lineWorker.sink.make call t = .error Sink.afterClose st'.sink) ∧
    ∃ st', lineWorker.run [deletedLine] { source := (), sink := {} } = .ok () st' := by
  have hfails := workOn_fails_only_outside (w := lineWorker) Plan.invoices_built
  obtain ⟨st', h⟩ : ∃ st', lineWorker.workOn deletedLine
      { source := (), sink := { closed := true } } = .error Sink.afterClose st' := ⟨_, rfl⟩
  have hunread (e : Error) : ¬ Unread lineWorker deletedLine () e () := by
    rintro ⟨targets, e', hscan, _⟩
    cases hscan
  refine ⟨⟨st', h, (hfails.1 deletedLine _ _ _ h).resolve_left fun hread => hunread _ hread.1⟩, ?_⟩
  exact hfails.2.2.2 _ _ (Source.neverFails_ofStore .empty) KeepingSink.neverFails [deletedLine]
    { source := (), sink := {} } trivial rfl

end Worker

end WideRow
