import WideRow.Proofs.Failures

namespace WideRow

namespace Sink

variable {σ : Type} {sink : Sink σ} {e : Error} {calls : List Call} {s s' : List Call × σ}

def record {α : Type} (call : Call) (a : Action σ α) : Action (List Call × σ) α := do
  modify fun (calls, t) => (calls ++ [call], t)
  Action.within (·.2) (fun s t => (s.1, t)) a

theorem recorded_eq (sink : Sink σ) : sink.recorded =
    { write := fun r => record (.write r) (sink.write r)
      delete := fun rows => record (.delete rows) (sink.delete rows)
      flush := record .flush sink.flush
      close := record .close sink.close } := rfl

theorem record_eq {α : Type} (call : Call) (a : Action σ α) (s : List Call × σ) :
    record call a s =
      match a s.2 with
      | .ok x t => .ok x (s.1 ++ [call], t)
      | .error e t => .error e (s.1 ++ [call], t) := rfl

theorem record_eq_ok {α : Type} {a : Action σ α} {x : α} {t t' : σ} (h : a t = .ok x t')
    (call : Call) (calls : List Call) :
    record call a (calls, t) = .ok x (calls ++ [call], t') := by
  rw [record_eq, h]

theorem NeverFails.recorded {inUse : σ → Prop} (h : sink.NeverFails inUse) :
    sink.recorded.NeverFails fun s => inUse s.2 where
  write r s hs := by
    obtain ⟨j, t, hwrite, ht⟩ := h.write r s.2 hs
    exact ⟨j, _, record_eq_ok hwrite (.write r) s.1, ht⟩
  delete rows s hs := by
    obtain ⟨n, t, hdelete, ht⟩ := h.delete rows s.2 hs
    exact ⟨n, _, record_eq_ok hdelete (.delete rows) s.1, ht⟩
  flush s hs := by
    obtain ⟨t, hflush, ht⟩ := h.flush s.2 hs
    exact ⟨_, record_eq_ok hflush .flush s.1, ht⟩
  close s hs := by
    obtain ⟨t, hclose⟩ := h.close s.2 hs
    exact ⟨_, record_eq_ok hclose .close s.1⟩

theorem make_recorded (sink : Sink σ) (call : Call) (s : List Call × σ) :
    sink.recorded.make call s =
      match sink.make call s.2 with
      | .ok () t => .ok () (s.1 ++ [call], t)
      | .error e t => .error e (s.1 ++ [call], t) := by
  rw [recorded_eq]
  cases call with
  | write r =>
      simp only [make, Bind.bind, EStateM.bind, record_eq]
      cases sink.write r s.2 <;> rfl
  | delete rows =>
      simp only [make, Bind.bind, EStateM.bind, record_eq]
      cases sink.delete rows s.2 <;> rfl
  | flush =>
      simp only [make, record_eq]
      cases sink.flush s.2 <;> rfl
  | close =>
      simp only [make, record_eq]
      cases sink.close s.2 <;> rfl

theorem makeAll_recorded_eq_ok (h : sink.recorded.makeAll calls s = .ok () s') :
    s'.1 = s.1 ++ calls ∧ sink.makeAll calls s.2 = .ok () s'.2 := by
  induction calls generalizing s with
  | nil =>
      cases h
      exact ⟨(List.append_nil _).symm, rfl⟩
  | cons call calls ih =>
      rw [makeAll_cons, make_recorded] at h
      rw [makeAll_cons]
      cases hmake : sink.make call s.2 with
      | error e t =>
          rw [hmake] at h
          cases h
      | ok x t =>
          rw [hmake] at h
          obtain ⟨hlog, hmade⟩ := ih h
          refine ⟨?_, hmade⟩
          rw [hlog, List.append_assoc, List.singleton_append]

theorem make_recorded_eq_error {call : Call} (h : sink.recorded.make call s = .error e s') :
    s'.1 = s.1 ++ [call] ∧ sink.make call s.2 = .error e s'.2 := by
  rw [make_recorded] at h
  cases hmake : sink.make call s.2 with
  | ok x t =>
      rw [hmake] at h
      cases h
  | error e' t =>
      rw [hmake] at h
      cases h
      exact ⟨rfl, rfl⟩

theorem makeAll_recorded_eq_error (h : sink.recorded.makeAll calls s = .error e s') :
    ∃ made call rest t, calls = made ++ call :: rest ∧ s'.1 = s.1 ++ (made ++ [call]) ∧
      sink.makeAll made s.2 = .ok () t ∧ sink.make call t = .error e s'.2 := by
  obtain ⟨made, call, rest, s₁, rfl, hmade, hfails⟩ := makeAll_eq_error h
  obtain ⟨hlog, hmade⟩ := makeAll_recorded_eq_ok hmade
  obtain ⟨hlog', hfails⟩ := make_recorded_eq_error hfails
  exact ⟨made, call, rest, s₁.2, rfl, by rw [hlog', hlog, List.append_assoc], hmade, hfails⟩

end Sink

namespace Worker

variable {ρ σ : Type} {plan : Plan} {window : Window} {incremental : Bool} {source : Source ρ}
  {sink : Sink σ}

abbrev Logged (ρ σ : Type) := State ρ (List Sink.Call × σ)

structure Taken where
  row : RowCells
  outcome : Outcome Nat
  calls : List Sink.Call

section Run

variable (w : Worker ρ (List Sink.Call × σ)) (sink : Sink σ)

/-- Rows taken one after another. None of their calls fails, and no others are made. -/
inductive Through : Logged ρ σ → List Taken → Logged ρ σ → Prop
  | nil (st : Logged ρ σ) : Through st [] st
  | cons {st st₁ st₂ : Logged ρ σ} {taken : Taken} {rest : List Taken}
      (hwork : w.workOn taken.row st = .ok taken.outcome st₁)
      (hturn : Turn w taken.row st.source st₁.source taken.outcome taken.calls)
      (hmade : sink.makeAll taken.calls st.sink.2 = .ok () st₁.sink.2)
      (hlog : st₁.sink.1 = st.sink.1 ++ taken.calls) (hrest : Through st₁ rest st₂) :
      Through st (taken :: rest) st₂

/-- How a row fails. -/
inductive Stops (row : RowCells) (st : Logged ρ σ) (e : Error) (st' : Logged ρ σ) : Prop
  /-- No call is made for a row that the source fails to read. -/
  | unread (hread : Unread w row st.source e st'.source) (hsink : st'.sink = st.sink)
  /-- A call fails, and none is made after it. -/
  | refused {o : Outcome Nat} {made rest : List Sink.Call} {call : Sink.Call} {t : σ}
      (hturn : Turn w row st.source st'.source o (made ++ call :: rest))
      (hmade : sink.makeAll made st.sink.2 = .ok () t)
      (hfails : sink.make call t = .error e st'.sink.2)
      (hlog : st'.sink.1 = st.sink.1 ++ (made ++ [call]))

/-- How a run ends. -/
inductive Ends (rows : List RowCells) (st : Logged ρ σ) :
    EStateM.Result Error (Logged ρ σ) Unit → Prop
  | closed {taken : List Taken} {st₁ st₂ : Logged ρ σ} (hrows : taken.map (·.row) = rows)
      (hthrough : Through w sink st taken st₁)
      (hclose : sink.make .close st₁.sink.2 = .ok () st₂.sink.2)
      (hlog : st₂.sink.1 = st.sink.1 ++ taken.flatMap (·.calls) ++ [.close]) :
      Ends rows st (.ok () st₂)
  | unclosed {taken : List Taken} {e : Error} {st₁ st₂ : Logged ρ σ}
      (hrows : taken.map (·.row) = rows) (hthrough : Through w sink st taken st₁)
      (hclose : sink.make .close st₁.sink.2 = .error e st₂.sink.2)
      (hlog : st₂.sink.1 = st.sink.1 ++ taken.flatMap (·.calls) ++ [.close]) :
      Ends rows st (.error e st₂)
  /-- Rows after one that fails are not taken, and the sink is not closed. -/
  | stopped {taken : List Taken} {row : RowCells} {after : List RowCells} {e : Error}
      {st₁ st₂ : Logged ρ σ} (hrows : taken.map (·.row) ++ row :: after = rows)
      (hthrough : Through w sink st taken st₁)
      (hlog : st₁.sink.1 = st.sink.1 ++ taken.flatMap (·.calls))
      (hwork : w.workOn row st₁ = .error e st₂) (hstops : Stops w sink row st₁ e st₂) :
      Ends rows st (.error e st₂)

end Run

variable {w : Worker ρ (List Sink.Call × σ)} {st st' : Logged ρ σ} {row : RowCells} {e : Error}

theorem Through.log {taken : List Taken} (h : Through w sink st taken st') :
    st'.sink.1 = st.sink.1 ++ taken.flatMap (·.calls) := by
  induction h with
  | nil st => exact (List.append_nil _).symm
  | cons _ _ _ hlog _ ih => rw [ih, hlog, List.append_assoc, List.flatMap_cons]

theorem exists_turn_of_workOn (hplan : w.plan.Sound) (hw : w.sink = sink.recorded)
    {o : Outcome Nat} (h : w.workOn row st = .ok o st') :
    ∃ calls, Turn w row st.source st'.source o calls ∧
      sink.makeAll calls st.sink.2 = .ok () st'.sink.2 ∧ st'.sink.1 = st.sink.1 ++ calls := by
  have hworked := workOn_worked hplan row st
  rw [h] at hworked
  cases hworked with
  | done hturn hmade =>
      rw [hw] at hmade
      obtain ⟨hlog, hmade⟩ := Sink.makeAll_recorded_eq_ok hmade
      exact ⟨_, hturn, hmade, hlog⟩

theorem stops_of_workOn (hplan : w.plan.Sound) (hw : w.sink = sink.recorded)
    (h : w.workOn row st = .error e st') : Stops w sink row st e st' := by
  have hworked := workOn_worked hplan row st
  rw [h] at hworked
  cases hworked with
  | unread hread hsink => exact .unread hread hsink
  | refused hturn hmade =>
      rw [hw] at hmade
      obtain ⟨made, call, rest, t, rfl, hlog, hmade, hfails⟩ :=
        Sink.makeAll_recorded_eq_error hmade
      exact .refused hturn hmade hfails hlog

/-- Rows go through up to the first that fails. -/
theorem workOnAll_ends (hplan : w.plan.Sound) (hw : w.sink = sink.recorded)
    (rows : List RowCells) (st : Logged ρ σ) :
    match w.workOnAll rows st with
    | .ok () st' => ∃ taken, taken.map (·.row) = rows ∧ Through w sink st taken st'
    | .error e st' => ∃ taken row after st₁, taken.map (·.row) ++ row :: after = rows ∧
        Through w sink st taken st₁ ∧ w.workOn row st₁ = .error e st' ∧
          Stops w sink row st₁ e st' := by
  induction rows generalizing st with
  | nil => exact ⟨[], rfl, .nil st⟩
  | cons row rows ih =>
      rw [workOnAll_cons]
      cases hrow : w.workOn row st with
      | error e st' => exact ⟨[], row, rows, st, rfl, .nil st, hrow, stops_of_workOn hplan hw hrow⟩
      | ok o st₁ =>
          obtain ⟨calls, hturn, hmade, hlog⟩ := exists_turn_of_workOn hplan hw hrow
          -- the row goes before whatever the induction takes of the others
          have hcons {taken : List Taken} {st' : Logged ρ σ} (h : Through w sink st₁ taken st') :
              Through w sink st (⟨row, o, calls⟩ :: taken) st' := .cons hrow hturn hmade hlog h
          have hrest := ih st₁
          dsimp only
          cases hresult : w.workOnAll rows st₁ with
          | ok _ st' =>
              rw [hresult] at hrest
              obtain ⟨taken, hrows, hthrough⟩ := hrest
              exact ⟨⟨row, o, calls⟩ :: taken, congrArg (row :: ·) hrows, hcons hthrough⟩
          | error e st' =>
              rw [hresult] at hrest
              obtain ⟨taken, row', after, st₂, hrows, hthrough, hwork, hstops⟩ := hrest
              exact ⟨⟨row, o, calls⟩ :: taken, row', after, st₂, congrArg (row :: ·) hrows,
                hcons hthrough, hwork, hstops⟩

theorem ends_of_close (hw : w.sink = sink.recorded) {taken : List Taken}
    (h : Through w sink st taken st') : Ends w sink (taken.map (·.row)) st (w.close st') := by
  have hclose := makes_close w st'
  cases hresult : w.close st' with
  | ok x st₂ =>
      rw [hresult, hw] at hclose
      obtain ⟨hlog, hmade⟩ := Sink.makeAll_recorded_eq_ok hclose.2.2
      rw [Sink.makeAll_singleton] at hmade
      exact .closed rfl h hmade (by rw [hlog, h.log])
  | error e st₂ =>
      rw [hresult, hw] at hclose
      have hfails := hclose.2
      rw [Sink.makeAll_singleton] at hfails
      obtain ⟨hlog, hfails⟩ := Sink.make_recorded_eq_error hfails
      exact .unclosed rfl h hfails (by rw [hlog, h.log])

/-- A run calls its sink row by row: for each row nothing, or its deletes if there are any, its
records and one flush. After the last row it closes the sink once, and after a read or a call that
fails it makes no call. -/
theorem run_ends (hplan : plan.Built) (rows : List RowCells) (st : Logged ρ σ) :
    Ends ⟨plan, window, incremental, source, sink.recorded⟩ sink rows st
      (run ⟨plan, window, incremental, source, sink.recorded⟩ rows st) := by
  have hend := workOnAll_ends (w := ⟨plan, window, incremental, source, sink.recorded⟩)
    hplan.sound rfl rows st
  rw [run_eq]
  split at hend
  next st₁ hrows =>
    obtain ⟨taken, rfl, hthrough⟩ := hend
    rw [hrows]
    exact ends_of_close rfl hthrough
  next e st₁ hrows =>
    obtain ⟨taken, row, after, st₂, hall, hthrough, hwork, hstops⟩ := hend
    rw [hrows]
    exact .stopped hall hthrough hthrough.log hwork hstops

private def limited {α : Type} (answer : α) : Action Nat α
  | 0 => .error Sink.afterClose 0
  | n + 1 => .ok answer n

/-- A sink that takes some calls and refuses all others. -/
private def limitedSink : Sink Nat where
  write record := limited record.json
  delete rows := limited (.ofRows rows)
  flush := limited ()
  close := limited ()

private def statusOf (key : UInt8) : RowCells :=
  ⟨[key], [⟨"D", 60, .put (Text.Utf8.encode "SR1") (Text.Utf8.encode "Y")⟩]⟩

private def lastLineDeleted : RowCells :=
  ⟨[108], [⟨"D", 60, .put (Text.Utf8.encode "RC2") (Text.Utf8.encode "b")⟩,
    ⟨"D", 70, .deleteColumn (Text.Utf8.encode "RC1")⟩]⟩

theorem run_of_limited_sink_ends :
    ∃ e st' first second deletes, run ⟨.invoices, ⟨50, 200⟩, true, .ofStore .empty,
        limitedSink.recorded⟩ [statusOf 107, lastLineDeleted, statusOf 109]
        { source := (), sink := ([], 3) } = .error e st' ∧
      st'.sink.1 = [.write first, .flush, .delete deletes, .write second] ∧
      Ends ⟨.invoices, ⟨50, 200⟩, true, .ofStore .empty, limitedSink.recorded⟩ limitedSink
        [statusOf 107, lastLineDeleted, statusOf 109] { source := (), sink := ([], 3) }
        (.error e st') :=
  ⟨_, _, _, _, _, rfl, rfl, run_ends Plan.invoices_built _ _⟩

end Worker

end WideRow
