import WideRow.Proofs.Counts
import WideRow.Proofs.Entries

namespace WideRow

def Outcome.isReady {α : Type} : Outcome α → Bool
  | ready _ => true
  | skip _ => false

namespace Stats

def skips (s : Stats) : Nat := s.skipped.values.sum

theorem skips_withSkip (s : Stats) (reason : Skip) : (s.withSkip reason).skips = s.skips + 1 :=
  SortedMap.sum_values_update s.skipped reason 1

variable (s : Stats) (read : Read) (columns groups : Nat) (deletes : DeleteCounts) (o : Outcome Nat)

theorem rows_withEntry :
    (s.withEntry read columns groups deletes o).rows = s.rows + 1 := by
  cases read <;> cases o <;> rfl

theorem skips_withEntry : (s.withEntry read columns groups deletes o).skips =
    s.skips + if o.isReady then 0 else 1 := by
  cases o with
  | ready n => cases read <;> rfl
  | skip reason => cases read <;> exact skips_withSkip _ reason

theorem records_withEntry : (s.withEntry read columns groups deletes o).records =
    s.records + o.recordCount := by
  cases read <;> cases o <;> rfl

theorem deletes_withEntry : (s.withEntry read columns groups deletes o).deletes =
    ⟨s.deletes.key + deletes.key, s.deletes.group + deletes.group⟩ := by
  cases read <;> cases o <;> rfl

theorem columnsDropped_withEntry : (s.withEntry read columns groups deletes o).columnsDropped =
    s.columnsDropped + columns := by
  cases read <;> cases o <;> rfl

theorem reads_withEntry :
    (s.withEntry read columns groups deletes o).backfills +
        (s.withEntry read columns groups deletes o).rescans =
      s.backfills + s.rescans + if read = .nothing then 0 else 1 := by
  cases read with
  | nothing => cases o <;> rfl
  | backfill columns => cases o <;> exact Nat.add_right_comm _ _ _
  | rescan => cases o <;> rfl

end Stats

namespace Worker

variable {ρ σ : Type}

/-- A row with the state that its source is found in, and what comes of it. -/
structure Visit (ρ : Type) where
  row : RowCells
  source : ρ
  outcome : Outcome Nat

/-- Rows taken one after another. -/
inductive Visits (w : Worker ρ σ) : State ρ σ → List (Visit ρ) → State ρ σ → Prop
  | nil (st : State ρ σ) : Visits w st [] st
  | cons {st st₁ st₂ : State ρ σ} {row : RowCells} {o : Outcome Nat} {rest : List (Visit ρ)}
      (hwork : w.workOn row st = .ok o st₁) (hrest : Visits w st₁ rest st₂) :
      Visits w st (⟨row, st.source, o⟩ :: rest) st₂

theorem exists_visits {w : Worker ρ σ} {rows : List RowCells} {st st' : State ρ σ}
    (h : w.workOnAll rows st = .ok () st') :
    ∃ visits, visits.map (·.row) = rows ∧ Visits w st visits st' := by
  induction rows generalizing st with
  | nil =>
      cases h
      exact ⟨[], rfl, .nil _⟩
  | cons row rows ih =>
      rw [workOnAll_cons] at h
      cases hrow : w.workOn row st with
      | error e st₁ =>
          rw [hrow] at h
          cases h
      | ok o st₁ =>
          rw [hrow] at h
          obtain ⟨visits, hrows, hvisits⟩ := ih h
          exact ⟨⟨row, st.source, o⟩ :: visits, congrArg (row :: ·) hrows, .cons hrow hvisits⟩

/-- The counts are in balance with the rows that were taken, with the calls of the sink and with the
reads of the source. -/
structure Accounts (w : Worker (Nat × ρ) (List Sink.Call × σ)) (visits : List (Visit (Nat × ρ)))
    (st : Logged (Nat × ρ) σ) : Prop where
  rows : st.stats.rows = visits.length
  outcomes : st.stats.rows = st.stats.skips + visits.countP (·.outcome.isReady)
  records : st.stats.records = (Sink.written st.sink.1).length
  keyDeletes : st.stats.deletes.key = (Sink.deleted st.sink.1).countP (·.reach == .key)
  groupDeletes : st.stats.deletes.group = (Sink.deleted st.sink.1).countP (·.reach != .key)
  reads : st.stats.backfills + st.stats.rescans = st.source.1
  columns : st.stats.columnsDropped =
    (visits.map fun v => (w.strays v.row v.source).card).sum

variable {w : Worker (Nat × ρ) (List Sink.Call × σ)} {visits before : List (Visit (Nat × ρ))}
  {st st₁ : Logged (Nat × ρ) σ} {row : RowCells} {o : Outcome Nat} {read : Read} {groups : Nat}
  {calls : List Sink.Call} {source : Source ρ} {sink : Sink σ}

theorem Accounts.entry (h : Accounts w visits st) (he : Entry w row o st st₁ read groups calls) :
    Accounts w (visits ++ [⟨row, st.source, o⟩]) st₁ where
  rows := by rw [he.stats, Stats.rows_withEntry, h.rows, List.length_append, List.length_singleton]
  outcomes := by
    rw [he.stats, Stats.rows_withEntry, Stats.skips_withEntry, List.countP_append,
      List.countP_singleton, h.outcomes]
    cases o.isReady <;> simp only [if_true, if_false, Bool.false_eq_true] <;> omega
  records := by
    rw [he.stats, Stats.records_withEntry, he.log, Sink.written_append, List.length_append,
      he.records, h.records]
  keyDeletes := by
    rw [he.stats, Stats.deletes_withEntry, he.log, Sink.deleted_append, List.countP_append,
      ← h.keyDeletes]
    rfl
  groupDeletes := by
    rw [he.stats, Stats.deletes_withEntry, he.log, Sink.deleted_append, List.countP_append,
      ← h.groupDeletes, ← DeleteCounts.group_ofRows]
  reads := by rw [he.stats, Stats.reads_withEntry, h.reads, he.reads]
  columns := by
    rw [he.stats, Stats.columnsDropped_withEntry, h.columns, List.map_append, List.sum_append]
    rfl

theorem accounts_start (w : Worker (Nat × ρ) (List Sink.Call × σ)) (r : ρ) (t : σ) :
    Accounts w [] { source := (0, r), sink := ([], t) } :=
  ⟨rfl, rfl, rfl, rfl, rfl, rfl, rfl⟩

theorem Accounts.through (hreader : w.source = source.counted) (hw : w.sink = sink.recorded)
    (htallies : sink.Tallies) (h : Accounts w before st) (hvisits : Visits w st visits st₁) :
    Accounts w (before ++ visits) st₁ := by
  induction hvisits generalizing before with
  | nil st => rwa [List.append_nil]
  | cons hwork _ ih =>
      obtain ⟨_, _, _, hentry⟩ := exists_entry hreader hw htallies hwork
      have hrest := ih (h.entry hentry)
      rwa [List.append_assoc] at hrest

theorem Accounts.close (hw : w.sink = sink.recorded) (h : Accounts w visits st)
    (hclose : w.close st = .ok () st₁) : Accounts w visits st₁ := by
  rw [Worker.close, hw, Sink.recorded_eq] at hclose
  obtain ⟨hbooks, _⟩ := books_record hclose
  have hstats : st₁.stats = st.stats := hbooks.stats
  have hwritten : Sink.written st₁.sink.1 = Sink.written st.sink.1 := by
    rw [hbooks.log, Sink.written_append]
    exact List.append_nil _
  have hdeleted : Sink.deleted st₁.sink.1 = Sink.deleted st.sink.1 := by
    rw [hbooks.log, Sink.deleted_append]
    exact List.append_nil _
  exact
    { rows := by rw [hstats, h.rows]
      outcomes := by rw [hstats, h.outcomes]
      records := by rw [hstats, hwritten, h.records]
      keyDeletes := by rw [hstats, hdeleted, h.keyDeletes]
      groupDeletes := by rw [hstats, hdeleted, h.groupDeletes]
      reads := by rw [hstats, hbooks.source, h.reads]
      columns := by rw [hstats, h.columns] }

/-- The counts of a run that goes through account for all that it did. Each row is passed over for
one reason or put out, the records and the deletes are those that the sink was called for, the reads
are those of the source, and of every row each stray column is counted once. -/
theorem run_accounts (htallies : sink.Tallies) {plan : Plan} {window : Window} {incremental : Bool}
    (source : Source ρ) {rows : List RowCells} {r : ρ} {t : σ} {st : Logged (Nat × ρ) σ}
    (h : run ⟨plan, window, incremental, source.counted, sink.recorded⟩ rows
      { source := (0, r), sink := ([], t) } = .ok () st) :
    ∃ visits st₁, visits.map (·.row) = rows ∧
      Visits ⟨plan, window, incremental, source.counted, sink.recorded⟩
        { source := (0, r), sink := ([], t) } visits st₁ ∧
      close ⟨plan, window, incremental, source.counted, sink.recorded⟩ st₁ = .ok () st ∧
      Accounts ⟨plan, window, incremental, source.counted, sink.recorded⟩ visits st := by
  rw [run_eq] at h
  split at h
  next st₁ hall =>
    obtain ⟨visits, hrows, hvisits⟩ := exists_visits hall
    have hbefore := (accounts_start _ r t).through rfl rfl htallies hvisits
    exact ⟨visits, st₁, hrows, hvisits, h, hbefore.close rfl h⟩
  next => cases h

private def strayInvoice : RowCells :=
  ⟨[107], [⟨"D", 60, .put (Text.Utf8.encode "RC1") (Text.Utf8.encode "a")⟩,
    ⟨"D", 60, .put [] (Text.Utf8.encode "b")⟩]⟩

private def shortInvoice : RowCells :=
  ⟨[108], [⟨"D", 70, .deleteColumn (Text.Utf8.encode "RC1")⟩]⟩

private def threeInvoices : List RowCells := [strayInvoice, shortInvoice, ⟨[109], []⟩]

private def straySource : Source Unit :=
  ⟨fun key _ _ => pure (some ⟨key, [⟨"D", 10, .put [] (Text.Utf8.encode "b")⟩,
    ⟨"D", 10, .put (Text.Utf8.encode "SR1") (Text.Utf8.encode "Y")⟩,
    ⟨"D", 10, .put (Text.Utf8.encode "zz") (Text.Utf8.encode "c")⟩]⟩)⟩

private def accountant : Worker (Nat × Unit) (List Sink.Call × KeepingSink) :=
  ⟨.invoices, ⟨50, 200⟩, true, straySource.counted, KeepingSink.sink.recorded⟩

theorem three_invoices_account :
    ∃ st visits st₁,
      accountant.run threeInvoices { source := (0, ()), sink := ([], {}) } = .ok () st ∧
      visits.map (·.row) = threeInvoices ∧
      Visits accountant { source := (0, ()), sink := ([], {}) } visits st₁ ∧
      Accounts accountant visits st ∧ st.stats.rows = 3 ∧ st.stats.skips = 1 ∧
      st.stats.records = 2 ∧ st.stats.deletes = ⟨0, 1⟩ ∧ st.stats.backfills = 2 ∧
      st.stats.columnsDropped = 4 := by
  have hends : (match accountant.run threeInvoices { source := (0, ()), sink := ([], {}) } with
      | .ok _ st => decide (st.stats.rows = 3 ∧ st.stats.skips = 1 ∧ st.stats.records = 2 ∧
        st.stats.deletes = ⟨0, 1⟩ ∧ st.stats.backfills = 2 ∧ st.stats.columnsDropped = 4)
      | .error _ _ => false) = true := by decide +kernel
  cases hrun : accountant.run threeInvoices { source := (0, ()), sink := ([], {}) } with
  | error e st =>
      rw [hrun] at hends
      cases hends
  | ok x st =>
      rw [hrun] at hends
      obtain ⟨visits, st₁, hrows, hvisits, _, haccounts⟩ :=
        run_accounts KeepingSink.tallies straySource hrun
      exact ⟨st, visits, st₁, rfl, hrows, hvisits, haccounts, of_decide_eq_true hends⟩

end Worker

end WideRow
