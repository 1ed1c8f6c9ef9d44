import WideRow.CommandLine.Report
import WideRow.Proofs.Parts

namespace WideRow

theorem Error.Kind.exitCode_ne_zero (kind : Error.Kind) : kind.exitCode ≠ 0 := by
  cases kind <;> decide

namespace RowKey.Spec

theorem make_eq_ok {separator : String} {parts : List Part} {spec : Spec}
    (h : make separator parts = .ok spec) : make spec.separator spec.parts = .ok spec := by
  have hmade := h
  rw [make] at hmade
  split at hmade <;> cases hmade
  exact h

end RowKey.Spec

namespace Schema

theorem make_eq_ok {rowKey : RowKey.Spec} {statics : List StaticColumn}
    {dynamics : List DynamicColumn} {schema : Schema}
    (h : make rowKey statics dynamics = .ok schema) :
    schema.rowKey = rowKey ∧ make schema.rowKey schema.statics schema.dynamics = .ok schema := by
  have hmade := h
  rw [make] at hmade
  split at hmade <;> cases hmade
  exact ⟨rfl, h⟩

end Schema

theorem Plan.schema_of_make {schema : Schema} {selected : List FieldName}
    {condition : Option Condition} {documents : List DocumentColumn} {plan : Plan}
    (h : make schema selected condition documents = .ok plan) : plan.schema = schema := by
  obtain ⟨_, _, _, _, _, rfl⟩ := make_eq_ok h
  rfl

namespace Job

variable {job : Job}

theorem rowKey_eq_ok {key : RowKey.Spec} (h : job.rowKey = .ok key) :
    RowKey.Spec.make key.separator key.parts = .ok key := by
  rw [rowKey] at h
  obtain ⟨parts, _, hmake⟩ := bind_eq_ok h
  exact RowKey.Spec.make_eq_ok (eq_ok_of_mapError hmake)

theorem schema_eq_ok {schema : Schema} (h : job.schema = .ok schema) :
    RowKey.Spec.make schema.rowKey.separator schema.rowKey.parts = .ok schema.rowKey ∧
      Schema.make schema.rowKey schema.statics schema.dynamics = .ok schema := by
  rw [Job.schema] at h
  obtain ⟨key, hkey, h⟩ := bind_eq_ok h
  obtain ⟨hrowKey, hmake⟩ := Schema.make_eq_ok (eq_ok_of_mapError h)
  exact ⟨hrowKey ▸ rowKey_eq_ok hkey, hmake⟩

theorem built_of_plan {plan : Plan} (h : job.plan = .ok plan) : plan.Built := by
  rw [Job.plan] at h
  obtain ⟨schema, hschema, h⟩ := bind_eq_ok h
  have hmake := eq_ok_of_mapError h
  obtain ⟨hkey, hown⟩ := schema_eq_ok hschema
  cases Plan.schema_of_make hmake
  exact ⟨hkey, hown, _, _, _, hmake⟩

end Job

namespace Partition

theorem runAll_eq_ok {ρ σ : Type} {w : Worker ρ σ} {readable : ρ → Prop} {inUse : σ → Prop}
    {source : ρ} {sink : σ} (hplan : w.plan.Sound) (hsource : w.source.NeverFails readable)
    (hsink : w.sink.NeverFails inUse) (hr : readable source) (ht : inUse sink)
    (parts : List (List RowCells)) : ∃ p, runAll w source sink parts = .ok p := by
  induction parts with
  | nil => exact ⟨_, rfl⟩
  | cons rows parts ih =>
      obtain ⟨st, hrows, hst⟩ : ∃ st, w.workOnAll rows { source, sink } = .ok () st ∧
          inUse st.sink := Worker.workOnAll_eq_ok hplan hsource hsink rows hr ht
      obtain ⟨t, hclose⟩ := hsink.close st.sink hst
      obtain ⟨p, hrest⟩ := ih
      have hrun : w.run rows { source, sink } = .ok () { st with sink := t } := by
        rw [Worker.run_eq, hrows]
        simp only [Worker.close, Worker.onSink, Action.within, hclose]
      refine ⟨(st.stats.merge p.1, t :: p.2), ?_⟩
      rw [runAll, hrun, hrest]
      rfl

variable {plan : Plan} {job : Job} {window : Window} {store : Store} {count : Nat}

theorem write_of_split_none (h : split (rows job window store) count = none) :
    write job plan window store count = .ok none := by
  rw [write, h]
  rfl

theorem write_of_split_some (hplan : plan.Sound) {parts : List (List RowCells)}
    (h : split (rows job window store) count = some parts) :
    ∃ written, write job plan window store count = .ok (some written) := by
  obtain ⟨p, hrun⟩ := runAll_eq_ok
    (w := ⟨plan, window, job.settings.incremental, .ofStore store, LineSink.sink⟩) hplan
    (Source.neverFails_ofStore store) LineSink.collects.neverFails trivial LineSink.works_start
    parts
  have hclosed := closed_of_runAll LineSink.collects LineSink.works_start LineSink.seen_start rfl
    hrun
  refine ⟨⟨p.1, p.2.map fun t => (LineSink.seen t).toList⟩, ?_⟩
  simp only [write, h, Bind.bind, Except.bind, hrun, mapM_text hclosed]
  rfl

end Partition

namespace CommandLine

variable {files : Files} {job table : String} {store : Store}

theorem plan_of_readJob {j : Job} {plan : Plan} (h : readJob files job = .ok (j, plan)) :
    j.plan = .ok plan := by
  rw [readJob] at h
  split at h
  next =>
    split at h
    next =>
      obtain ⟨j', _, h⟩ := bind_eq_ok h
      obtain ⟨plan', hplan, he⟩ := bind_eq_ok h
      cases he
      exact hplan
    next => cases h
  next => cases h

/-- A run of a job that was accepted does its work, if its rows can be split. -/
theorem runReport_of_accepted {j : Job} {plan : Plan} {window : Window} {count : Nat}
    (stats : Bool)
    (hjob : readJob files job = .ok (j, plan)) (hwindow : j.window = .ok window)
    (htable : readTable files table = .ok store) :
    ∃ r, runReport files job table count stats = .ok r ∧
      (r.exitCode = 0 ↔ Partition.Fits (Partition.rows j window store) count) ∧
      (¬Partition.Fits (Partition.rows j window store) count → r = brokenOff) := by
  have hsound := (Job.built_of_plan (plan_of_readJob hjob)).sound
  simp only [runReport, hjob, hwindow, htable, Bind.bind, Except.bind]
  cases hsplit : Partition.split (Partition.rows j window store) count with
  | none =>
      rw [Partition.write_of_split_none hsplit]
      have hfits := Partition.split_eq_none_iff.1 hsplit
      exact ⟨brokenOff, rfl, iff_of_false (by decide) hfits, fun _ => rfl⟩
  | some parts =>
      obtain ⟨written, hwrite⟩ := Partition.write_of_split_some hsound hsplit
      rw [hwrite]
      have hfits := Partition.fits_of_split hsplit
      exact ⟨_, rfl, iff_of_true rfl hfits, fun h => absurd hfits h⟩

/-- A run and a check of the same job both end with the same error, or the job is accepted. -/
theorem execute_cases (files : Files) (job table : String) (count : Nat) (stats : Bool) :
    (∃ e, execute files (.run job table count stats) = .error e ∧
      execute files (.check job) = .error e) ∨
    ∃ j plan window r', readJob files job = .ok (j, plan) ∧ j.window = .ok window ∧
      execute files (.check job) = .ok r' ∧ r'.exitCode = 0 := by
  simp only [execute, runReport, checkReport]
  cases hjob : readJob files job with
  | error e => exact .inl ⟨e, rfl, rfl⟩
  | ok p =>
      obtain ⟨j, plan⟩ := p
      cases hwindow : j.window with
      | error e => exact .inl ⟨e, by simp [hwindow, Bind.bind, Except.bind]⟩
      | ok window =>
          simp only [Bind.bind, Except.bind, hwindow]
          exact .inr ⟨j, plan, window, _, rfl, hwindow, rfl, rfl⟩

/-- A run over a table that can be read ends well exactly if a check of its job does and the rows
can be split. Where the check fails, the run fails with the same error and puts out nothing; where
only the rows cannot be split, the run breaks off. -/
theorem run_ends_as_check {arguments arguments' : List String} {count : Nat} {stats : Bool}
    (hrun : readRequest arguments = .ok (.command (.run job table count stats)))
    (hcheck : readRequest arguments' = .ok (.command (.check job)))
    (htable : readTable files table = .ok store) :
    ((report files arguments').exitCode = 0 →
      ∃ j plan window, readJob files job = .ok (j, plan) ∧ j.window = .ok window ∧
        ((report files arguments).exitCode = 0 ↔
          Partition.Fits (Partition.rows j window store) count) ∧
        (¬Partition.Fits (Partition.rows j window store) count →
          report files arguments = brokenOff)) ∧
      ((report files arguments').exitCode ≠ 0 →
        report files arguments = report files arguments' ∧
          (report files arguments).output = []) := by
  simp only [report, hrun, hcheck, answer]
  rcases execute_cases files job table count stats with
    ⟨e, hfails, hfails'⟩ | ⟨j, plan, window, r', hjob, hwindow, hdone', hzero'⟩
  · rw [hfails, hfails']
    exact ⟨fun hzero => absurd hzero (Error.Kind.exitCode_ne_zero _), fun _ => ⟨rfl, rfl⟩⟩
  · obtain ⟨r, hdone, hiff, hbroken⟩ := runReport_of_accepted stats hjob hwindow htable
    have hran : execute files (.run job table count stats) = .ok r := hdone
    rw [hran, hdone']
    exact ⟨fun _ => ⟨j, plan, window, hjob, hwindow, hiff, hbroken⟩,
      fun hne => absurd hzero' hne⟩

theorem readRequest_check (hjob : shape job = .word) (hnamed : job ≠ "") :
    readRequest ["check", "--job", job] = .ok (.command (.check job)) := by
  have hcheck : shape "check" = .word := by decide +kernel
  have hoption : shape "--job" = .long "job" none := by decide +kernel
  simp [readRequest, readOptions, hcheck, CommandName.ofWord?, hoption, hjob, hnamed,
    CommandName.options, Opt.name, Opt.takesValue, settle, Given.add, Given.has, Given.store,
    Given.command?, Bind.bind, Except.bind, Pure.pure, Except.pure]

theorem readRequest_run (hjob : shape job = .word) (hjobNamed : job ≠ "")
    (htable : shape table = .word) (htableNamed : table ≠ "") {value : String} {n : Nat}
    (hvalue : shape value = .word) (hcount : count value = .ok n) :
    readRequest ["run", "--job", job, "--table", table, "--partitions", value] =
      .ok (.command (.run job table n false)) := by
  have hrun : shape "run" = .word := by decide +kernel
  have hoption : shape "--job" = .long "job" none := by decide +kernel
  have hoption' : shape "--table" = .long "table" none := by decide +kernel
  have hoption'' : shape "--partitions" = .long "partitions" none := by decide +kernel
  simp [readRequest, readOptions, hrun, CommandName.ofWord?, hoption, hoption', hoption'', hjob,
    hjobNamed, htable, htableNamed, hvalue, hcount, CommandName.options, Opt.name, Opt.takesValue,
    settle, Given.add, Given.has, Given.store, Given.command?, Bind.bind, Except.bind, Pure.pure,
    Except.pure]

private def statusJob : String :=
  "\x7b\"row_key\":\x7b\"fields\":[\x7b\"name\":\"id\"\x7d]\x7d," ++
    "\"static_columns\":[\x7b\"family\":\"D\",\"name\":\"SR1\"\x7d]\x7d"

private def statusDump : String :=
  "\x7b\"row\":\"k\",\"family\":\"D\",\"qualifier\":\"SR1\",\"value\":\"Y\",\"ts\":60\x7d"

private def statusFiles : Files := fun path =>
  .file (Text.Utf8.encode (if path = "job" then statusJob else statusDump))

private theorem readRequest_status_check :
    readRequest ["check", "--job", "job"] = .ok (.command (.check "job")) :=
  readRequest_check (by decide +kernel) (by decide)

private theorem status_accepted : (answer statusFiles (.command (.check "job"))).exitCode = 0 := by
  decide +kernel

theorem status_run_ends_as_check :
    (report statusFiles ["check", "--job", "job"]).exitCode = 0 ∧
      (report statusFiles ["run", "--job", "job", "--table", "dump", "--partitions",
        "2"]).exitCode = 0 := by
  have hcheck := readRequest_status_check
  have hrun : readRequest ["run", "--job", "job", "--table", "dump", "--partitions", "2"] =
      .ok (.command (.run "job" "dump" 2 false)) :=
    readRequest_run (by decide +kernel) (by decide) (by decide +kernel) (by decide)
      (by decide +kernel) rfl
  have hread : (readTable statusFiles "dump").isOk := by decide +kernel
  have hzero : (report statusFiles ["check", "--job", "job"]).exitCode = 0 := by
    rw [report, hcheck]
    exact status_accepted
  cases htable : readTable statusFiles "dump" with
  | error e =>
      rw [htable] at hread
      cases hread
  | ok store =>
      obtain ⟨j, plan, window, _, _, hends, _⟩ := (run_ends_as_check hrun hcheck htable).1 hzero
      exact ⟨hzero, hends.2 (.inr (by decide))⟩

/-- The same rows cut into as many runs as a word of 64 bits can ask for. -/
theorem status_run_breaks_off :
    (report statusFiles ["check", "--job", "job"]).exitCode = 0 ∧
      (report statusFiles ["run", "--job", "job", "--table", "dump", "--partitions",
        "18446744073709551615"]).exitCode = 101 := by
  have hrun : readRequest ["run", "--job", "job", "--table", "dump", "--partitions",
      "18446744073709551615"] = .ok (.command (.run "job" "dump" lastCount false)) :=
    readRequest_run (by decide +kernel) (by decide) (by decide +kernel) (by decide)
      (by decide +kernel) rfl
  rw [report, readRequest_status_check, report, hrun]
  exact ⟨status_accepted, by decide +kernel⟩

end CommandLine

end WideRow
