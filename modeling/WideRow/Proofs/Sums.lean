import WideRow.Proofs.Counts
import WideRow.Proofs.OpenSinks

namespace WideRow

namespace Worker

open WideRow.Action (Adds Additive additive_pure additive_ofExcept)

variable {σ α M : Type} [AddMonoid M] {sink : Sink σ} {inUse closed : σ → Prop} {seen : σ → M}

/-- What is counted, and what is seen of the sink. -/
def total (seen : σ → M) (st : State Unit σ) : Stats × M := (st.stats, seen st.sink)

/-- Steps of a worker on a store that count and write the same wherever they begin. -/
abbrev Sums (inUse : σ → Prop) (seen : σ → M) (a : Action (State Unit σ) α) : Prop :=
  Additive (fun st => inUse st.sink) (total seen) a

theorem sums_count {f : Stats → Stats} (h : Stats.Counts f) : Sums inUse seen (count f) :=
  ⟨.ok ((), f 0, 0), fun st hst => ⟨{ st with stats := f st.stats }, rfl, hst, by
    simp [total, h st.stats]⟩⟩

theorem sums_warn (warnings : List Warning) : Sums inUse seen (warn warnings) :=
  ⟨.ok ((), 0), fun _ hst => ⟨_, rfl, hst, (add_zero _).symm⟩⟩

theorem sums_skip (reason : Skip) : Sums inUse seen (skip reason) :=
  (sums_count (Stats.counts_withSkip reason)).bind fun _ => additive_pure _

theorem sums_report (schema : Schema) (key : Bytes) (d : Dropped) :
    Sums inUse seen (report schema key d) :=
  (sums_count (Stats.counts_withDropped _ _)).bind fun _ => sums_warn _

theorem sums_onSource {a : Action Unit α} {x : α} (h : a () = .ok x ()) :
    Sums inUse seen (onSource a) :=
  ⟨.ok (x, 0), fun st hst => ⟨st, by simp only [onSource, Action.within, h], hst,
    (add_zero _).symm⟩⟩

theorem sums_onSink {a : Action σ α} {x : α} {m : M} (h : Adds inUse seen a (.ok (x, m))) :
    Sums inUse seen (onSink a) :=
  ⟨.ok (x, 0, m), fun st hst => by
    obtain ⟨t, hrun, ht, hseen⟩ := h st.sink hst
    exact ⟨{ st with sink := t }, by simp only [onSink, Action.within, hrun], ht, by
      simp [total, hseen]⟩⟩

section Rows

variable {w : Worker Unit σ} (h : w.sink.Collects inUse closed seen)
include h

theorem sums_writeAll (records : List Record) : Sums inUse seen (w.writeAll records) := by
  induction records with
  | nil => exact additive_pure ()
  | cons record records ih =>
      obtain ⟨j, m, hwrite⟩ := h.write record
      have hone : Sums inUse seen (do let _ ← onSink (w.sink.write record)) :=
        (sums_onSink hwrite).bind fun _ => additive_pure ()
      exact hone.bind fun _ => ih

theorem sums_deleteAll (rows : List DeleteOrder) : Sums inUse seen (w.deleteAll rows) := by
  obtain ⟨n, m, hdelete⟩ := h.delete rows
  exact (sums_onSink hdelete).bind fun _ => sums_count (Stats.counts_withDeletes _)

theorem sums_deliver (deletes : List DeleteOrder) (records : List Record) :
    Sums inUse seen (w.deliver deletes records) := by
  obtain ⟨m, hflush⟩ := h.flush
  have htail : Sums inUse seen (do
      w.writeAll records
      count (·.withRecords records.length)
      onSink w.sink.flush) :=
    (sums_writeAll h records).bind fun _ =>
      (sums_count (Stats.counts_withRecords _)).bind fun _ => sums_onSink hflush
  cases deletes with
  | nil => exact htail
  | cons d ds => exact (sums_deleteAll h (d :: ds)).bind fun _ => htail

theorem sums_conclude (rowKey : Bytes) (key : List Field) (deletions : List Deletion)
    (dropped : Dropped) (cells : Outcome (List Cell)) :
    Sums inUse seen (w.conclude rowKey key deletions dropped cells) := by
  -- an error in making the records or the deletes is the same from every state
  refine (sums_warn _).bind fun _ => (sums_report _ _ _).bind fun _ =>
    (additive_ofExcept _).bind fun outcome => (additive_ofExcept _).bind fun deletes => ?_
  cases outcome with
  | ready records => exact (sums_deliver h deletes records).bind fun _ => additive_pure _
  | skip reason => exact (sums_deliver h deletes []).bind fun _ => sums_skip reason

variable {s : Store} (hsource : w.source = .ofStore s)
include hsource

theorem sums_workOnChanges (row : RowCells) (key : List Field) (c : ChangeSet) :
    Sums inUse seen (w.workOnChanges row key c) := by
  rw [workOnChanges]
  split
  next => exact (sums_report _ _ _).bind fun _ => sums_skip .unchanged
  next =>
    have hread := ChangeSet.complete_ofStore c s w.plan w.window row.key
    rw [← hsource] at hread
    exact (sums_count (Stats.counts_withRead c.read)).bind fun _ =>
      (sums_onSource hread).bind fun cells => sums_conclude h _ _ _ _ cells

theorem sums_workOn (row : RowCells) : Sums inUse seen (w.workOn row) := by
  refine (sums_count Stats.counts_withRow).bind fun _ => ?_
  split
  next => exact sums_skip _
  next =>
    split
    next =>
      split
      next => exact sums_skip _
      next => exact sums_workOnChanges h hsource row _ _
    next => exact sums_conclude h _ _ _ _ _

theorem sums_workOnAll (rows : List RowCells) : Sums inUse seen (w.workOnAll rows) := by
  induction rows with
  | nil => exact additive_pure ()
  | cons row rows ih =>
      have hrow : Sums inUse seen (do let _ ← w.workOn row) :=
        (sums_workOn h hsource row).bind fun _ => additive_pure ()
      exact hrow.bind fun _ => ih

end Rows

def totalOf (w : Worker Unit σ) (start : σ) (seen : σ → M) (rows : List RowCells) :
    Except Error (Stats × M) :=
  match w.run rows { source := (), sink := start } with
  | .ok _ st => .ok (total seen st)
  | .error e _ => .error e

section Run

variable {w : Worker Unit σ} {start : σ} (h : w.sink.Collects inUse closed seen)
  (hstart : inUse start) (hfresh : seen start = 0)
include h hstart hfresh

/-- A run goes through and closes its sink, or fails as its rows do. -/
theorem run_of_adds {rows : List RowCells} {r : Except Error (Unit × Stats × M)}
    (hrows : Adds (fun st => inUse st.sink) (total seen) (w.workOnAll rows) r) :
    match r with
    | .ok (_, m) => ∃ st, w.run rows { source := (), sink := start } = .ok () st ∧
        closed st.sink ∧ total seen st = m
    | .error e => ∃ st, w.run rows { source := (), sink := start } = .error e st := by
  have hrows := hrows { source := (), sink := start } hstart
  rw [run_eq]
  cases r with
  | error e =>
      obtain ⟨st, hfails⟩ := hrows
      exact ⟨st, by rw [hfails]⟩
  | ok p =>
      obtain ⟨st, hdone, hst, htotal⟩ := hrows
      obtain ⟨t, hclose, hclosed, hseen⟩ := h.close st.sink hst
      have hfrom : total seen { source := (), sink := start } = 0 := by
        rw [total, hfresh]
        rfl
      refine ⟨{ st with sink := t }, ?_, hclosed, ?_⟩
      · simp only [hdone, close, onSink, Action.within, hclose]
      · rw [hfrom, zero_add] at htotal
        rw [← htotal, total, hseen]
        rfl

theorem totalOf_of_adds {rows : List RowCells} {r : Except Error (Unit × Stats × M)}
    (hrows : Adds (fun st => inUse st.sink) (total seen) (w.workOnAll rows) r) :
    w.totalOf start seen rows = r.map (·.2) := by
  have hrun := run_of_adds h hstart hfresh hrows
  rw [totalOf]
  cases r with
  | error e =>
      obtain ⟨st, hrun⟩ := hrun
      rw [hrun]
      rfl
  | ok p =>
      obtain ⟨st, hrun, _, htotal⟩ := hrun
      rw [hrun]
      exact congrArg Except.ok htotal

variable {s : Store} (hsource : w.source = .ofStore s)
include hsource

theorem totalOf_append (rows rows' : List RowCells) :
    w.totalOf start seen (rows ++ rows') = do
      let a ← w.totalOf start seen rows
      let b ← w.totalOf start seen rows'
      return a + b := by
  obtain ⟨r, hrows⟩ := sums_workOnAll h hsource rows
  obtain ⟨r', hrows'⟩ := sums_workOnAll h hsource rows'
  have hall : w.workOnAll (rows ++ rows') = (w.workOnAll rows >>= fun _ => w.workOnAll rows') :=
    List.forM_append
  rw [totalOf_of_adds h hstart hfresh hrows, totalOf_of_adds h hstart hfresh hrows']
  cases r with
  | error e => exact totalOf_of_adds h hstart hfresh (hall ▸ hrows.bind_error _)
  | ok p =>
      rw [totalOf_of_adds h hstart hfresh (hall ▸ hrows.bind_map hrows')]
      cases r' <;> rfl

theorem closed_of_run {rows : List RowCells} {st : State Unit σ}
    (hrun : w.run rows { source := (), sink := start } = .ok () st) : closed st.sink := by
  obtain ⟨r, hrows⟩ := sums_workOnAll h hsource rows
  have hends := run_of_adds h hstart hfresh hrows
  rw [hrun] at hends
  cases r with
  | error e =>
      obtain ⟨st', hfails⟩ := hends
      cases hfails
  | ok p =>
      obtain ⟨st', hdone, hclosed, _⟩ := hends
      cases hdone
      exact hclosed

end Run

end Worker

end WideRow
