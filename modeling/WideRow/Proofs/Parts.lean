import WideRow.Partition
import WideRow.Proofs.Sums

namespace WideRow

namespace Partition

section Split

variable {α : Type}

theorem flatten_chunks (n : Nat) (xs : List α) : (chunks n xs).flatten = xs := by
  fun_induction chunks n xs with
  | case1 => rfl
  | case2 x xs ih => rw [List.flatten_cons, ih, List.cons_append, List.take_append_drop]

theorem length_chunks_le {n parts : Nat} {xs : List α} (h : xs.length ≤ parts * (n + 1)) :
    (chunks n xs).length ≤ parts := by
  fun_induction chunks n xs generalizing parts with
  | case1 => exact Nat.zero_le parts
  | case2 x xs ih =>
      cases parts with
      | zero => simp at h
      | succ parts =>
          rw [Nat.add_mul, Nat.one_mul, List.length_cons] at h
          have hrest : (chunks n (xs.drop n)).length ≤ parts := by
            apply ih
            rw [List.length_drop]
            omega
          rw [List.length_cons]
          omega

variable {rows : List α} {count : Nat} {parts : List (List α)}

/-- No more runs are asked for than there is room for, or there is nothing to split. -/
def Fits (rows : List α) (count : Nat) : Prop := rows = [] ∨ count ≤ mostRuns

theorem split_eq_none_iff : split rows count = none ↔ ¬Fits rows count := by
  have hsome : 1 ≤ mostRuns := by decide
  have hone : mostRuns < max count 1 ↔ mostRuns < count := by omega
  cases rows with
  | nil => simp [split, Fits]
  | cons row rows => simp [split, Fits, hone]

theorem fits_of_split (h : split rows count = some parts) : Fits rows count := by
  by_contra hfits
  rw [split_eq_none_iff.2 hfits] at h
  cases h

theorem flatten_split (h : split rows count = some parts) : parts.flatten = rows := by
  simp only [split] at h
  split at h
  next hempty =>
    cases h
    simpa using hempty.symm
  next =>
    split at h
    next => cases h
    next =>
      cases h
      exact flatten_chunks _ rows

theorem length_split_le (h : split rows count = some parts) : parts.length ≤ max count 1 := by
  simp only [split] at h
  split at h
  next =>
    cases h
    exact Nat.le_max_right count 1
  next hempty =>
    split at h
    next => cases h
    next =>
      cases h
      have hrows : 0 < rows.length := List.length_pos_iff.2 (by simpa using hempty)
      have hparts : 0 < max count 1 := by omega
      generalize max count 1 = parts at hparts ⊢
      have hone : 1 ≤ (rows.length + parts - 1) / parts :=
        (Nat.one_le_div_iff hparts).2 (by omega)
      have hup := Nat.lt_mul_div_succ (rows.length + parts - 1) hparts
      apply length_chunks_le
      rw [Nat.sub_add_cancel hone]
      rw [Nat.mul_add, Nat.mul_one] at hup
      omega

end Split

def together {σ M : Type} [AddMonoid M] (seen : σ → M) (p : Stats × List σ) : Stats × M :=
  (p.1, (p.2.map seen).sum)

section RunAll

variable {σ M : Type} [AddMonoid M] {inUse closed : σ → Prop} {seen : σ → M} {start : σ}

theorem runAll_cons (w : Worker Unit σ) (start : σ) (rows : List RowCells)
    (parts : List (List RowCells)) : runAll w () start (rows :: parts) =
      match w.run rows { source := (), sink := start } with
      | .error e _ => .error e
      | .ok _ st => (runAll w () start parts).map fun p =>
        (st.stats.merge p.1, st.sink :: p.2) := by
  rw [runAll]
  cases w.run rows { source := (), sink := start } with
  | error e st => rfl
  | ok x st => cases runAll w () start parts <;> rfl

variable {w : Worker Unit σ} {s : Store} (h : w.sink.Collects inUse closed seen)
  (hstart : inUse start) (hfresh : seen start = 0) (hsource : w.source = .ofStore s)
include h hstart hfresh hsource

/-- All partitions together count and write what the rows do at once. -/
theorem together_runAll (parts : List (List RowCells)) :
    (runAll w () start parts).map (together seen) = w.totalOf start seen parts.flatten := by
  induction parts with
  | nil =>
      have hnothing : Action.Adds (fun st => inUse st.sink) (Worker.total seen) (w.workOnAll [])
          (.ok ((), 0)) := Action.adds_pure ()
      exact (Worker.totalOf_of_adds h hstart hfresh hnothing).symm
  | cons rows parts ih =>
      rw [List.flatten_cons, Worker.totalOf_append h hstart hfresh hsource, ← ih, runAll_cons,
        Worker.totalOf]
      cases w.run rows { source := (), sink := start } with
      | error e st => rfl
      | ok x st => cases runAll w () start parts <;> rfl

theorem together_runAll_flatten (parts : List (List RowCells)) :
    (runAll w () start parts).map (together seen) =
      (runAll w () start [parts.flatten]).map (together seen) := by
  rw [together_runAll h hstart hfresh hsource, together_runAll h hstart hfresh hsource,
    List.flatten_singleton]

theorem closed_of_runAll {parts : List (List RowCells)} {stats : Stats} {sinks : List σ}
    (hrun : runAll w () start parts = .ok (stats, sinks)) : ∀ t ∈ sinks, closed t := by
  induction parts generalizing stats sinks with
  | nil =>
      cases hrun
      nofun
  | cons rows parts ih =>
      rw [runAll_cons] at hrun
      cases hrows : w.run rows { source := (), sink := start } with
      | error e st =>
          rw [hrows] at hrun
          cases hrun
      | ok x st =>
          rw [hrows] at hrun
          cases hrest : runAll w () start parts with
          | error e =>
              rw [hrest] at hrun
              cases hrun
          | ok p =>
              rw [hrest] at hrun
              cases hrun
              intro t ht
              rcases List.mem_cons.1 ht with rfl | ht
              · exact Worker.closed_of_run h hstart hfresh hsource hrows
              · exact ih hrest t ht

end RunAll

def toLines (job : Job) (plan : Plan) (store : Store) (parts : List (List RowCells)) :
    Except Error (Stats × Bytes) := do
  let window ← job.window
  let (stats, sinks) ← runAll
    ⟨plan, window, job.settings.incremental, .ofStore store, LineSink.sink⟩ () LineSink.start parts
  let texts ← sinks.mapM LineSink.text
  return (stats, texts.flatten)

def toLists (job : Job) (plan : Plan) (store : Store) (parts : List (List RowCells)) :
    Except Error (Stats × List Record × List DeleteOrder) := do
  let window ← job.window
  let (stats, sinks) ← runAll
    ⟨plan, window, job.settings.incremental, .ofStore store, KeepingSink.sink⟩ () {} parts
  return (stats, sinks.flatMap (·.records), sinks.flatMap (·.deletes))

theorem mapM_text {sinks : List LineSink.State} (h : ∀ t ∈ sinks, LineSink.IsClosed t) :
    sinks.mapM LineSink.text = .ok (sinks.map fun t => (LineSink.seen t).toList) := by
  induction sinks with
  | nil => rfl
  | cons t sinks ih =>
      rw [List.mapM_cons, LineSink.text_of_isClosed (h t List.mem_cons_self),
        ih fun t ht => h t (List.mem_cons_of_mem _ ht)]
      rfl

theorem toLines_eq (job : Job) (plan : Plan) (store : Store) (parts : List (List RowCells)) :
    toLines job plan store parts = job.window.bind fun window =>
      ((runAll ⟨plan, window, job.settings.incremental, .ofStore store, LineSink.sink⟩ ()
        LineSink.start parts).map (together LineSink.seen)).map fun p => (p.1, p.2.toList) := by
  rw [toLines]
  cases job.window with
  | error e => rfl
  | ok window =>
      simp only [Bind.bind, Except.bind]
      cases hrun : runAll ⟨plan, window, job.settings.incremental, .ofStore store, LineSink.sink⟩ ()
        LineSink.start parts with
      | error e => rfl
      | ok p =>
          have hclosed := closed_of_runAll LineSink.collects LineSink.works_start
            LineSink.seen_start rfl hrun
          simp only [mapM_text hclosed, Except.map, together, FreeAddMonoid.toList_sum,
            List.map_map]
          rfl

theorem sum_kept (sinks : List KeepingSink) : (sinks.map (·.kept)).sum =
    (.ofList (sinks.flatMap (·.records)), .ofList (sinks.flatMap (·.deletes))) := by
  induction sinks with
  | nil => rfl
  | cons t sinks ih =>
      rw [List.map_cons, List.sum_cons, ih]
      rfl

theorem toLists_eq (job : Job) (plan : Plan) (store : Store) (parts : List (List RowCells)) :
    toLists job plan store parts = job.window.bind fun window =>
      ((runAll ⟨plan, window, job.settings.incremental, .ofStore store, KeepingSink.sink⟩ ()
        {} parts).map (together (·.kept))).map fun p => (p.1, p.2.1.toList, p.2.2.toList) := by
  rw [toLists]
  cases job.window with
  | error e => rfl
  | ok window =>
      simp only [Bind.bind, Except.bind]
      cases runAll ⟨plan, window, job.settings.incremental, .ofStore store, KeepingSink.sink⟩ ()
        {} parts with
      | error e => rfl
      | ok p =>
          simp only [Except.map, together, sum_kept]
          rfl

theorem toLines_flatten (job : Job) (plan : Plan) (store : Store)
    (parts : List (List RowCells)) :
    toLines job plan store parts = toLines job plan store [parts.flatten] := by
  simp only [toLines_eq]
  refine congrArg job.window.bind (funext fun window => congrArg _ ?_)
  exact together_runAll_flatten LineSink.collects LineSink.works_start LineSink.seen_start rfl parts

theorem toLists_flatten (job : Job) (plan : Plan) (store : Store)
    (parts : List (List RowCells)) :
    toLists job plan store parts = toLists job plan store [parts.flatten] := by
  simp only [toLists_eq]
  refine congrArg job.window.bind (funext fun window => congrArg _ ?_)
  refine together_runAll_flatten KeepingSink.collects ?_ ?_ rfl parts
  · exact KeepingSink.closed_empty
  · exact KeepingSink.kept_empty

/-- Rows are cut into at most as many runs as asked for, and it does not matter where: the same
counts come out, the same lines one after another, and the same records and deletes. Only where
there are rows and more runs are asked for than a list has room for, nothing comes out. -/
theorem split_runs_as_one (job : Job) (plan : Plan) (store : Store) (rows : List RowCells)
    (count : Nat) :
    match split rows count with
    | none => ¬Fits rows count
    | some parts =>
      Fits rows count ∧ parts.length ≤ max count 1 ∧ parts.flatten = rows ∧
        toLines job plan store parts = toLines job plan store [rows] ∧
        toLists job plan store parts = toLists job plan store [rows] := by
  cases h : split rows count with
  | none => exact split_eq_none_iff.1 h
  | some parts =>
      have hrows := flatten_split h
      refine ⟨fits_of_split h, length_split_le h, hrows, ?_, ?_⟩
      · rw [toLines_flatten, hrows]
      · rw [toLists_flatten, hrows]

/-- One row, and as many runs as a word of 64 bits can ask for. -/
theorem row_in_too_many_runs : split [(⟨[107], []⟩ : RowCells)] 0xFFFFFFFFFFFFFFFF = none := by
  decide

end Partition

end WideRow
