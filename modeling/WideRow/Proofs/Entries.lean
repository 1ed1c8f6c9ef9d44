import Mathlib.Data.Finset.Card
import WideRow.Proofs.Dropped
import WideRow.Sink.Lines

namespace WideRow

theorem Action.bind_eq_ok {σ α β : Type} {a : Action σ α} {f : α → Action σ β} {s s'' : σ} {y : β}
    (h : (a >>= f) s = .ok y s'') : ∃ x s', a s = .ok x s' ∧ f x s' = .ok y s'' := by
  simp only [Bind.bind, EStateM.bind] at h
  cases ha : a s with
  | ok x s' =>
      rw [ha] at h
      exact ⟨x, s', rfl, h⟩
  | error e s' =>
      rw [ha] at h
      cases h

theorem Action.ofExcept_eq_ok {σ α : Type} {r : Except Error α} {x : α} {s s' : σ}
    (h : (MonadExcept.ofExcept r : Action σ α) s = .ok x s') : r = .ok x ∧ s' = s := by
  cases r <;> cases h
  exact ⟨rfl, rfl⟩

section Sets

variable {κ : Type} [Ord κ] [Std.TransOrd κ] [DecidableEq κ]

def SortedSet.toFinset (s : SortedSet κ) : Finset κ := s.members.toFinset

theorem SortedSet.card_toFinset (s : SortedSet κ) : s.toFinset.card = s.size := by
  have hnodup : s.members.Nodup := nodup_of_ascending id (SortedMap.keys_ascending s)
  rw [toFinset, List.toFinset_card_of_nodup hnodup]
  exact List.length_map _

theorem SortedSet.toFinset_union [Std.LawfulEqOrd κ] (s t : SortedSet κ) :
    (union s t).toFinset = s.toFinset ∪ t.toFinset := by
  ext k
  simp only [toFinset, List.mem_toFinset, Finset.mem_union, members, SortedMap.mem_keys, union,
    get?_foldl_add]
  split
  next h => simp [h]
  next h => simp [h]

end Sets

namespace Sink

variable {σ : Type}

def deleted (calls : List Call) : List DeleteOrder :=
  calls.flatMap fun
    | .delete rows => rows
    | _ => []

theorem deleted_append (calls calls' : List Call) :
    deleted (calls ++ calls') = deleted calls ++ deleted calls' := List.flatMap_append

def Tallies (sink : Sink σ) : Prop :=
  ∀ rows t n t', sink.delete rows t = .ok n t' →
    n.key = rows.countP (·.reach == .key) ∧ n.group = rows.countP (·.reach != .key)

end Sink

theorem DeleteCounts.group_ofRows (rows : List DeleteOrder) :
    (ofRows rows).group = rows.countP (·.reach != .key) := by
  have h := List.length_eq_countP_add_countP (fun d : DeleteOrder => d.reach == .key) (l := rows)
  have hnot : rows.countP (fun d => decide ¬(d.reach == .key) = true) =
      rows.countP (·.reach != .key) := List.countP_congr fun d _ => by simp
  simp only [ofRows]
  omega

theorem DeleteCounts.eq_ofRows {σ : Type} {sink : Sink σ} (h : sink.Tallies)
    {rows : List DeleteOrder} {n : DeleteCounts} {t t' : σ} (hn : sink.delete rows t = .ok n t') :
    n = ofRows rows := by
  obtain ⟨hkey, hgroup⟩ := h rows t n t' hn
  obtain ⟨key, group⟩ := n
  have hsecond : group = (ofRows rows).group := hgroup.trans (group_ofRows rows).symm
  cases hkey
  cases hsecond
  rfl

theorem KeepingSink.tallies : KeepingSink.sink.Tallies := by
  intro rows t n t' h
  cases hclosed : t.closed with
  | true =>
      obtain ⟨records, deletes, flushes, closed⟩ := t
      cases hclosed
      cases h
  | false =>
      cases (whenOpen_eq_ok hclosed).symm.trans h
      exact ⟨rfl, DeleteCounts.group_ofRows rows⟩

theorem LineSink.tallies : LineSink.sink.Tallies := by
  intro rows t n t' h
  obtain ⟨_, _, _, hpure⟩ := Action.bind_eq_ok h
  cases hpure
  exact ⟨rfl, DeleteCounts.group_ofRows rows⟩

def Outcome.recordCount : Outcome Nat → Nat
  | ready n => n
  | skip _ => 0

def Stats.withOutcome (s : Stats) : Outcome Nat → Stats
  | .ready n => s.withRecords n
  | .skip reason => s.withSkip reason

def Stats.withEntry (s : Stats) (read : Read) (columns groups : Nat) (deletes : DeleteCounts)
    (o : Outcome Nat) : Stats :=
  (((s.withRow.withRead read).withDropped columns groups).withDeletes deletes).withOutcome o

namespace Worker

variable {ρ σ α : Type} {sink : Sink σ} {st st₁ st₂ : Logged ρ σ} {calls calls' : List Sink.Call}
  {f g : Stats → Stats}

/-- From one state to the other these calls are made and so much is counted, and nothing is
read. -/
structure Books (st st₁ : Logged ρ σ) (calls : List Sink.Call) (f : Stats → Stats) : Prop where
  source : st₁.source = st.source
  log : st₁.sink.1 = st.sink.1 ++ calls
  stats : st₁.stats = f st.stats

theorem Books.trans (h : Books st st₁ calls f) (h' : Books st₁ st₂ calls' g) :
    Books st st₂ (calls ++ calls') (g ∘ f) where
  source := h'.source.trans h.source
  log := by rw [h'.log, h.log, List.append_assoc]
  stats := by rw [h'.stats, h.stats, Function.comp_apply]

theorem books_count {x : Unit} (h : count f st = .ok x st₁) : Books st st₁ [] f := by
  cases h
  exact ⟨rfl, (List.append_nil _).symm, rfl⟩

theorem books_warn {warnings : List Warning} {x : Unit} (h : warn warnings st = .ok x st₁) :
    Books st st₁ [] id := by
  cases h
  exact ⟨rfl, (List.append_nil _).symm, rfl⟩

theorem books_skip {reason : Skip} {o : Outcome Nat} (h : skip reason st = .ok o st₁) :
    o = .skip reason ∧ Books st st₁ [] (·.withSkip reason) := by
  cases h
  exact ⟨rfl, rfl, (List.append_nil _).symm, rfl⟩

theorem books_report {schema : Schema} {key : Bytes} {d : Dropped} {x : Unit}
    (h : report schema key d st = .ok x st₁) :
    Books st st₁ [] (·.withDropped d.columns.size d.groups.size) := by
  obtain ⟨_, _, hcount, hwarn⟩ := Action.bind_eq_ok h
  exact (books_count hcount).trans (books_warn hwarn)

theorem books_record {call : Sink.Call} {a : Action σ α} {x : α}
    (h : onSink (Sink.record call a) st = .ok x st₁) :
    Books st st₁ [call] id ∧ ∃ t t', a t = .ok x t' := by
  simp only [onSink, Action.within, Sink.record_eq] at h
  cases ha : a st.sink.2 with
  | ok y t' =>
      rw [ha] at h
      cases h
      exact ⟨⟨rfl, rfl, rfl⟩, _, _, ha⟩
  | error e t' =>
      rw [ha] at h
      cases h

variable {w : Worker ρ (List Sink.Call × σ)} (hw : w.sink = sink.recorded)
include hw

theorem books_writeAll {records : List Record} {x : Unit}
    (h : w.writeAll records st = .ok x st₁) : Books st st₁ (records.map .write) id := by
  induction records generalizing st with
  | nil =>
      cases h
      exact ⟨rfl, (List.append_nil _).symm, rfl⟩
  | cons r rs ih =>
      rw [writeAll, List.forM_eq_forM, List.forM_cons] at h
      obtain ⟨_, st', hone, hrest⟩ := Action.bind_eq_ok h
      obtain ⟨_, _, hwrite, hpure⟩ := Action.bind_eq_ok hone
      cases hpure
      rw [hw, Sink.recorded_eq] at hwrite
      exact (books_record hwrite).1.trans (ih hrest)

variable (htallies : sink.Tallies)
include htallies

theorem books_deleteAll {rows : List DeleteOrder} {x : Unit}
    (h : w.deleteAll rows st = .ok x st₁) :
    Books st st₁ [.delete rows] (·.withDeletes (.ofRows rows)) := by
  obtain ⟨n, st', hdelete, hcount⟩ := Action.bind_eq_ok h
  rw [hw, Sink.recorded_eq] at hdelete
  obtain ⟨hbooks, t, t', hn⟩ := books_record hdelete
  rw [← DeleteCounts.eq_ofRows htallies hn]
  exact hbooks.trans (books_count hcount)

theorem books_deliver {deletes : List DeleteOrder} {records : List Record} {x : Unit}
    (h : w.deliver deletes records st = .ok x st₁) :
    Books st st₁ (handover deletes records)
      fun s => (s.withDeletes (.ofRows deletes)).withRecords records.length := by
  have htail {st : Logged ρ σ} (h : (do
      w.writeAll records
      count (·.withRecords records.length)
      onSink w.sink.flush) st = .ok x st₁) :
      Books st st₁ (records.map .write ++ [.flush]) (·.withRecords records.length) := by
    obtain ⟨_, _, hwrite, h⟩ := Action.bind_eq_ok h
    obtain ⟨_, _, hcount, hflush⟩ := Action.bind_eq_ok h
    rw [hw, Sink.recorded_eq] at hflush
    have hcounted := (books_writeAll hw hwrite).trans (books_count hcount)
    rw [List.append_nil] at hcounted
    exact hcounted.trans (books_record hflush).1
  rw [handover, List.append_assoc]
  cases deletes with
  | nil => exact htail h
  | cons d ds =>
      obtain ⟨_, _, hdelete, h⟩ := Action.bind_eq_ok h
      exact (books_deleteAll hw htallies hdelete).trans (htail h)

def strayCells (plan : Plan) (key : List Field) : Outcome (List Cell) → SortedSet Address
  | .ready cells => (RowFields.ofCells plan.schema key cells).unrecognized
  | .skip _ => .empty

omit hw htallies in
theorem columns_dropped_finish (plan : Plan) (rowKey : Bytes) (key : List Field)
    (cells : Outcome (List Cell)) :
    (finish plan rowKey key cells).dropped.columns = strayCells plan key cells := by
  cases cells with
  | skip reason => rfl
  | ready cells =>
      simp only [finish, finishRow]
      split <;> rfl

theorem books_conclude {rowKey : Bytes} {key : List Field} {deletions : List Deletion}
    {dropped : Dropped} {cells : Outcome (List Cell)} {o : Outcome Nat}
    (h : w.conclude rowKey key deletions dropped cells st = .ok o st₁) :
    ∃ deletes records groups, records.length = o.recordCount ∧
      Books st st₁ (handover deletes records) fun s =>
        ((s.withDropped (dropped.columns.union (strayCells w.plan key cells)).size
          groups).withDeletes (.ofRows deletes)).withOutcome o := by
  obtain ⟨_, _, hwarn, hmade⟩ := Action.bind_eq_ok h
  obtain ⟨_, _, hreport, hmade⟩ := Action.bind_eq_ok hmade
  obtain ⟨outcome, _, hrecords, hmade⟩ := Action.bind_eq_ok hmade
  obtain ⟨deletes, _, hdeletes, houtcome⟩ := Action.bind_eq_ok hmade
  -- records and deletes are made without any effect
  obtain ⟨_, rfl⟩ := Action.ofExcept_eq_ok hrecords
  obtain ⟨_, rfl⟩ := Action.ofExcept_eq_ok hdeletes
  have hdropped := (books_warn hwarn).trans (books_report hreport)
  rw [← columns_dropped_finish w.plan rowKey key cells]
  cases outcome with
  | ready records =>
      obtain ⟨_, _, hdeliver, hpure⟩ := Action.bind_eq_ok houtcome
      cases hpure
      exact ⟨deletes, records, _, rfl, hdropped.trans (books_deliver hw htallies hdeliver)⟩
  | skip reason =>
      obtain ⟨_, _, hdeliver, hskip⟩ := Action.bind_eq_ok houtcome
      obtain ⟨rfl, hcounted⟩ := books_skip hskip
      have hhanded := (books_deliver hw htallies hdeliver).trans hcounted
      rw [List.append_nil] at hhanded
      exact ⟨deletes, [], _, rfl, hdropped.trans hhanded⟩

end Worker

namespace Worker

variable {ρ σ : Type} {source : Source ρ} {sink : Sink σ}

theorem deleted_handover (deletes : List DeleteOrder) (records : List Record) :
    Sink.deleted (handover deletes records) = deletes := by
  have hnone : Sink.deleted (records.map .write) = [] := by
    induction records with
    | nil => rfl
    | cons r rs ih => exact ih
  rw [handover, Sink.deleted_append, Sink.deleted_append, hnone]
  cases deletes <;> simp [Sink.deleted]

def strayChanges (w : Worker ρ σ) (row : RowCells) : SortedSet Address :=
  if w.incremental then
    match ChangeSet.ofRow w.plan w.window row with
    | .ready c => c.unrecognized
    | .skip _ => .empty
  else .empty

def strays (w : Worker ρ σ) (row : RowCells) (r : ρ) : Finset Address :=
  match screen w.plan row.key with
  | .skip _ => ∅
  | .ready key => (w.strayChanges row).toFinset ∪
    match w.cellsOf row r with
    | .ok cells _ => (strayCells w.plan key cells).toFinset
    | .error _ _ => ∅

/-- Of the changes those are dropped that take part, and of the cells the values; in both cases for
a column that the schema does not read. -/
theorem mem_strays {w : Worker ρ σ} {row : RowCells} {r : ρ} {a : Address} :
    a ∈ w.strays row r ↔
      w.plan.schema.reading? a = none ∧ ∃ key, screen w.plan row.key = .ready key ∧
        ((w.incremental ∧ ∃ c, ChangeSet.ofRow w.plan w.window row = .ready c ∧ c.LooksAtCells ∧
            ∃ x ∈ row.cells, ChangeSet.takesPart w.window
              (ChangeSet.findTombstones w.plan w.window row) x ∧ x.address = a) ∨
          ∃ cells r', w.cellsOf row r = .ok (.ready cells) r' ∧
            ∃ x ∈ cells, x.isPut ∧ x.address = a) := by
  have hchanges : a ∈ (w.strayChanges row).members ↔
      w.plan.schema.reading? a = none ∧ w.incremental ∧
        ∃ c, ChangeSet.ofRow w.plan w.window row = .ready c ∧ c.LooksAtCells ∧
          ∃ x ∈ row.cells, ChangeSet.takesPart w.window
            (ChangeSet.findTombstones w.plan w.window row) x ∧ x.address = a := by
    rw [strayChanges]
    cases w.incremental with
    | false => exact iff_of_false nofun (by simp)
    | true =>
        cases hready : ChangeSet.ofRow w.plan w.window row with
        | skip reason => exact iff_of_false nofun (by simp)
        | ready c => simp [ChangeSet.mem_unrecognized_of_ready hready, and_left_comm]
  have hcells (key : List Field) :
      a ∈ (match w.cellsOf row r with
        | .ok cells _ => (strayCells w.plan key cells).toFinset
        | .error _ _ => (∅ : Finset Address)) ↔
      w.plan.schema.reading? a = none ∧ ∃ cells r', w.cellsOf row r = .ok (.ready cells) r' ∧
        ∃ x ∈ cells, x.isPut ∧ x.address = a := by
    cases w.cellsOf row r with
    | error e r' => simp
    | ok o r' =>
        cases o with
        | skip reason => exact iff_of_false nofun (by simp)
        | ready cells =>
            simp only [strayCells, SortedSet.toFinset, List.mem_toFinset,
              RowFields.mem_unrecognized]
            simp
  rw [strays]
  cases hkey : screen w.plan row.key with
  | skip reason => simp
  | ready key =>
      rw [Finset.mem_union, hcells, SortedSet.toFinset, List.mem_toFinset, hchanges,
        ← and_or_left]
      simp

/-- What stands in the counts for one row, and what it stands for. -/
structure Entry (w : Worker (Nat × ρ) (List Sink.Call × σ)) (row : RowCells) (o : Outcome Nat)
    (st st₁ : Logged (Nat × ρ) σ) (read : Read) (groups : Nat) (calls : List Sink.Call) :
    Prop where
  stats : st₁.stats = st.stats.withEntry read (w.strays row st.source).card groups
    (.ofRows (Sink.deleted calls)) o
  records : (Sink.written calls).length = o.recordCount
  log : st₁.sink.1 = st.sink.1 ++ calls
  reads : st₁.source.1 = st.source.1 + if read = .nothing then 0 else 1

variable {w : Worker (Nat × ρ) (List Sink.Call × σ)} {row : RowCells} {o : Outcome Nat}
  {st st₁ st₂ : Logged (Nat × ρ) σ} {read : Read} {groups : Nat} {key : List Field}

theorem entry_of_skip {reason : Skip} (hstrays : (w.strays row st.source).card = 0)
    (h : skip reason { st with stats := st.stats.withRow } = .ok o st₁) :
    Entry w row o st st₁ .nothing 0 [] := by
  obtain ⟨rfl, hbooks⟩ := books_skip h
  refine ⟨?_, rfl, hbooks.log, by rw [hbooks.source]; rfl⟩
  rw [hstrays]
  exact hbooks.stats

theorem exists_entry_of_conclude (hw : w.sink = sink.recorded) (htallies : sink.Tallies)
    {deletions : List Deletion} {dropped : Dropped} {cells : Outcome (List Cell)}
    (h : w.conclude row.key key deletions dropped cells st₂ = .ok o st₁)
    (hkey : screen w.plan row.key = .ready key)
    (hcells : w.cellsOf row st.source = .ok cells st₂.source)
    (hdropped : dropped.columns = w.strayChanges row)
    (hreads : st₂.source.1 = st.source.1 + if read = .nothing then 0 else 1)
    (hlog : st₂.sink.1 = st.sink.1) (hstats : st₂.stats = st.stats.withRow.withRead read) :
    ∃ groups calls, Entry w row o st st₁ read groups calls := by
  obtain ⟨deletes, records, groups, hcount, hbooks⟩ := books_conclude hw htallies h
  have hstrays : (w.strays row st.source).card =
      (SortedSet.union dropped.columns (strayCells w.plan key cells)).size := by
    rw [← SortedSet.card_toFinset, SortedSet.toFinset_union, hdropped, strays, hkey]
    simp only [hcells]
  refine ⟨groups, handover deletes records, ?_, ?_, ?_, ?_⟩
  · rw [hbooks.stats, hstats, hstrays, deleted_handover, Stats.withEntry]
  · rw [written_handover, hcount]
  · rw [hbooks.log, hlog]
  · rw [hbooks.source, hreads]

theorem exists_entry_of_changes (hreader : w.source = source.counted)
    (hw : w.sink = sink.recorded) (htallies : sink.Tallies)
    (hkey : screen w.plan row.key = .ready key) (hi : w.incremental = true) {c : ChangeSet}
    (hready : ChangeSet.ofRow w.plan w.window row = .ready c)
    (h : w.workOnChanges row key c { st with stats := st.stats.withRow } = .ok o st₁) :
    ∃ read groups calls, Entry w row o st st₁ read groups calls := by
  have hchanges : w.strayChanges row = c.unrecognized := by simp [strayChanges, hi, hready]
  rw [workOnChanges] at h
  split at h
  next hempty =>
    -- nothing is read for such a row, but what its changes drop is counted
    obtain ⟨_, _, hreport, hskip⟩ := Action.bind_eq_ok h
    obtain ⟨rfl, hcounted⟩ := books_skip hskip
    have hbooks := (books_report hreport).trans hcounted
    have hcells : w.cellsOf row st.source = .ok (.skip .unchanged) st.source :=
      congrFun (cellsOf_of_isEmpty hi hready hempty) st.source
    have hstrays : (w.strays row st.source).card = c.unrecognized.size := by
      rw [← SortedSet.card_toFinset, strays, hkey, hchanges]
      simp only [hcells]
      exact congrArg Finset.card (Finset.union_empty _)
    refine ⟨.nothing, c.unsplit.size, [], ?_, rfl, hbooks.log, by rw [hbooks.source]; rfl⟩
    rw [hstrays]
    exact hbooks.stats
  next hempty =>
    have hread := cellsOf_of_ready hi hready hempty
    rw [count_bind, onSource_bind] at h
    have hreads := c.reads_of_complete source w.plan w.window row.key st.source
    rw [← hreader] at hreads
    dsimp only at h
    cases hcomplete : c.complete w.source w.plan w.window row.key st.source with
    | error e r =>
        rw [hcomplete] at h
        cases h
    | ok cells r =>
        rw [hcomplete] at h hreads
        have hdone : w.conclude row.key key c.deletions ⟨c.unrecognized, c.unsplit⟩ cells
            { st with source := r, stats := st.stats.withRow.withRead c.read } = .ok o st₁ := h
        exact ⟨c.read, exists_entry_of_conclude hw htallies hdone hkey (hread ▸ hcomplete)
          hchanges.symm hreads rfl rfl⟩

theorem exists_entry (hreader : w.source = source.counted) (hw : w.sink = sink.recorded)
    (htallies : sink.Tallies) (h : w.workOn row st = .ok o st₁) :
    ∃ read groups calls, Entry w row o st st₁ read groups calls := by
  rw [workOn_eq] at h
  cases hkey : screen w.plan row.key with
  | skip reason =>
      rw [hkey] at h
      exact ⟨_, _, _, entry_of_skip (by simp [strays, hkey]) h⟩
  | ready key =>
      rw [hkey] at h
      cases hi : w.incremental with
      | false =>
          rw [hi] at h
          have hcells := congrFun (cellsOf_of_full hi row) st.source
          have hnone : w.strayChanges row = .empty := by simp [strayChanges, hi]
          have hdone : w.conclude row.key key [] {} (.ready row.cells)
              { st with stats := st.stats.withRow } = .ok o st₁ := h
          exact ⟨.nothing, exists_entry_of_conclude hw htallies hdone hkey hcells hnone.symm rfl
            rfl rfl⟩
      | true =>
          rw [hi] at h
          cases hready : ChangeSet.ofRow w.plan w.window row with
          | skip reason =>
              rw [hready] at h
              have hcells : w.cellsOf row st.source = .ok (.skip reason) st.source :=
                congrFun (cellsOf_of_skip hi hready) st.source
              have hstrays : w.strays row st.source = ∅ := by
                simp only [strays, hkey, hcells, strayChanges, hi, hready]
                rfl
              exact ⟨_, _, _, entry_of_skip (by rw [hstrays, Finset.card_empty]) h⟩
          | ready c =>
              rw [hready] at h
              exact exists_entry_of_changes hreader hw htallies hkey hi hready h

end Worker

end WideRow
