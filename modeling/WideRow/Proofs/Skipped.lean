import WideRow.Proofs.Turns
import WideRow.Proofs.Unchanged

namespace WideRow

namespace Store

variable {s : Store} {w : Window} {row : RowCells}

theorem min_le_max_of_mem_changes (h : row ∈ s.changes w) : w.min ≤ w.max := by
  obtain ⟨⟨key, cells⟩, _, hrow⟩ := List.mem_filterMap.1 h
  simp only [row?] at hrow
  split at hrow
  next => cases hrow
  next hsome =>
    obtain ⟨x, _, hx⟩ : ∃ x, x ∈ cells ∧ w.contains x.timestamp := by simpa using hsome
    have hin := Window.contains_iff.1 hx
    omega

/-- A read of one column sees no more than what the column shows. -/
theorem scan_column_congr {key : Bytes} {a : Address} {w' : Window}
    (h : ∀ x, x.address = a → (Shown (s.cellsAt key) w x ↔ Shown (s.cellsAt key) w' x)) :
    s.scan key [.column a] w = s.scan key [.column a] w' := by
  have hvisible : visible (s.cellsAt key) w [.column a] =
      visible (s.cellsAt key) w' [.column a] := by
    refine eq_of_ascending Cell.address (visible_ascending _ _ _) (visible_ascending _ _ _)
      fun x => ?_
    rw [mem_visible, mem_visible]
    refine and_congr_right fun hasks => h x ?_
    have hmem := (asksFor_columns (List.cons_ne_nil a [])).1 hasks
    simpa using hmem
  rw [scan, scan, hvisible]

end Store

namespace ChangeSet

variable {plan : Plan} {w : Window} {row : RowCells}

theorem no_change_of_isEmpty
    (h : ofRow plan w row = .skip .unchanged ∨ ∃ c, ofRow plan w row = .ready c ∧ c.isEmpty) :
    findTombstones plan w row = .empty ∧ (byCells plan w row).groups.isEmpty := by
  have hnothing : (byCells plan w row).groups.isEmpty ∧ (byCells plan w row).deletions.isEmpty := by
    rcases ofRow_cases plan w row with ⟨t, _, hrow⟩ | ⟨_, hrow⟩
    · rw [hrow] at h
      rcases h with h | ⟨c, h, hempty⟩
      · cases h
      · cases h
        cases hempty
    · rw [hrow] at h
      split at h
      next hblank =>
        simp only [isBlank, Bool.and_eq_true] at hblank
        exact hblank.1.1
      next =>
        rcases h with h | ⟨c, h, hempty⟩
        · cases h
        · cases h
          simp only [isEmpty, Bool.and_eq_true] at hempty
          exact hempty.1
  obtain ⟨hgroups, hdeletions⟩ := hnothing
  refine ⟨eq_empty_of_latestTime? ?_, hgroups⟩
  cases hlast : latestTime? (findTombstones plan w row).values with
  | none => rfl
  | some t =>
      rw [deletions_byCells hlast] at hdeletions
      cases hdeletions

variable {s : Store} {a : Address} {g : String}

/-- No change is placed where a required family shows something else than before. -/
theorem scan_of_no_change (hrow : row ∈ s.changes w) (hmin : 1 ≤ w.min)
    (hnamed : Named plan row.cells) (hnone : findTombstones plan w row = .empty)
    (hgroups : (byCells plan w row).groups.isEmpty) (hf : a.family ∈ plan.neededFamilies)
    (hg : plan.schema.place a = .inGroup g) :
    s.scan row.key [.column a] w.toEnd = s.scan row.key [.column a] ⟨0, w.min - 1⟩ := by
  have hmax := Store.min_le_max_of_mem_changes hrow
  rw [changesAt_of_mem_changes hrow] at hnamed hnone hgroups
  refine Store.scan_column_congr fun x hx => ?_
  subst hx
  refine shown_iff_of_no_change hnamed hnone hmin hmax hf hg fun hkeys => ?_
  rw [SortedMap.isEmpty_eq_false hkeys] at hgroups
  cases hgroups

end ChangeSet

namespace Worker

variable {ρ σ : Type} {w : Worker ρ σ} {row : RowCells} {r r' : ρ} {s : Store}

theorem no_change_of_cellsOf (hincremental : w.incremental)
    (h : w.cellsOf row r = .ok (.skip .unchanged) r') :
    ChangeSet.ofRow w.plan w.window row = .skip .unchanged ∨
      ∃ c, ChangeSet.ofRow w.plan w.window row = .ready c ∧ c.isEmpty := by
  cases hready : ChangeSet.ofRow w.plan w.window row with
  | skip reason =>
      rw [cellsOf_of_skip hincremental hready] at h
      cases h
      exact .inl rfl
  | ready c =>
      by_cases hempty : c.isEmpty
      · exact .inr ⟨c, rfl, hempty⟩
      · rw [cellsOf_of_ready hincremental hready hempty] at h
        rcases complete_cases c w.source w.plan w.window row.key r with
          ⟨found, r₁, hdone, _⟩ | ⟨_, _, _, _, hfails⟩
        · rw [hdone] at h
          injection h with hskip _
          cases reason_of_conclude hskip
        · cases hfails.symm.trans h

theorem no_change_of_turn (hincremental : w.incremental) {calls : List Sink.Call}
    (h : Turn w row r r' (.skip .unchanged) calls) :
    ChangeSet.ofRow w.plan w.window row = .skip .unchanged ∨
      ∃ c, ChangeSet.ofRow w.plan w.window row = .ready c ∧ c.isEmpty := by
  cases h with
  | rejected _ hreason => simp at hreason
  | unchanged _ hcells => exact no_change_of_cellsOf hincremental hcells
  | passedOver _ _ _ hreason => simp at hreason

/-- A row that is passed over as unchanged shows in every required static column what it showed
before the window, and so it does in a required column of a group wherever the schema places that
column in a group. -/
theorem scan_of_unchanged (hplan : w.plan.Built) (hincremental : w.incremental)
    (hmin : 1 ≤ w.window.min) (hrow : row ∈ s.changes w.window)
    (hnamed : ∀ x ∈ row.cells, x.isFamilyMarker ∨ x.qualifier ≠ []) {st st' : State ρ σ}
    (hskip : w.workOn row st = .ok (.skip .unchanged) st') :
    (∀ t ∈ w.plan.neededStatics, s.scan row.key [.column t.address] w.window.toEnd =
      s.scan row.key [.column t.address] ⟨0, w.window.min - 1⟩) ∧
    ∀ d ∈ w.plan.neededDynamics, ∀ g g', w.plan.schema.place (d.addressOf g) = .inGroup g' →
      s.scan row.key [.column (d.addressOf g)] w.window.toEnd =
        s.scan row.key [.column (d.addressOf g)] ⟨0, w.window.min - 1⟩ := by
  have hworked := workOn_worked hplan.sound row st
  rw [hskip] at hworked
  cases hworked with
  | done hturn _ =>
      obtain ⟨hnone, hgroups⟩ :=
        ChangeSet.no_change_of_isEmpty (no_change_of_turn hincremental hturn)
      have hsame {a : Address} {g : String} (hf : a.family ∈ w.plan.neededFamilies)
          (hg : w.plan.schema.place a = .inGroup g) :=
        ChangeSet.scan_of_no_change hrow hmin (fun x hx _ => hnamed x hx) hnone hgroups hf hg
      constructor
      · intro t ht
        obtain ⟨hmem, hneeded⟩ := Plan.mem_needed_of_static ht
        obtain ⟨t', ht'⟩ := Schema.reading?_address hmem
        exact hsame (Plan.family_mem_neededFamilies hneeded)
          (Schema.place_eq_inGroup_iff.2 ⟨_, ht', rfl, .inl rfl⟩)
      · intro d hd g g' hg
        exact hsame (Plan.family_mem_neededFamilies (Plan.mem_needed_of_dynamic hd).2) hg

private def oddStore : Store :=
  .insertAll .empty [107] [⟨"D", 10, .put (Text.Utf8.encode "SR1") (Text.Utf8.encode "Y")⟩,
    ⟨"D", 60, .put (Text.Utf8.encode "odd") []⟩]

theorem odd_invoice_scanned_alike :
    ∃ row ∈ oddStore.changes ⟨50, 200⟩, ∃ st',
      workOn ⟨.invoices, ⟨50, 200⟩, true, .ofStore oddStore, KeepingSink.sink⟩ row
        { source := (), sink := {} } = .ok (.skip .unchanged) st' ∧
      oddStore.scan row.key [.column ⟨"D", Text.Utf8.encode "SR1"⟩] ⟨0, 200⟩ =
        oddStore.scan row.key [.column ⟨"D", Text.Utf8.encode "SR1"⟩] ⟨0, 49⟩ := by
  obtain ⟨st', hskip⟩ : ∃ st', workOn ⟨.invoices, ⟨50, 200⟩, true, .ofStore oddStore,
      KeepingSink.sink⟩ ⟨[107], [⟨"D", 60, .put (Text.Utf8.encode "odd") []⟩]⟩
      { source := (), sink := {} } = .ok (.skip .unchanged) st' := ⟨_, rfl⟩
  refine ⟨_, by decide, st', hskip, ?_⟩
  exact (scan_of_unchanged (s := oddStore) Plan.invoices_built rfl (by decide) (by decide)
    (by decide) hskip).1 ⟨"D", Text.Utf8.encode "SR1", "SR1", .string⟩ (by decide)

/-- Lines of two components. What reads as an item of one may also be named as a line. -/
private def crossed : Plan where
  schema := ⟨⟨"|", [⟨"id", .plain, .string⟩]⟩, [],
    [⟨"D", "RC", "RC", "", ⟨["line", "part"], some "|"⟩, .string⟩,
      ⟨"D", "RX", "RCx|", "", ⟨["line", "part"], some "|"⟩, .string⟩]⟩
  selection := [⟨"D", "RC"⟩, ⟨"D", "RX"⟩]
  predicate := none
  documents := []

private def crossedStore : Store :=
  .insertAll .empty [107] [⟨"D", 60, .put (Text.Utf8.encode "RCx|y") (Text.Utf8.encode "a")⟩]

/-- A column of a group that splits, under a qualifier that the schema reads as another column of a
group that does not: the row is passed over as unchanged, while the column shows a new value. -/
theorem crossed_line_changes_unseen :
    crossed.Built ∧ crossed.schema.splits "x|y" ∧
      (∃ row ∈ crossedStore.changes ⟨50, 200⟩,
        (∀ x ∈ row.cells, x.isFamilyMarker ∨ x.qualifier ≠ []) ∧
        (∃ st', workOn ⟨crossed, ⟨50, 200⟩, true, .ofStore crossedStore, KeepingSink.sink⟩ row
          { source := (), sink := {} } = .ok (.skip .unchanged) st') ∧
        ∃ d ∈ crossed.neededDynamics,
          crossedStore.scan row.key [.column (d.addressOf "x|y")] ⟨0, 200⟩ ≠
            crossedStore.scan row.key [.column (d.addressOf "x|y")] ⟨0, 49⟩) := by
  have hbuilt : crossed.Built :=
    ⟨rfl, rfl, [.ofColumn ⟨"D", "RC"⟩, .ofColumn ⟨"D", "RX"⟩], none, [], rfl⟩
  refine ⟨hbuilt, by decide,
    ⟨[107], [⟨"D", 60, .put (Text.Utf8.encode "RCx|y") (Text.Utf8.encode "a")⟩]⟩, by decide,
    by decide, ⟨_, rfl⟩, ⟨"D", "RC", "RC", "", ⟨["line", "part"], some "|"⟩, .string⟩, ?_, ?_⟩
  · decide
  · decide

end Worker

end WideRow
