import WideRow.Proofs.ChangedColumns
import WideRow.Proofs.Handover
import WideRow.Proofs.Rescan

namespace WideRow

namespace Worker

variable {plan : Plan} {s : Store} {key : Bytes} {fields : List Field} {last : Nat} {x : Cell}

/-- No marker of a family is stored, and the ids of all dynamic columns split. -/
structure Plain (plan : Plan) (cells : List Cell) : Prop where
  markers : ∀ x ∈ cells, x.isFamilyMarker = false
  splits : ∀ x ∈ cells, ∀ d g, plan.schema.reading? x.address = some (.dynamic d g) →
    plan.schema.splits g

theorem Plain.placed (h : Plain plan (s.cellsAt key)) (hx : x ∈ s.cellsAt key)
    (hr : (plan.schema.reading? x.address).isSome) :
    ∃ g, plan.schema.place x.address = .inGroup g := by
  obtain ⟨r, hr⟩ := Option.isSome_iff_exists.1 hr
  refine ⟨r.group, Schema.place_eq_inGroup_iff.2 ⟨r, hr, rfl, ?_⟩⟩
  cases r with
  | static t => exact .inl rfl
  | dynamic d g => exact .inr (h.splits x hx d g hr)

theorem Plain.findTombstones (h : Plain plan (s.cellsAt key)) {w : Window} {row : RowCells}
    (hrow : ∀ x ∈ row.cells, x ∈ s.cellsAt key) :
    ChangeSet.findTombstones plan w row = .empty := by
  refine SortedMap.ext_get? fun family => ?_
  rw [ChangeSet.get?_findTombstones, SortedMap.get?_empty]
  split
  next =>
    cases hm : row.familyMarker? family with
    | none => simp [ChangeSet.tombstone?, hm]
    | some m =>
        have hmem := (Cell.mem_atAddress.1 (Cell.latest?_spec hm).1).1
        simp [ChangeSet.tombstone?, hm, h.markers m (hrow m hmem)]
  next => rfl

theorem Plain.covered (h : Plain plan (s.cellsAt key)) (w : Window) (family : String) :
    ChangeSet.Covered w .empty (s.cellsAt key) family := by
  intro m hm hmark
  rw [h.markers m hm] at hmark
  cases hmark

theorem Plain.mem_takingPart (h : Plain plan (s.cellsAt key)) {w : Window} :
    x ∈ ChangeSet.takingPart w .empty (s.cellsAt key) ↔
      x ∈ s.cellsAt key ∧ w.contains x.timestamp := by
  rw [ChangeSet.mem_takingPart]
  constructor
  · rintro ⟨hx, hw, _⟩
    exact ⟨hx, hw⟩
  · rintro ⟨hx, hw⟩
    exact ⟨hx, hw, h.markers x hx, nofun⟩

theorem Plain.isNew (h : Plain plan (s.cellsAt key))
    (hshown : Shown (s.cellsAt key) ⟨0, last⟩ x)
    (hr : (plan.schema.reading? x.address).isSome) :
    x ∈ ChangeSet.takingPart ⟨0, last⟩ .empty (s.cellsAt key) ∧
      ∃ g, plan.schema.place x.address = .inGroup g :=
  ⟨h.mem_takingPart.2 ⟨hshown.1, hshown.contains⟩, h.placed hshown.1 hr⟩

theorem Plain.fieldsOf_of_no_groups (h : Plain plan (s.cellsAt key))
    (hempty : (ChangeSet.gather (ChangeSet.inGroups plan.schema
      (ChangeSet.takingPart ⟨0, last⟩ .empty (s.cellsAt key)))).isEmpty) :
    RowFields.fieldsOf plan.schema (s.wholeRow key ⟨0, last⟩) = [] := by
  refine List.eq_nil_iff_forall_not_mem.2 fun f hf => ?_
  obtain ⟨x, hx, _, r, hr, _⟩ := RowFields.mem_fieldsOf.1 hf
  rw [Store.wholeRow_eq, mem_visible_all] at hx
  obtain ⟨hpart, g, hg⟩ := h.isNew hx (Option.isSome_of_eq_some hr)
  have hput := (ChangeSet.get?_putsOf_eq_some_iff (h.covered ⟨0, last⟩ x.address.family)).2
    ⟨rfl, hg, hpart, hx⟩
  rw [ChangeSet.putsOf, SortedMap.isEmpty_iff.1 hempty g] at hput
  cases hput

theorem putOut_of_rescan (hplan : plan.Sound) (hdyn : RowOutput.Dynamic plan) (w : Window) :
    RowOutput.putOut plan fields
        (visible (s.cellsAt key) w (plan.neededFamilies.map .family)) =
      RowOutput.putOut plan fields (s.wholeRow key w) := by
  rw [RowOutput.putOut_eq hplan, RowOutput.putOut_eq hplan, Store.wholeRow_eq,
    RowOutput.offered_required hplan (RowOutput.groupsHeld_of_dynamic hplan.schema hdyn _ _)]

/-- What a change set of a plain row ends with puts out what the latest values of the row do. -/
theorem Plain.records_conclude (hplan : plan.Sound) (h : Plain plan (s.cellsAt key))
    {c : ChangeSet} (hc : c = ChangeSet.ofCells plan .empty false none
      (ChangeSet.takingPart ⟨0, last⟩ .empty (s.cellsAt key))) :
    RowOutput.recordsOf (settledOf plan fields (c.conclude ((c.request? plan).bind fun targets =>
        s.scan key targets (Window.toEnd ⟨0, last⟩)))) =
      RowOutput.putOut plan fields (s.wholeRow key ⟨0, last⟩) := by
  have hcomplete := c.complete_ofStore s plan ⟨0, last⟩ key
  cases hm : c.mustRescan with
  | true =>
      have hdyn : RowOutput.Dynamic plan := by
        subst hc
        exact RowOutput.dynamic_of_readsHiddenStatic (Bool.and_eq_true_iff.1 hm).1
      rw [← putOut_of_rescan hplan hdyn]
      cases hL : c.conclude ((c.request? plan).bind fun targets =>
          s.scan key targets (Window.toEnd ⟨0, last⟩)) with
      | ready L =>
          rw [hL] at hcomplete
          rw [ChangeSet.conclude_of_mustRescan hm hcomplete]
          rfl
      | skip reason =>
          have hscan := s.elim_scan key (plan.neededFamilies.map .family) ⟨0, last⟩
          simp only [ChangeSet.conclude, ChangeSet.request?, ChangeSet.read, hm, if_true,
            Option.bind_some] at hL
          split at hL
          next => cases hL
          next hnone =>
            have hnil : visible (s.cellsAt key) ⟨0, last⟩ (plan.neededFamilies.map .family) =
                [] := by
              rw [← hscan]
              exact congrArg (Option.elim · [] (·.cells)) hnone
            rw [hnil]
            exact (RowOutput.putOut_of_no_fields hplan rfl).symm
  | false =>
      obtain ⟨L, hL⟩ : ∃ L, c.conclude ((c.request? plan).bind fun targets =>
          s.scan key targets (Window.toEnd ⟨0, last⟩)) = .ready L :=
        ⟨_, ChangeSet.conclude_eq_ready hm _⟩
      rw [hL] at hcomplete ⊢
      have hfields : RowFields.fieldsOf plan.schema L =
          RowFields.fieldsOf plan.schema (s.wholeRow key ⟨0, last⟩) := by
        rw [Store.wholeRow_eq]
        refine RowFields.fieldsOf_congr (ChangeSet.completed_ascending hcomplete)
          (visible_ascending _ _ _) fun x hx => ?_
        rw [ChangeSet.mem_completed_iff hc hm hcomplete (h.covered _ _), mem_visible_all]
        exact and_iff_left_iff_imp.2 fun hshown => .inr (h.isNew hshown hx)
      have hrecords : RowOutput.putOut plan fields L =
          RowOutput.putOut plan fields (s.wholeRow key ⟨0, last⟩) := by
        rw [RowOutput.putOut_eq hplan, RowOutput.putOut_eq hplan, RowOutput.offered_congr hfields]
      exact hrecords

theorem isEmpty_of_no_groups {c : ChangeSet} {cells : List Cell}
    (hc : c = ChangeSet.ofCells plan .empty false none cells) (h : c.groups.isEmpty) :
    c.isEmpty := by
  have hget := SortedMap.isEmpty_iff.1 h
  have hnone : c.deletions = [] := by
    refine List.eq_nil_iff_forall_not_mem.2 fun d hd => ?_
    rw [hc] at hd hget
    obtain ⟨g, diff, hdiff, _⟩ := ChangeSet.mem_deletionsOf hd
    cases (hget g).symm.trans hdiff
  have hrescan : c.mustRescan = false := by
    rw [hc] at hget ⊢
    refine Bool.and_eq_false_iff.2 (.inr ?_)
    rw [SortedMap.contains]
    exact Option.isSome_eq_false_iff.2 (Option.isNone_iff_eq_none.2 (hget noGroup))
  simp [ChangeSet.isEmpty, h, hnone, hrescan]

theorem Plain.records_ofChanges (hplan : plan.Sound) (h : Plain plan (s.cellsAt key))
    {row : RowCells} (hkey : row.key = key)
    (hrow : row.cells = (s.cellsAt key).filter fun x => Window.contains ⟨0, last⟩ x.timestamp) :
    RowOutput.recordsOf (ofChanges plan ⟨0, last⟩ s fields row) =
      RowOutput.putOut plan fields (s.wholeRow key ⟨0, last⟩) := by
  have htomb : ChangeSet.findTombstones plan ⟨0, last⟩ row = .empty :=
    h.findTombstones fun x hx => (List.mem_filter.1 (hrow ▸ hx)).1
  rw [ofChanges, ChangeSet.ofRow_of_no_tombstones htomb, hrow, hkey]
  obtain ⟨c, hc⟩ : ∃ c, c = ChangeSet.ofCells plan .empty false none
      (ChangeSet.takingPart ⟨0, last⟩ .empty (s.cellsAt key)) := ⟨_, rfl⟩
  rw [ChangeSet.takingPart] at hc
  rw [← hc]
  cases hgroups : c.groups.isEmpty with
  | true =>
      have hnothing : RowOutput.putOut plan fields (s.wholeRow key ⟨0, last⟩) = [] := by
        refine RowOutput.putOut_of_no_fields hplan (h.fieldsOf_of_no_groups ?_)
        rw [hc] at hgroups
        exact hgroups
      rw [hnothing]
      split
      next => rfl
      next heq =>
        split at heq
        next => cases heq
        next =>
          cases heq
          rw [if_pos (isEmpty_of_no_groups hc hgroups)]
          rfl
  | false =>
      have hblank : c.isBlank = false := by simp [ChangeSet.isBlank, hgroups]
      have hempty : c.isEmpty = false := by simp [ChangeSet.isEmpty, hgroups]
      rw [hblank, if_neg Bool.false_ne_true]
      dsimp only
      rw [hempty, if_neg Bool.false_ne_true]
      exact h.records_conclude hplan hc

theorem flatMap_filterMap {α β γ : Type} (f : α → Option β) (g : β → List γ) (xs : List α) :
    (xs.filterMap f).flatMap g = xs.flatMap fun x => (f x).elim [] g := by
  induction xs with
  | nil => rfl
  | cons x xs ih =>
      rw [List.flatMap_cons, ← ih]
      cases hx : f x with
      | none => rw [List.filterMap_cons_none hx]; rfl
      | some y => rw [List.filterMap_cons_some hx]; rfl

variable {σ : Type} {w w' : Worker Unit (List Sink.Call × σ)}

theorem handed_changes (hplan : plan.Sound) (h : Plain plan (s.cellsAt key)) (hw : w.plan = plan)
    (hwindow : w.window = ⟨0, last⟩) (hi : w.incremental = true)
    (hscreen : screen plan key = .ready fields) :
    (Store.row? key ((s.cellsAt key).filter fun x =>
      Window.contains ⟨0, last⟩ x.timestamp)).elim [] (handed w s) =
        RowOutput.putOut plan fields (s.wholeRow key ⟨0, last⟩) := by
  rw [Store.row?]
  split
  next hnil =>
    have hempty : s.wholeRow key ⟨0, last⟩ = [] := by
      refine List.eq_nil_iff_forall_not_mem.2 fun x hx => ?_
      rw [Store.wholeRow_eq, mem_visible_all] at hx
      have hmem : x ∈ (s.cellsAt key).filter fun x => Window.contains ⟨0, last⟩ x.timestamp :=
        List.mem_filter.2 ⟨hx.1, hx.contains⟩
      rw [List.isEmpty_iff.1 hnil] at hmem
      cases hmem
    rw [hempty]
    exact (RowOutput.putOut_of_no_fields hplan rfl).symm
  next =>
    rw [Option.elim_some, handed, outcome, hw, hwindow, hi]
    dsimp only
    rw [hscreen]
    exact h.records_ofChanges hplan rfl rfl

theorem handed_latest (hplan : plan.Sound) (hw : w.plan = plan) (hi : w.incremental = false)
    (hscreen : screen plan key = .ready fields) :
    (Store.row? key (visible (s.cellsAt key) ⟨0, last⟩ [])).elim [] (handed w s) =
      RowOutput.putOut plan fields (s.wholeRow key ⟨0, last⟩) := by
  rw [Store.row?, Store.wholeRow_eq]
  split
  next hnil =>
    rw [List.isEmpty_iff.1 hnil]
    exact (RowOutput.putOut_of_no_fields hplan rfl).symm
  next =>
    rw [Option.elim_some, handed, outcome, hw, hi]
    dsimp only
    rw [hscreen]
    rfl

theorem handed_of_skip (hw : w.plan = plan) {reason : Skip}
    (hscreen : screen plan key = .skip reason) (cells : List Cell) :
    (Store.row? key cells).elim [] (handed w s) = [] := by
  rw [Store.row?]
  split
  next => rfl
  next =>
    rw [Option.elim_some, handed, outcome, hw, hscreen]
    rfl

theorem flatMap_handed (hplan : plan.Sound) (h : ∀ key, Plain plan (s.cellsAt key))
    (hw : w.plan = plan) (hw' : w'.plan = plan) (hwindow : w.window = ⟨0, last⟩)
    (hi : w.incremental = true) (hi' : w'.incremental = false) :
    (s.changes ⟨0, last⟩).flatMap (handed w s) =
      (s.latest ⟨0, last⟩).flatMap (handed w' s) := by
  rw [Store.changes, Store.latest, flatMap_filterMap, flatMap_filterMap, List.flatMap_def,
    List.flatMap_def]
  refine congrArg List.flatten (List.map_congr_left fun e he => ?_)
  obtain ⟨key, cells⟩ := e
  have hcells : s.cellsAt key = cells := by
    rw [Store.cellsAt, SortedMap.get?_of_mem he]
    rfl
  subst hcells
  cases hscreen : screen plan key with
  | skip reason => rw [handed_of_skip hw hscreen, handed_of_skip hw' hscreen]
  | ready fields =>
      rw [handed_changes hplan (h key) hw hwindow hi hscreen, handed_latest hplan hw' hi' hscreen]

/-- From the first timestamp on, a worker on changes hands the same records to its sink as one on
latest values, in the same order. -/
theorem run_changes_eq_run_latest (hplan : plan.Built)
    (hmarkers : ∀ key, ∀ x ∈ s.cellsAt key, x.isFamilyMarker = false)
    (hsplits : ∀ key, ∀ x ∈ s.cellsAt key, ∀ d g,
      plan.schema.reading? x.address = some (.dynamic d g) → plan.schema.splits g)
    {sink : Sink σ} {inUse : σ → Prop} (hsink : sink.NeverFails inUse) {t : σ} (ht : inUse t) :
    ∃ st st' : Recorded σ,
      Worker.run ⟨plan, ⟨0, last⟩, true, .ofStore s, sink.recorded⟩ (s.changes ⟨0, last⟩)
        { source := (), sink := ([], t) } = .ok () st ∧
      Worker.run ⟨plan, ⟨0, last⟩, false, .ofStore s, sink.recorded⟩ (s.latest ⟨0, last⟩)
        { source := (), sink := ([], t) } = .ok () st' ∧
      Sink.written st.sink.1 = Sink.written st'.sink.1 := by
  have hplain (key : Bytes) : Plain plan (s.cellsAt key) := ⟨hmarkers key, hsplits key⟩
  have hrows : (s.changes ⟨0, last⟩).flatMap
        (handed ⟨plan, ⟨0, last⟩, true, .ofStore s, sink.recorded⟩ s) =
      (s.latest ⟨0, last⟩).flatMap
        (handed ⟨plan, ⟨0, last⟩, false, .ofStore s, sink.recorded⟩ s) :=
    flatMap_handed hplan.sound hplain rfl rfl rfl rfl rfl
  obtain ⟨st, hrun, hwritten⟩ := run_eq_ok (s := s)
    (w := ⟨plan, ⟨0, last⟩, true, .ofStore s, sink.recorded⟩) hplan.sound rfl hsink rfl
    (s.changes ⟨0, last⟩) { source := (), sink := ([], t) } ht
  obtain ⟨st', hrun', hwritten'⟩ := run_eq_ok (s := s)
    (w := ⟨plan, ⟨0, last⟩, false, .ofStore s, sink.recorded⟩) hplan.sound rfl hsink rfl
    (s.latest ⟨0, last⟩) { source := (), sink := ([], t) } ht
  exact ⟨st, st', hrun, hrun', by rw [hwritten, hwritten', hrows]⟩

private def linedInvoice : List Cell :=
  [⟨"D", 10, .put (Text.Utf8.encode "SR1") (Text.Utf8.encode "Y")⟩,
    ⟨"D", 20, .put (Text.Utf8.encode "RC1") (Text.Utf8.encode "a")⟩,
    ⟨"D", 30, .deleteColumn (Text.Utf8.encode "RC1")⟩,
    ⟨"D", 40, .put (Text.Utf8.encode "RC2") (Text.Utf8.encode "b")⟩]

theorem run_invoice_changes_eq_run_latest :
    (∀ key, ∀ x ∈ (Store.insertAll .empty [107] linedInvoice).cellsAt key,
        x.isFamilyMarker = false) ∧
      KeepingSink.sink.NeverFails (·.closed = false) ∧
      ∃ st st' : Recorded KeepingSink,
        Worker.run ⟨.invoices, ⟨0, 100⟩, true, .ofStore (.insertAll .empty [107] linedInvoice),
            KeepingSink.sink.recorded⟩
          ((Store.insertAll .empty [107] linedInvoice).changes ⟨0, 100⟩)
          { source := (), sink := ([], {}) } = .ok () st ∧
        Worker.run ⟨.invoices, ⟨0, 100⟩, false, .ofStore (.insertAll .empty [107] linedInvoice),
            KeepingSink.sink.recorded⟩
          ((Store.insertAll .empty [107] linedInvoice).latest ⟨0, 100⟩)
          { source := (), sink := ([], {}) } = .ok () st' ∧
        Sink.written st.sink.1 = Sink.written st'.sink.1 := by
  have hmem {key : Bytes} {x : Cell}
      (hx : x ∈ (Store.insertAll .empty [107] linedInvoice).cellsAt key) : x ∈ linedInvoice := by
    obtain ⟨e, he, hx⟩ := Store.mem_of_mem_cellsAt hx
    cases List.mem_singleton.1 he
    exact hx
  have hmarkers : ∀ key, ∀ x ∈ (Store.insertAll .empty [107] linedInvoice).cellsAt key,
      x.isFamilyMarker = false := fun key x hx =>
    (by decide : ∀ x ∈ linedInvoice, x.isFamilyMarker = false) x (hmem hx)
  have hsplits : ∀ x ∈ linedInvoice, ∀ d g,
      Plan.invoices.schema.reading? x.address = some (.dynamic d g) →
        Plan.invoices.schema.splits g := by
    have hall : ∀ x ∈ linedInvoice, (Plan.invoices.schema.reading? x.address).all fun r =>
        r == .static ⟨"D", Text.Utf8.encode "SR1", "SR1", .string⟩ ||
          Plan.invoices.schema.splits r.group := by decide
    intro x hx d g hr
    have h := hall x hx
    rw [hr] at h
    simpa [Reading.group] using h
  exact ⟨hmarkers, KeepingSink.neverFails, run_changes_eq_run_latest Plan.invoices_built hmarkers
    (fun key x hx => hsplits x (hmem hx)) KeepingSink.neverFails rfl⟩

end Worker

end WideRow
