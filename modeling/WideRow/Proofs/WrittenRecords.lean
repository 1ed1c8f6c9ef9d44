import WideRow.Proofs.Handover
import WideRow.Proofs.ReadBack
import WideRow.Proofs.Rescan
import WideRow.Proofs.Tracked

namespace WideRow

namespace ChangeSet

open RowOutput

variable {plan : Plan} {s : Store} {w : Window} {key : Bytes} {fields : List Field} {g : String}
  {r : Record} {c : ChangeSet} {L : List Cell} {x : Cell}

/-- Changes that are read as what the whole row has of them. -/
structure Faithful (plan : Plan) (s : Store) (w : Window) (key : Bytes) : Prop where
  names : Named plan (changesAt s w key).cells
  /-- If static columns are put out, a new value of a group in a family that is not required is not
  deleted with its family. -/
  alive : Dynamic plan ∨ ∀ m ∈ (changesAt s w key).cells, ∀ x ∈ (changesAt s w key).cells,
    m.isFamilyMarker → m.hides x → x.isPut →
      (∃ d g, plan.schema.reading? x.address = some (.dynamic d g)) → x.family ∈ plan.neededFamilies
  /-- A value that is read for a changed group belongs to it, or to another changed group. -/
  back : ∀ c, ofRow plan w (changesAt s w key) = .ready c → ∀ g ∈ c.groups.keys, g ≠ noGroup →
    ∀ d ∈ plan.neededDynamics, ∀ x ∈ s.wholeRow key w.toEnd, x.address = d.addressOf g →
      ∀ e g', plan.schema.reading? x.address = some (.dynamic e g') → g' ∈ c.groups.keys

theorem mem_keys_of_backfill (hfaithful : Faithful plan s w key)
    (hready : ofRow plan w (changesAt s w key) = .ready c)
    (hasked : x.address ∈ c.backfill) (hx : Shown (s.cellsAt key) w.toEnd x) {reading : Reading}
    (hread : plan.schema.reading? x.address = some reading) (hne : reading.group ≠ noGroup) :
    reading.group ∈ c.groups.keys := by
  cases reading with
  | static t => exact absurd rfl hne
  | dynamic e g' =>
      obtain ⟨g, hg, hgne, d, hd, ha⟩ := exists_changed_of_backfill hready hasked hread
      refine hfaithful.back c hready g hg hgne d hd x ?_ ha e g' hread
      rw [Store.wholeRow_eq, mem_visible_all]
      exact hx

theorem mem_keys_of_putCells (hfaithful : Faithful plan s w key)
    (hready : ofRow plan w (changesAt s w key) = .ready c) (hx : x ∈ c.putCells) {reading : Reading}
    (hread : plan.schema.reading? x.address = some reading) (hne : reading.group ≠ noGroup) :
    reading.group ∈ c.groups.keys ∧
      (Dynamic plan ∨ ∃ y, Shown (s.cellsAt key) w.toEnd y ∧ y.address = x.address) := by
  obtain ⟨g, hg, hkept⟩ : ∃ g ∈ c.groups.keys, (g, x) ∈ keptPuts (inGroups plan.schema
      (takingPart w (findTombstones plan w (changesAt s w key)) (s.cellsAt key))) :=
    kept_of_ready hready hx
  obtain ⟨hin, hput, _⟩ := mem_keptPuts.1 hkept
  obtain ⟨hpart, hplace⟩ := mem_inGroups.1 hin
  obtain ⟨reading', hread', rfl, _⟩ := Schema.place_eq_inGroup_iff.1 hplace
  cases hread.symm.trans hread'
  obtain ⟨hmem, hw, _⟩ := mem_takingPart.1 hpart
  refine ⟨hg, hfaithful.alive.imp_right fun halive =>
    exists_shown_of_isVisible hmem (isVisible_of_kept (fun m hm hmw hmark => ?_) hkept)⟩
  -- no tombstone is kept of a family that is not required, so nothing there covers a marker
  by_cases hf : x.family ∈ plan.neededFamilies
  · exact (covered_of_named rfl hfaithful.names hf).hides_eq_false hpart hm hmw hmark
  · refine Bool.eq_false_iff.2 fun hh => hf ?_
    refine halive m (List.mem_filter.2 ⟨hm, hmw⟩) x (List.mem_filter.2 ⟨hmem, hw⟩) hmark hh hput ?_
    cases reading with
    | static t => exact absurd rfl hne
    | dynamic d g => exact ⟨d, g, hread⟩

/-- The changes keep track of a group of the completed row, and unless only dynamic columns are put
out, it is one of the whole row. -/
theorem tracks_of_mem_keys (hfaithful : Faithful plan s w key)
    (hready : ofRow plan w (changesAt s w key) = .ready c)
    (hL : c.complete (.ofStore s) plan w key () = .ok (.ready L) ())
    (hg : g ∈ (RowFields.ofCells plan.schema fields L).groups.keys) :
    c.Tracks g ∧ (Dynamic plan ∨
      g ∈ (RowFields.ofCells plan.schema fields (s.wholeRow key w.toEnd)).groups.keys) := by
  obtain ⟨hne, x, hx, hput, reading, hread, rfl⟩ := RowFields.mem_keys_groups_iff.1 hg
  have hshows {y : Cell} (hy : Shown (s.cellsAt key) w.toEnd y) (ha : y.address = x.address) :
      reading.group ∈
        (RowFields.ofCells plan.schema fields (s.wholeRow key w.toEnd)).groups.keys := by
    refine RowFields.mem_keys_groups_iff.2 ⟨hne, y, ?_, hy.isPut, reading, ha ▸ hread, rfl⟩
    rw [Store.wholeRow_eq, mem_visible_all]
    exact hy
  have htracks (h : reading.group ∈ c.groups.keys) : c.Tracks reading.group :=
    .inr ⟨SortedMap.isEmpty_eq_false h, .inr h⟩
  cases hm : c.mustRescan with
  | true =>
      rw [conclude_of_mustRescan hm hL, mem_visible] at hx
      exact ⟨.inl hm, .inr (hshows hx.2 rfl)⟩
  | false =>
      rcases mem_completed_cases hm hL hx with ⟨hasked, hshown⟩ | hnew
      · exact ⟨htracks (mem_keys_of_backfill hfaithful hready hasked hshown hread hne),
          .inr (hshows hshown rfl)⟩
      · obtain ⟨hkeys, hshown⟩ := mem_keys_of_putCells hfaithful hready hnew hread hne
        exact ⟨htracks hkeys, hshown.imp_right fun ⟨_, hy, ha⟩ => hshows hy ha⟩

theorem tracks_noGroup_of_mem (hready : ofRow plan w (changesAt s w key) = .ready c)
    (hL : c.complete (.ofStore s) plan w key () = .ok (.ready L) ()) (hx : x ∈ L) :
    c.Tracks noGroup := by
  cases hm : c.mustRescan with
  | true => exact .inl hm
  | false =>
      refine .inr ⟨Bool.eq_false_iff.2 fun hempty => ?_, .inl rfl⟩
      rcases mem_completed_cases hm hL hx with ⟨hasked, _⟩ | hnew
      · rcases ofRow_eq_ready hready with ⟨_, _, rfl⟩ | ⟨_, rfl⟩
        · cases hm
        · simp only [byCells, ofCells] at hasked hempty
          simp [hempty] at hasked
      · obtain ⟨g, a, hput⟩ := mem_putCells.1 hnew
        rw [putsOf, SortedMap.isEmpty_iff.1 hempty g] at hput
        cases hput

def OfWhole (plan : Plan) (s : Store) (w : Window) (key : Bytes) (fields : List Field)
    (r : Record) : Prop :=
  r ∈ recordsOf (settled plan fields (s.wholeRow key w.toEnd)) ∨
    settled plan fields (s.wholeRow key w.toEnd) = .skip .malformedDocument ∧ plan.documents ≠ []

/-- The record of the static columns alone, of a row that has groups. No group that changed shows a
required column. -/
structure StaticAlone (plan : Plan) (s : Store) (w : Window) (key : Bytes) (fields : List Field)
    (r : Record) : Prop where
  offers : ∃ records, offer plan
    (.ok (RowFields.ofCells plan.schema fields (s.wholeRow key w.toEnd)).base) = .ok records ∧
      r ∈ records
  grouped : (RowFields.ofCells plan.schema fields (s.wholeRow key w.toEnd)).groups.isEmpty = false
  unseen : ∀ c, ofRow plan w (changesAt s w key) = .ready c → ∀ g ∈ c.groups.keys, g ≠ noGroup →
    ∀ name ∈ plan.needed, RowFields.named plan.schema (s.wholeRow key w.toEnd) name g = []

theorem static_of_mem_offer (hplan : plan.Sound) (hfaithful : Faithful plan s w key)
    (hready : ofRow plan w (changesAt s w key) = .ready c)
    (hL : c.complete (.ofStore s) plan w key () = .ok (.ready L) ())
    (hempty : (RowFields.ofCells plan.schema fields L).groups.isEmpty) {records : List Record}
    (ho : offer plan (.ok (RowFields.ofCells plan.schema fields L).base) = .ok records)
    (hr : r ∈ records) :
    OfWhole plan s w key fields r ∨ StaticAlone plan s w key fields r := by
  have htracks : c.Tracks noGroup := by
    obtain ⟨a, ha, _, hout⟩ := accepted_of_offer ho hr
    cases ha
    obtain ⟨name, _, hshows⟩ := List.any_eq_true.1 hout
    rw [Record.shows, column?_base] at hshows
    obtain ⟨x, hx⟩ : ∃ x, x ∈ L := by
      refine List.exists_mem_of_ne_nil L ?_
      rintro rfl
      cases hshows
    exact tracks_noGroup_of_mem hready hL hx
  -- the static columns are those of the whole row, which has a record of them alone if it has no
  -- group either
  rw [offer_base_congr fun _ hname =>
    htracks.named hplan hfaithful.names hready hL hname] at ho
  cases hgroups : (RowFields.ofCells plan.schema fields
      (s.wholeRow key w.toEnd)).groups.isEmpty with
  | true =>
      refine .inl (settled_of_offer hplan ?_ ho hr)
      rw [candidates_ofCells, if_pos hgroups]
      exact List.mem_singleton.2 rfl
  | false =>
      refine .inr ⟨⟨records, ho, hr⟩, hgroups, fun c' hready' g hg hne name hname => ?_⟩
      cases hready.symm.trans hready'
      have htracked : c.Tracks g := .inr ⟨SortedMap.isEmpty_eq_false hg, .inr hg⟩
      rw [← htracked.named hplan hfaithful.names hready hL hname]
      exact RowFields.named_eq_nil_of_not_mem_keys fields hne
        (RowFields.isEmpty_groups_iff.1 hempty g)

theorem whole_of_mem_offer (hplan : plan.Sound) (hfaithful : Faithful plan s w key)
    (hready : ofRow plan w (changesAt s w key) = .ready c)
    (hL : c.complete (.ofStore s) plan w key () = .ok (.ready L) ())
    (hg : g ∈ (RowFields.ofCells plan.schema fields L).groups.keys) {records : List Record}
    (ho : offer plan (candidateAt plan fields L g) = .ok records) (hr : r ∈ records) :
    OfWhole plan s w key fields r := by
  obtain ⟨htracks, hshown⟩ := tracks_of_mem_keys hfaithful hready hL hg
  have hne := ne_noGroup_of_mem_keys hg
  rw [offer_candidateAt_congr hne
    (fun _ hname => htracks.noGroup.named hplan hfaithful.names hready hL hname)
    fun _ hname => htracks.named hplan hfaithful.names hready hL hname] at ho
  have hwhole : g ∈ (RowFields.ofCells plan.schema fields
      (s.wholeRow key w.toEnd)).groups.keys := by
    rcases hshown with hdyn | hwhole
    · exact mem_keys_of_accepted hplan.schema hdyn hne (accepted_of_offer ho hr)
    · exact hwhole
  refine settled_of_offer hplan ?_ ho hr
  rw [candidates_ofCells, SortedMap.isEmpty_eq_false hwhole, if_neg Bool.false_ne_true]
  exact List.mem_map_of_mem hwhole

/-- A record of the completed row is one of the whole row, or its static record. -/
theorem whole_of_mem_settled (hplan : plan.Sound) (hfaithful : Faithful plan s w key)
    (hready : ofRow plan w (changesAt s w key) = .ready c)
    (hL : c.complete (.ofStore s) plan w key () = .ok (.ready L) ())
    (hr : r ∈ recordsOf (settled plan fields L)) :
    OfWhole plan s w key fields r ∨ StaticAlone plan s w key fields r := by
  have hoffered : r ∈ (offered plan fields L).1 := by
    have hput : r ∈ putOut plan fields L := hr
    rw [putOut_eq hplan] at hput
    split at hput
    next => cases hput
    next => exact hput
  obtain ⟨candidate, hc, records, ho, hr⟩ := exists_offer_of_mem hoffered
  rw [candidates_ofCells] at hc
  split at hc
  next hempty =>
    cases List.mem_singleton.1 hc
    exact static_of_mem_offer hplan hfaithful hready hL hempty ho hr
  next =>
    obtain ⟨g, hg, rfl⟩ := List.mem_map.1 hc
    exact .inl (whole_of_mem_offer hplan hfaithful hready hL hg ho hr)

end ChangeSet

namespace Worker

open ChangeSet RowOutput

variable {σ : Type} {inUse : σ → Prop} {sink : Sink σ} {plan : Plan} {s : Store} {w : Window}
  {row : RowCells} {fields : List Field} {r : Record}

theorem parse_of_screen {key : Bytes} (h : screen plan key = .ready fields) :
    plan.schema.rowKey.parse key = .ready fields := by
  rw [screen] at h
  split at h
  next => cases h
  next hparse =>
    rw [hparse]
    split at h
    next => exact h
    next => split at h <;> first | exact h | cases h

theorem whole_of_mem_ofChanges (hplan : plan.Sound) {key : Bytes}
    (hfaithful : Faithful plan s w key)
    (hr : r ∈ recordsOf (ofChanges plan w s fields (changesAt s w key))) :
    OfWhole plan s w key fields r ∨ StaticAlone plan s w key fields r := by
  rw [ofChanges] at hr
  cases hready : ofRow plan w (changesAt s w key) with
  | skip reason =>
      rw [hready] at hr
      cases hr
  | ready c =>
      rw [hready] at hr
      dsimp only at hr
      split at hr
      next => cases hr
      next =>
        have hcomplete := complete_ofStore c s plan w key
        cases hL : c.conclude ((c.request? plan).bind fun targets =>
            s.scan key targets w.toEnd) with
        | skip reason =>
            simp only [changesAt, hL] at hr
            cases hr
        | ready L =>
            simp only [changesAt, hL] at hr
            rw [hL] at hcomplete
            exact whole_of_mem_settled hplan hfaithful hready hcomplete hr

/-- A record that is written for the changes of a row is written for the whole row as it is at the
end of the window, unless that is passed over for a malformed document, or it is the record of the
static columns alone. -/
theorem written_record_of_whole (hsink : sink.NeverFails inUse) (hplan : plan.Built)
    (hrow : row ∈ s.changes w) (hfaithful : Faithful plan s w row.key) (st st' : Recorded σ)
    (hst : inUse st.sink.2) (hst' : inUse st'.sink.2) :
    ∃ o st₁ records o' st₁' records',
      workOn ⟨plan, w, true, .ofStore s, sink.recorded⟩ row st = .ok o st₁ ∧
      Sink.written st₁.sink.1 = Sink.written st.sink.1 ++ records ∧
      workOn ⟨plan, w, false, .ofStore s, sink.recorded⟩ ⟨row.key, s.wholeRow row.key w.toEnd⟩ st' =
        .ok o' st₁' ∧
      Sink.written st₁'.sink.1 = Sink.written st'.sink.1 ++ records' ∧
      ∀ r ∈ records, (r ∈ records' ∨ o' = .skip .malformedDocument ∧ plan.documents ≠ []) ∨
        ∃ fields, plan.schema.rowKey.parse row.key = .ready fields ∧
          StaticAlone plan s w row.key fields r := by
  obtain ⟨o, st₁, hwork, _, _, hwritten⟩ :=
    hands_workOn (w := ⟨plan, w, true, .ofStore s, sink.recorded⟩) hplan.sound rfl hsink rfl row st
      hst
  obtain ⟨o', st₁', hwork', ho', _, hwritten'⟩ :=
    hands_workOn (w := ⟨plan, w, false, .ofStore s, sink.recorded⟩) hplan.sound rfl hsink rfl
      ⟨row.key, s.wholeRow row.key w.toEnd⟩ st' hst'
  refine ⟨o, st₁, _, o', st₁', _, hwork, hwritten, hwork', hwritten', fun r hr => ?_⟩
  rw [changesAt_of_mem_changes hrow] at hr
  simp only [handed, outcome] at hr ho' ⊢
  cases hscreen : screen plan row.key with
  | skip reason =>
      simp only [changesAt, hscreen] at hr
      cases hr
  | ready fields =>
      simp only [changesAt, hscreen, if_true] at hr
      simp only [hscreen, Bool.false_eq_true, if_false] at ho' ⊢
      refine (whole_of_mem_ofChanges hplan.sound hfaithful hr).imp
        (fun h => h.imp_right fun h => ?_) fun h => ⟨fields, parse_of_screen hscreen, h⟩
      rw [ho', h.1]
      exact ⟨rfl, h.2⟩

private def put (family : String) (timestamp : Nat) (qualifier value : String) : Cell :=
  ⟨family, timestamp, .put (Text.Utf8.encode qualifier) (Text.Utf8.encode value)⟩

private def itemStore : Store :=
  .insertAll .empty [107] [put "D" 5 "RC1" "a", put "D" 10 "SR1" "Y", put "D" 60 "RC1" "b"]

private def changedItem : RowCells := ⟨[107], [put "D" 60 "RC1" "b"]⟩

private theorem faithful_changedItem : Faithful .invoices itemStore ⟨50, 200⟩ [107] where
  names := by
    unfold Named
    decide
  alive := by
    have hfamily : ∀ x ∈ (changesAt itemStore ⟨50, 200⟩ [107]).cells,
        x.family ∈ Plan.invoices.neededFamilies := by decide
    exact .inr fun _ _ x hx _ _ _ _ => hfamily x hx
  back c hc g hg _ d hd x _ ha e g' hread := by
    have hready : ofRow .invoices ⟨50, 200⟩ (changesAt itemStore ⟨50, 200⟩ [107]) =
        .ready (ofCells .invoices .empty false none changedItem.cells) := by decide
    cases hready.symm.trans hc
    have hkeys : (ofCells .invoices .empty false none changedItem.cells).groups.keys = ["1"] := by
      decide
    have hback : ∀ d ∈ Plan.invoices.neededDynamics,
        Plan.invoices.schema.reading? (d.addressOf "1") = some (.dynamic d "1") := by decide
    rw [hkeys] at hg ⊢
    cases List.mem_singleton.1 hg
    rw [ha, hback d hd] at hread
    cases hread
    exact List.mem_singleton.2 rfl

theorem changed_item_written_of_whole :
    changedItem ∈ itemStore.changes ⟨50, 200⟩ ∧ ∃ o st₁ records o' st₁' records',
      workOn ⟨.invoices, ⟨50, 200⟩, true, .ofStore itemStore, KeepingSink.sink.recorded⟩ changedItem
        { source := (), sink := ([], {}) } = .ok o st₁ ∧
      Sink.written st₁.sink.1 = records ∧
      workOn ⟨.invoices, ⟨50, 200⟩, false, .ofStore itemStore, KeepingSink.sink.recorded⟩
        ⟨[107], itemStore.wholeRow [107] ⟨0, 200⟩⟩ { source := (), sink := ([], {}) } =
          .ok o' st₁' ∧
      Sink.written st₁'.sink.1 = records' ∧
      ∀ r ∈ records, (r ∈ records' ∨ o' = .skip .malformedDocument ∧ Plan.invoices.documents ≠ []) ∨
        ∃ fields, Plan.invoices.schema.rowKey.parse [107] = .ready fields ∧
          StaticAlone .invoices itemStore ⟨50, 200⟩ [107] fields r := by
  have hrow : changedItem ∈ itemStore.changes ⟨50, 200⟩ := by decide
  have hwritten := written_record_of_whole KeepingSink.neverFails Plan.invoices_built hrow
    faithful_changedItem { source := (), sink := ([], {}) } { source := (), sink := ([], {}) }
    rfl rfl
  exact ⟨hrow, hwritten⟩

private def keptOf (plan : Plan) (incremental : Bool) (s : Store) (row : RowCells) : List Record :=
  match workOn ⟨plan, ⟨50, 200⟩, incremental, .ofStore s, KeepingSink.sink⟩ row
      { source := (), sink := {} } with
  | .ok _ st => st.sink.records
  | .error _ _ => []

private def Strays (plan : Plan) (cells : List Cell) : Prop :=
  let s : Store := .insertAll .empty [107] cells
  ∃ row ∈ s.changes ⟨50, 200⟩, ∃ r ∈ keptOf plan true s row,
    r ∉ keptOf plan false s ⟨row.key, s.wholeRow row.key ⟨0, 200⟩⟩

private instance (plan : Plan) (cells : List Cell) : Decidable (Strays plan cells) :=
  inferInstanceAs (Decidable (∃ row ∈ _, ∃ r ∈ _, r ∉ _))

private def linesOnly (lines : List DynamicColumn) (documents : List DocumentColumn) : Plan where
  schema := ⟨⟨"|", [⟨"id", .plain, .string⟩]⟩, [], lines⟩
  selection := lines.map (·.columnName)
  predicate := none
  documents := documents

private def itemColumn (name : String) (type : FieldType) : DynamicColumn :=
  ⟨"D", name, name, "", ⟨["line"], none⟩, type⟩

private def documented : Plan :=
  linesOnly [itemColumn "RC" .document, itemColumn "RD" .string] [⟨"D", "RC", .empty⟩]

private def overlapping : Plan :=
  linesOnly [itemColumn "P" .string, itemColumn "R" .string, itemColumn "RC" .string] []

private def statusOnly : Plan where
  schema := ⟨⟨"|", [⟨"id", .plain, .string⟩]⟩, [⟨"D", Text.Utf8.encode "SR1", "SR1", .string⟩],
    [⟨"X", "RC", "RC", "", ⟨["line"], none⟩, .string⟩]⟩
  selection := [⟨"D", "SR1"⟩]
  predicate := none
  documents := []

/-- One after another: a line is deleted, and the status is written without the line that stays; a
line is written beside one with a malformed document; a deleted line of a family that is not
required is written; a nameless value stands before the marker that deletes the status; and the
column that is read for one line is a column of another one. -/
theorem changes_stray_from_whole_row :
    (Plan.invoices.Built ∧ documented.Built ∧ statusOnly.Built ∧ overlapping.Built) ∧
      Strays .invoices [put "D" 5 "RC1" "a", put "D" 10 "SR1" "Y", put "D" 20 "RC2" "b",
        ⟨"D", 70, .deleteColumn (Text.Utf8.encode "RC2")⟩] ∧
      Strays documented [put "D" 5 "RC1" "[", put "D" 60 "RD2" "b"] ∧
      Strays statusOnly [put "D" 5 "SR1" "Y", put "X" 60 "RC1" "a", ⟨"X", 70, .deleteFamily⟩] ∧
      Strays .invoices [put "D" 60 "SR1" "Y", ⟨"D", 70, .deleteFamily⟩, put "D" 80 "" "a"] ∧
      Strays overlapping [put "D" 5 "RCx" "a", put "D" 6 "Px" "b", put "D" 60 "PCx" "c"] := by
  have hdocumented : documented.Built := ⟨rfl, rfl, [.ofColumn ⟨"D", "RC"⟩, .ofColumn ⟨"D", "RD"⟩],
    none, [⟨"D", "RC", .empty⟩], rfl⟩
  have hstatus : statusOnly.Built := ⟨rfl, rfl, [.ofColumn ⟨"D", "SR1"⟩], none, [], rfl⟩
  have hoverlapping : overlapping.Built := ⟨rfl, rfl, [.ofColumn ⟨"D", "P"⟩, .ofColumn ⟨"D", "R"⟩,
    .ofColumn ⟨"D", "RC"⟩], none, [], rfl⟩
  exact ⟨⟨Plan.invoices_built, hdocumented, hstatus, hoverlapping⟩, by decide, by decide, by decide,
    by decide, by decide⟩

end Worker

end WideRow
