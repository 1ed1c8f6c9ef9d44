import WideRow.Proofs.ChangedColumns
import WideRow.Proofs.RowRecords

namespace WideRow

namespace RowOutput

variable {plan : Plan} {fields : List Field} {cells : List Cell} {w : Window} {g : String}

/-- A required family has a value of the group. -/
def Held (plan : Plan) (cells : List Cell) (g : String) : Prop :=
  ∃ x ∈ cells, x.family ∈ plan.neededFamilies ∧
    ∃ d, plan.schema.reading? x.address = some (.dynamic d g)

/-- The required families have values of every group that is put out, and unless there is no group,
or the static row would not be put out alone, of some group. -/
structure GroupsHeld (plan : Plan) (fields : List Field) (cells : List Cell) : Prop where
  accepted : ∀ g ∈ (RowFields.ofCells plan.schema fields cells).groups.keys,
    Accepted plan (candidateAt plan fields cells g) → Held plan cells g
  some : (RowFields.ofCells plan.schema fields cells).groups.isEmpty = false →
    Accepted plan (.ok (RowFields.ofCells plan.schema fields cells).base) → ∃ g, Held plan cells g

/-- Where only dynamic columns are put out, a group that is put out shows one of them. -/
theorem exists_named_of_accepted (hs : plan.schema.Sound) (hdyn : Dynamic plan) (hg : g ≠ noGroup)
    (h : Accepted plan (candidateAt plan fields cells g)) :
    ∃ name ∈ plan.selection, RowFields.named plan.schema cells name g ≠ [] := by
  obtain ⟨r, hr, _, hout⟩ := h
  obtain ⟨name, hname, hshows⟩ := List.any_eq_true.1 hout
  rw [Record.shows, column?_candidateAt hg hr, named_dynamic_eq_nil hs (hdyn name hname)] at hshows
  refine ⟨name, hname, fun hnil => ?_⟩
  rw [hnil] at hshows
  cases hshows

theorem mem_keys_of_accepted (hs : plan.schema.Sound) (hdyn : Dynamic plan) (hg : g ≠ noGroup)
    (h : Accepted plan (candidateAt plan fields cells g)) :
    g ∈ (RowFields.ofCells plan.schema fields cells).groups.keys := by
  obtain ⟨name, _, hnamed⟩ := exists_named_of_accepted hs hdyn hg h
  exact Classical.not_not.1 fun habsent =>
    hnamed (RowFields.named_eq_nil_of_not_mem_keys fields hg habsent)

theorem groupsHeld_of_dynamic (hs : plan.schema.Sound) (hdyn : Dynamic plan) (fields : List Field)
    (cells : List Cell) : GroupsHeld plan fields cells where
  accepted g hg haccepted := by
    have hne := ne_noGroup_of_mem_keys hg
    obtain ⟨name, hname, hnamed⟩ := exists_named_of_accepted hs hdyn hne haccepted
    obtain ⟨x, hx, hreads⟩ : ∃ x ∈ cells, plan.schema.readsAs name g x.address :=
      Classical.byContradiction fun hnone => hnamed <| RowFields.named_eq_nil fun x hx =>
        Bool.eq_false_iff.2 fun hreads => hnone ⟨x, hx, hreads⟩
    obtain ⟨reading, hread, _, hgroup⟩ := Schema.readsAs_iff.1 hreads
    refine ⟨x, hx, Plan.family_of_readsAs hs (Plan.mem_needed_of_selection hname) hreads, ?_⟩
    cases reading with
    | static t => exact absurd hgroup.symm hne
    | dynamic d g' => exact ⟨d, hread.trans (by rw [← hgroup]; rfl)⟩
  some _ haccepted := by
    obtain ⟨r, hr, _, hout⟩ := haccepted
    cases hr
    obtain ⟨name, hname, hshows⟩ := List.any_eq_true.1 hout
    rw [Record.shows, column?_base, named_dynamic_eq_nil hs (hdyn name hname)] at hshows
    cases hshows

theorem named_required (hs : plan.schema.Sound) {name : ColumnName} (hname : name ∈ plan.needed)
    (g : String) :
    RowFields.named plan.schema (visible cells w (plan.neededFamilies.map .family)) name g =
      RowFields.named plan.schema (visible cells w []) name g := by
  refine RowFields.named_congr (visible_ascending _ _ _) (visible_ascending _ _ _) fun x hx => ?_
  rw [mem_visible, mem_visible_all, and_iff_right_iff_imp]
  intro _
  exact asksFor_families (Plan.family_of_readsAs hs hname hx)

theorem truth_base_required (hs : plan.schema.Sound) (fields : List Field) (stage : Stage) :
    plan.truth (RowFields.ofCells plan.schema fields
        (visible cells w (plan.neededFamilies.map .family))).base stage =
      plan.truth (RowFields.ofCells plan.schema fields (visible cells w [])).base stage :=
  Plan.truth_congr fun _ hl _ =>
    (base_alike fun _ hname => named_required hs hname noGroup).valueIn hl

theorem mem_keys_of_required
    (hg : g ∈ (RowFields.ofCells plan.schema fields
      (visible cells w (plan.neededFamilies.map .family))).groups.keys) :
    g ∈ (RowFields.ofCells plan.schema fields (visible cells w [])).groups.keys :=
  RowFields.mem_keys_groups_of_subset
    (fun _ hx => mem_visible_all.2 (mem_visible.1 hx).2) hg

theorem mem_keys_of_held (hs : plan.schema.Sound) (h : Held plan (visible cells w []) g) :
    g ∈ (RowFields.ofCells plan.schema fields
      (visible cells w (plan.neededFamilies.map .family))).groups.keys := by
  obtain ⟨x, hx, hf, d, hd⟩ := h
  have hshown := mem_visible_all.1 hx
  exact RowFields.mem_keys_groups_iff.2 ⟨(Schema.dynamic_of_reading? hs hd).2.2, x,
    mem_visible.2 ⟨asksFor_families hf, hshown⟩, hshown.isPut, _, hd, rfl⟩

/-- The required families put out what the whole row does if they hold its groups. -/
theorem offered_required (hplan : plan.Sound) (h : GroupsHeld plan fields (visible cells w [])) :
    offered plan fields (visible cells w (plan.neededFamilies.map .family)) =
      offered plan fields (visible cells w []) := by
  refine offered_of_groups (fun _ => mem_keys_of_required)
    (fun _ hname g => named_required hplan.schema hname g) (fun g hg habsent => ?_)
    fun hempty hsome => ?_
  · exact offer_of_not_accepted fun haccepted =>
      habsent (mem_keys_of_held hplan.schema (h.accepted g hg haccepted))
  · refine offer_of_not_accepted fun haccepted => ?_
    obtain ⟨g, hg⟩ := h.some hsome haccepted
    exact RowFields.isEmpty_groups_iff.1 hempty g (mem_keys_of_held hplan.schema hg)

end RowOutput

namespace ChangeSet

open RowOutput

variable {plan : Plan} {s : Store} {w : Window} {row : RowCells} {c : ChangeSet} {L : List Cell}

theorem dynamic_of_mustRescan (hready : ofRow plan w row = .ready c) (hm : c.mustRescan)
    (hgroups : c.groups.isEmpty = false) : Dynamic plan := by
  rcases ofRow_eq_ready hready with ⟨_, _, rfl⟩ | ⟨_, rfl⟩
  · cases hgroups
  · exact dynamic_of_readsHiddenStatic (Bool.and_eq_true_iff.1 hm).1

/-- A row that is read again is put out as the whole row is: with the same records, the same error,
or passed over alike. Where it is read again for its tombstones, and not for its static columns, the
required families have to hold its groups, unless only dynamic columns are put out. -/
theorem rescan_agrees_with_scan (hplan : plan.Built) (fields : List Field)
    (hready : ofRow plan w row = .ready c) (hm : c.mustRescan)
    (hL : c.complete (.ofStore s) plan w row.key () = .ok (.ready L) ())
    (hheld : c.groups.isEmpty →
      Dynamic plan ∨ GroupsHeld plan fields (s.wholeRow row.key w.toEnd)) :
    (ofFields plan (RowFields.ofCells plan.schema fields L)).map
        (fun out => (out.records, out.error)) =
      (ofFields plan (RowFields.ofCells plan.schema fields (s.wholeRow row.key w.toEnd))).map
        fun out => (out.records, out.error) := by
  have hsound := hplan.sound
  have hgroups : GroupsHeld plan fields (s.wholeRow row.key w.toEnd) := by
    have hany : Dynamic plan ∨ GroupsHeld plan fields (s.wholeRow row.key w.toEnd) := by
      cases hempty : c.groups.isEmpty with
      | true => exact hheld hempty
      | false => exact .inl (dynamic_of_mustRescan hready hm hempty)
    exact hany.elim (fun hdyn => groupsHeld_of_dynamic hsound.schema hdyn fields _) id
  rw [Store.wholeRow_eq] at hgroups ⊢
  rw [conclude_of_mustRescan hm hL, ofFields_map hsound, ofFields_map hsound,
    offered_required hsound hgroups, truth_base_required hsound.schema]

private def apart (selection : List ColumnName) : Plan where
  schema := ⟨⟨"|", [⟨"id", .plain, .string⟩]⟩,
    [⟨"D", Text.Utf8.encode "SR1", "SR1", .string⟩, ⟨"E", Text.Utf8.encode "SR2", "SR2", .string⟩],
    [⟨"X", "RC", "RC", "", ⟨["line"], none⟩, .string⟩]⟩
  selection := selection
  predicate := none
  documents := []

private def withLines : Plan := apart [⟨"D", "SR1"⟩, ⟨"E", "SR2"⟩, ⟨"X", "RC"⟩]

private def withoutLines : Plan := apart [⟨"D", "SR1"⟩, ⟨"E", "SR2"⟩]

private def keyOfRow : List Field := [.key "id" "k" .string]

private def status : Cell := ⟨"D", 60, .put (Text.Utf8.encode "SR1") (Text.Utf8.encode "Y")⟩

private def line : Cell := ⟨"X", 5, .put (Text.Utf8.encode "RC1") (Text.Utf8.encode "a")⟩

private def halfDeleted : RowCells := ⟨[107], [status, ⟨"E", 70, .deleteFamily⟩]⟩

private def halfDeletedStore : Store := .insertAll .empty [107] (line :: halfDeleted.cells)

private def keyDeletion (plan : Plan) : ChangeSet :=
  partlyDeleted (findTombstones plan ⟨50, 200⟩ halfDeleted) ⟨.key, 70⟩

theorem half_deleted_invoice_agrees :
    ofRow withLines ⟨50, 200⟩ halfDeleted = .ready (keyDeletion withLines) ∧
      (keyDeletion withLines).complete (.ofStore halfDeletedStore) withLines ⟨50, 200⟩ [107] () =
        .ok (.ready [status, line]) () ∧
      (ofFields withLines (RowFields.ofCells withLines.schema keyOfRow [status, line])).map
          (fun out => (out.records, out.error)) =
        (ofFields withLines (RowFields.ofCells withLines.schema keyOfRow
          (halfDeletedStore.wholeRow [107] ⟨0, 200⟩))).map fun out => (out.records, out.error) := by
  have hbuilt : withLines.Built := ⟨rfl, rfl, [.ofColumn ⟨"D", "SR1"⟩, .ofColumn ⟨"E", "SR2"⟩,
    .ofColumn ⟨"X", "RC"⟩], none, [], rfl⟩
  have hready : ofRow withLines ⟨50, 200⟩ halfDeleted = .ready (keyDeletion withLines) := by decide
  have hL : (keyDeletion withLines).complete (.ofStore halfDeletedStore) withLines ⟨50, 200⟩ [107]
      () = .ok (.ready [status, line]) () := rfl
  have hm : (keyDeletion withLines).mustRescan := rfl
  have hheld : Held withLines (halfDeletedStore.wholeRow [107] ⟨0, 200⟩) "1" :=
    ⟨line, by decide, by decide, _, rfl⟩
  have hkeys : (RowFields.ofCells withLines.schema keyOfRow
      (halfDeletedStore.wholeRow [107] ⟨0, 200⟩)).groups.keys = ["1"] := by decide
  have hgroups : GroupsHeld withLines keyOfRow (halfDeletedStore.wholeRow [107] ⟨0, 200⟩) := by
    refine ⟨fun g hg _ => ?_, fun _ _ => ⟨"1", hheld⟩⟩
    rw [hkeys] at hg
    cases List.mem_singleton.1 hg
    exact hheld
  have hagrees := rescan_agrees_with_scan hbuilt keyOfRow hready hm hL fun _ => .inr hgroups
  exact ⟨hready, hL, hagrees⟩

/-- Without lines in the output their family is not read, and the row is put out without its line
where the whole row has it in its key. -/
theorem half_deleted_invoice_loses_line :
    withoutLines.Built ∧ halfDeleted ∈ halfDeletedStore.changes ⟨50, 200⟩ ∧
      ofRow withoutLines ⟨50, 200⟩ halfDeleted = .ready (keyDeletion withoutLines) ∧
      (keyDeletion withoutLines).mustRescan ∧
      (keyDeletion withoutLines).complete (.ofStore halfDeletedStore) withoutLines ⟨50, 200⟩ [107]
        () = .ok (.ready [status]) () ∧
      (ofFields withoutLines (RowFields.ofCells withoutLines.schema keyOfRow [status])).map
          (fun out => (out.records, out.error)) ≠
        (ofFields withoutLines (RowFields.ofCells withoutLines.schema keyOfRow
          (halfDeletedStore.wholeRow [107] ⟨0, 200⟩))).map fun out => (out.records, out.error) :=
  ⟨⟨rfl, rfl, [.ofColumn ⟨"D", "SR1"⟩, .ofColumn ⟨"E", "SR2"⟩], none, [], rfl⟩, by decide,
    by decide, rfl, rfl, by decide⟩

end ChangeSet

end WideRow
