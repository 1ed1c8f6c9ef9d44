import WideRow.Proofs.Unchanged
import WideRow.Proofs.Yields

namespace WideRow

namespace ChangeSet

variable {plan : Plan} {s : Store} {w : Window} {key : Bytes} {fields : List Field} {g : String}
  {r : Record} {c : ChangeSet} {records : List Record} {L : List Cell} {x : Cell}
  {d : DynamicColumn}

/-- A change set that the fields of the group are made from. -/
def Tracks (c : ChangeSet) (g : String) : Prop :=
  c.mustRescan ∨ c.groups.isEmpty = false ∧ (g = noGroup ∨ g ∈ c.groups.keys)

theorem mem_changes_of_ready (h : ofRow plan w (changesAt s w key) = .ready c) :
    changesAt s w key ∈ s.changes w := by
  have hne : (changesAt s w key).cells ≠ [] := by
    intro hnil
    have hrow : changesAt s w key = ⟨key, []⟩ := congrArg (RowCells.mk key) hnil
    have hskip : ofRow plan w ⟨key, []⟩ = .skip .unchanged := by
      have hnone : findTombstones plan w ⟨key, []⟩ = .empty := by
        refine SortedMap.ext_get? fun f => ?_
        rw [get?_findTombstones]
        split <;> rfl
      rw [ofRow_of_no_tombstones hnone]
      rfl
    rw [hrow, hskip] at h
    cases h
  have hcells : s.cellsAt key ≠ [] := by
    intro hnil
    simp [changesAt, hnil] at hne
  cases hget : s.rows.get? key with
  | none => simp [Store.cellsAt, hget] at hcells
  | some cells =>
      have hat : s.cellsAt key = cells := by rw [Store.cellsAt, hget]; rfl
      refine List.mem_filterMap.2 ⟨(key, cells), SortedMap.mem_of_get?_eq_some hget, ?_⟩
      rw [changesAt, hat] at hne ⊢
      simp [Store.row?, hne]

theorem Tracks.settled (h : c.Tracks g) (hplan : plan.Sound) {name : ColumnName}
    (hname : name ∈ plan.needed) {a : Address} (ha : plan.schema.readsAs name g a) :
    Settled plan c a := by
  refine ⟨Plan.family_of_readsAs hplan.schema hname ha, ?_⟩
  refine h.imp_right fun ⟨hgroups, hg⟩ => ⟨hgroups, ?_⟩
  by_cases hne : g = noGroup
  · subst hne
    exact .inl (Plan.static_of_readsAs hplan.schema hname ha)
  · exact .inr ⟨g, hg.resolve_left hne, hne, Plan.dynamic_of_readsAs hplan.schema hne hname ha⟩

/-- A tracked group ends with its fields in the whole row. -/
theorem Tracks.named (h : c.Tracks g) (hplan : plan.Sound)
    (hnamed : Named plan (changesAt s w key).cells)
    (hready : ofRow plan w (changesAt s w key) = .ready c)
    (hL : c.complete (.ofStore s) plan w key () = .ok (.ready L) ()) {name : ColumnName}
    (hname : name ∈ plan.needed) :
    RowFields.named plan.schema L name g =
      RowFields.named plan.schema (s.wholeRow key w.toEnd) name g :=
  named_completed (mem_changes_of_ready hready) hnamed hready hL fun _ ha =>
    h.settled hplan hname ha

theorem Tracks.noGroup (h : c.Tracks g) : c.Tracks noGroup :=
  h.imp_right fun h => ⟨h.1, .inl rfl⟩

theorem fieldsOf_of_no_groups (hmin : 1 ≤ w.min) (hmax : w.min ≤ w.max)
    (hunmarked : ∀ m ∈ s.cellsAt key, w.contains m.timestamp → m.isFamilyMarker = false)
    (hsplits : ∀ m ∈ s.cellsAt key, w.contains m.timestamp → ∀ g,
      plan.schema.place m.address ≠ .unsplit g)
    (hnone : findTombstones plan w (changesAt s w key) = .empty)
    (hgroups : (byCells plan w (changesAt s w key)).groups.isEmpty) :
    RowFields.fieldsOf plan.schema (s.wholeRow key w.toEnd) =
      RowFields.fieldsOf plan.schema (s.wholeRow key ⟨0, w.min - 1⟩) := by
  rw [Store.wholeRow_eq, Store.wholeRow_eq]
  refine RowFields.fieldsOf_congr (visible_ascending _ _ _) (visible_ascending _ _ _) fun x hx => ?_
  rw [mem_visible_all, mem_visible_all]
  refine shown_iff_of_untouched hmin hmax (fun m hm hw ha => ?_) fun m hm hw hmark => ?_
  · rw [← ha] at hx
    obtain ⟨g, hg⟩ := Schema.exists_place_of_reading? hx (hsplits m hm hw)
    have hkeys := mem_keys_of_change hnone hm hw (hunmarked m hm hw) hg
    have hne := SortedMap.isEmpty_eq_false hkeys
    rw [hgroups] at hne
    cases hne
  · rw [hunmarked m hm hw] at hmark
    cases hmark

end ChangeSet

end WideRow
