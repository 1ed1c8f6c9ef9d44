import WideRow.Proofs.BuiltPlan
import WideRow.Proofs.Completion
import WideRow.Proofs.Fields

namespace WideRow

namespace Plan

variable {plan : Plan}

theorem mem_needed_of_static {t : StaticColumn} (h : t ∈ plan.neededStatics) :
    t ∈ plan.schema.statics ∧ t.columnName ∈ plan.needed := by
  obtain ⟨name, hname, ht⟩ := List.mem_filterMap.1 h
  obtain ⟨hmem, rfl⟩ := Schema.mem_of_static? ht
  exact ⟨hmem, hname⟩

theorem mem_needed_of_dynamic {d : DynamicColumn} (h : d ∈ plan.neededDynamics) :
    d ∈ plan.schema.dynamics ∧ d.columnName ∈ plan.needed := by
  obtain ⟨name, hname, hd⟩ := List.mem_filterMap.1 h
  obtain ⟨hmem, rfl⟩ := Schema.mem_of_dynamic? hd
  exact ⟨hmem, (List.mem_filter.1 hname).1⟩

theorem static_of_readsAs (hs : plan.schema.Sound) {name : ColumnName} {a : Address}
    (hname : name ∈ plan.needed) (h : plan.schema.readsAs name noGroup a) :
    ∃ t ∈ plan.neededStatics, t.address = a := by
  obtain ⟨t, ht, ha⟩ := Schema.static_of_readsAs hs h
  exact ⟨t, List.mem_filterMap.2 ⟨name, hname, ht⟩, ha⟩

theorem dynamic_of_readsAs (hs : plan.schema.Sound) {name : ColumnName} {g : String} {a : Address}
    (hg : g ≠ noGroup) (hname : name ∈ plan.needed) (h : plan.schema.readsAs name g a) :
    ∃ d ∈ plan.neededDynamics, d.addressOf g = a := by
  obtain ⟨d, hnone, hd, ha⟩ := Schema.dynamic_of_readsAs hs hg h
  exact ⟨d, List.mem_filterMap.2 ⟨name, List.mem_filter.2 ⟨hname, by simp [hnone]⟩, hd⟩, ha⟩

theorem family_mem_neededFamilies {name : ColumnName} (h : name ∈ plan.needed) :
    name.family ∈ plan.neededFamilies := by
  rw [neededFamilies, SortedSet.mem_members_ofList]
  exact List.mem_map_of_mem h

theorem family_of_readsAs (hs : plan.schema.Sound) {name : ColumnName} {g : String} {a : Address}
    (hname : name ∈ plan.needed) (h : plan.schema.readsAs name g a) :
    a.family ∈ plan.neededFamilies := by
  rw [Schema.family_of_readsAs hs h]
  exact family_mem_neededFamilies hname

end Plan

namespace ChangeSet

variable {plan : Plan} {s : Store} {w : Window} {row : RowCells} {c : ChangeSet} {L : List Cell}
  {x : Cell}

theorem family_of_asked {groups : SortedMap String GroupDiff} {a : Address}
    (h : Asked plan groups a) : a.family ∈ plan.neededFamilies := by
  rcases h with ⟨t, ht, rfl⟩ | ⟨g, _, _, d, hd, rfl⟩
  · exact Plan.family_mem_neededFamilies (Plan.mem_needed_of_static ht).2
  · exact Plan.family_mem_neededFamilies (Plan.mem_needed_of_dynamic hd).2

/-- A column of a required family is settled by a rescan, and an asked one in any case. -/
def Settled (plan : Plan) (c : ChangeSet) (a : Address) : Prop :=
  a.family ∈ plan.neededFamilies ∧
    (c.mustRescan ∨ c.groups.isEmpty = false ∧ Asked plan c.groups a)

theorem mem_completed_of_settled (hrow : row ∈ s.changes w)
    (hnamed : Named plan row.cells)
    (hready : ofRow plan w row = .ready c)
    (hL : c.complete (.ofStore s) plan w row.key () = .ok (.ready L) ())
    (ha : Settled plan c x.address) : x ∈ L ↔ Shown (s.cellsAt row.key) w.toEnd x := by
  have hcells := Store.cells_of_mem_changes hrow
  have hcov := covered_of_named hcells hnamed ha.1
  cases hm : c.mustRescan with
  | true =>
      rw [conclude_of_mustRescan hm hL, mem_visible]
      exact and_iff_right (asksFor_families ha.1)
  | false =>
      obtain ⟨hgroups, hasked⟩ := ha.2.resolve_left (by simp [hm])
      rcases ofRow_eq_ready hready with ⟨t, _, rfl⟩ | ⟨_, hc⟩
      · cases hm
      · obtain ⟨all, deletion, hby⟩ := byCells_eq_ofCells hcells
        exact mem_completed_of_asked (hc.trans hby) hm hgroups hL hcov hasked

variable {key : List Field}

theorem named_completed (hrow : row ∈ s.changes w)
    (hnamed : Named plan row.cells)
    (hready : ofRow plan w row = .ready c)
    (hL : c.complete (.ofStore s) plan w row.key () = .ok (.ready L) ())
    {name : ColumnName} {g : String}
    (ha : ∀ a, plan.schema.readsAs name g a → Settled plan c a) :
    RowFields.named plan.schema L name g =
      RowFields.named plan.schema (s.wholeRow row.key w.toEnd) name g := by
  rw [Store.wholeRow_eq]
  refine RowFields.named_congr (completed_ascending hL) (visible_ascending _ _ _) fun x hx => ?_
  rw [mem_completed_of_settled hrow hnamed hready hL (ha _ hx), mem_visible_all]

/-- Whatever the changes are, the required static fields of a changed row and the required fields of
its changed groups are those that a read of the whole row shows at the end of the window. -/
theorem complete_agrees_with_scan (hplan : plan.Built) (hrow : row ∈ s.changes w)
    (hnamed : ∀ x ∈ row.cells, x.isFamilyMarker ∨ x.qualifier ≠ [])
    (hready : ofRow plan w row = .ready c)
    (hchanged : c.groups.isEmpty = false ∨ c.mustRescan)
    (hL : c.complete (.ofStore s) plan w row.key () = .ok (.ready L) ()) :
    (∀ t ∈ plan.neededStatics,
      (RowFields.ofCells plan.schema key L).statics.filter (·.columnName == t.columnName) =
        (RowFields.ofCells plan.schema key (s.wholeRow row.key w.toEnd)).statics.filter
          (·.columnName == t.columnName)) ∧
      ∀ g ∈ c.groups.keys, g ≠ noGroup → ∀ d ∈ plan.neededDynamics,
        ((RowFields.ofCells plan.schema key L).groupFields g).filter
            (·.columnName == d.columnName) =
          ((RowFields.ofCells plan.schema key (s.wholeRow row.key w.toEnd)).groupFields g).filter
            (·.columnName == d.columnName) := by
  have hsound := hplan.sound.schema
  have hnamed : Named plan row.cells := fun x hx _ => hnamed x hx
  have settled {a : Address} (ha : Asked plan c.groups a) : Settled plan c a :=
    ⟨family_of_asked ha, hchanged.symm.imp_right fun h => ⟨h, ha⟩⟩
  constructor
  · intro t ht
    have hname := (Plan.mem_needed_of_static ht).2
    rw [RowFields.named_static, RowFields.named_static]
    exact named_completed hrow hnamed hready hL fun a ha =>
      settled (.inl (Plan.static_of_readsAs hsound hname ha))
  · intro g hg hne d hd
    have hname := (Plan.mem_needed_of_dynamic hd).2
    rw [RowFields.named_dynamic hne, RowFields.named_dynamic hne]
    exact named_completed hrow hnamed hready hL fun a ha =>
      settled (.inr ⟨g, hg, hne, Plan.dynamic_of_readsAs hsound hne hname ha⟩)

private def storedInvoice : Store :=
  .insertAll .empty [107] [⟨"D", 10, .put (Text.Utf8.encode "SR1") (Text.Utf8.encode "Y")⟩,
    ⟨"D", 20, .put (Text.Utf8.encode "RC1") (Text.Utf8.encode "a")⟩,
    ⟨"D", 60, .put (Text.Utf8.encode "RC1") (Text.Utf8.encode "b")⟩,
    ⟨"D", 70, .deleteColumn (Text.Utf8.encode "RC2")⟩]

private def newLine : Cell := ⟨"D", 60, .put (Text.Utf8.encode "RC1") (Text.Utf8.encode "b")⟩

private def invoiceChanges : RowCells :=
  ⟨[107], [newLine, ⟨"D", 70, .deleteColumn (Text.Utf8.encode "RC2")⟩]⟩

private def invoiceDiff : ChangeSet :=
  ofCells .invoices .empty false none invoiceChanges.cells

theorem changed_invoice_agrees :
    invoiceChanges ∈ storedInvoice.changes ⟨50, 200⟩ ∧
      ofRow .invoices ⟨50, 200⟩ invoiceChanges = .ready invoiceDiff ∧
      invoiceDiff.complete (.ofStore storedInvoice) .invoices ⟨50, 200⟩ [107] () = .ok (.ready
        [newLine, ⟨"D", 10, .put (Text.Utf8.encode "SR1") (Text.Utf8.encode "Y")⟩]) () ∧
      ∀ g ∈ invoiceDiff.groups.keys, g ≠ noGroup → ∀ d ∈ Plan.invoices.neededDynamics,
        ((RowFields.ofCells Plan.invoices.schema []
            [newLine, ⟨"D", 10, .put (Text.Utf8.encode "SR1") (Text.Utf8.encode "Y")⟩]).groupFields
          g).filter (·.columnName == d.columnName) =
        ((RowFields.ofCells Plan.invoices.schema []
            (storedInvoice.wholeRow [107] ⟨0, 200⟩)).groupFields g).filter
          (·.columnName == d.columnName) := by
  have hrow : invoiceChanges ∈ storedInvoice.changes ⟨50, 200⟩ := by decide
  have hready : ofRow .invoices ⟨50, 200⟩ invoiceChanges = .ready invoiceDiff := by decide
  have hL : invoiceDiff.complete (.ofStore storedInvoice) .invoices ⟨50, 200⟩ [107] () =
      .ok (.ready
        [newLine, ⟨"D", 10, .put (Text.Utf8.encode "SR1") (Text.Utf8.encode "Y")⟩]) () := rfl
  exact ⟨hrow, hready, hL, (complete_agrees_with_scan Plan.invoices_built hrow (by decide) hready
    (.inl (by decide)) hL).2⟩

end ChangeSet

end WideRow
