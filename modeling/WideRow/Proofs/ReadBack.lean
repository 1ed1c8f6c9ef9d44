import WideRow.Proofs.ChangedColumns

namespace WideRow.ChangeSet

variable {plan : Plan} {s : Store} {w : Window} {row : RowCells} {c : ChangeSet} {L : List Cell}
  {x : Cell} {e : DynamicColumn} {key : List Field} {g : String}

def Provided (plan : Plan) (c : ChangeSet) (g : String) : Prop :=
  ∀ d ∈ plan.neededDynamics,
    (∃ x ∈ c.putCells, x.address = d.addressOf g) ∨ d.addressOf g ∈ c.backfill

/-- A value that is read back for the column `d` of a changed group `g'`, and that is the value of
another column `e` in the group `g`. -/
structure ReadAcross (plan : Plan) (c : ChangeSet) (x : Cell) (d : DynamicColumn) (g' : String)
    (e : DynamicColumn) (g : String) : Prop where
  needed : d ∈ plan.neededDynamics
  changed : g' ∈ c.groups.keys
  address : x.address = d.addressOf g'
  asked : x.address ∈ c.backfill
  reading : plan.schema.reading? x.address = some (.dynamic e g)
  other : e ≠ d
  longest : d.fixedLength ≤ e.fixedLength

theorem provided_of_changed (hready : ofRow plan w row = .ready c) (hm : c.mustRescan = false)
    (hg : g ∈ c.groups.keys) (hne : g ≠ noGroup) : Provided plan c g := by
  intro d hd
  rcases ofRow_eq_ready hready with ⟨_, _, rfl⟩ | ⟨_, hc⟩
  · cases hm
  · cases hput : (putsOf c.groups g).get? (d.addressOf g) with
    | some x =>
        refine .inl ⟨x, mem_putCells.2 ⟨g, _, hput⟩, ?_⟩
        rw [hc] at hput
        exact address_of_get?_putsOf hput
    | none =>
        right
        rw [backfill_of_changed hc hm (SortedMap.isEmpty_eq_false hg), mem_columnsToRead]
        exact .inr ⟨g, hg, hne, d, hd, rfl, hput⟩

theorem exists_changed_of_backfill (hready : ofRow plan w row = .ready c)
    (hasked : x.address ∈ c.backfill)
    (hread : plan.schema.reading? x.address = some (.dynamic e g)) :
    ∃ g' ∈ c.groups.keys, g' ≠ noGroup ∧ ∃ d ∈ plan.neededDynamics, x.address = d.addressOf g' := by
  have hcolumns := mem_columnsToRead_of_backfill hready hasked
  rcases mem_columnsToRead.1 hcolumns with ⟨t, ht, ha, _⟩ | ⟨g', hg', hne', d, hd, ha, _⟩
  · obtain ⟨t', hstatic⟩ := Schema.reading?_address (Plan.mem_needed_of_static ht).1
    rw [ha, hread] at hstatic
    cases hstatic
  · exact ⟨g', hg', hne', d, hd, ha.symm⟩

theorem changed_or_readAcross (hs : plan.schema.Sound) (hready : ofRow plan w row = .ready c)
    (hasked : x.address ∈ c.backfill)
    (hread : plan.schema.reading? x.address = some (.dynamic e g)) :
    g ∈ c.groups.keys ∨ ∃ d g', ReadAcross plan c x d g' e g := by
  obtain ⟨g', hg', hne', d, hd, ha⟩ := exists_changed_of_backfill hready hasked hread
  obtain ⟨_, hown, _⟩ := Schema.dynamic_of_reading? hs hread
  by_cases he : e = d
  · subst he
    rw [DynamicColumn.addressOf_inj (hown.trans ha)]
    exact .inl hg'
  · refine .inr ⟨d, g', hd, hg', ha, hasked, hread, he, ?_⟩
    rw [ha] at hread
    exact Schema.fixedLength_le_of_reading? (Plan.mem_needed_of_dynamic hd).1 hne' hread

/-- The groups of a row that was not read again are groups that changed, with all of their required
columns; other groups come of values that are read across columns. -/
theorem groups_of_completed (hplan : plan.Built) (hready : ofRow plan w row = .ready c)
    (hm : c.mustRescan = false)
    (hL : c.complete (.ofStore s) plan w row.key () = .ok (.ready L) ())
    (hg : g ∈ (RowFields.ofCells plan.schema key L).groups.keys) :
    g ∈ c.groups.keys ∧ Provided plan c g ∨ ∃ x ∈ L, ∃ d g' e, ReadAcross plan c x d g' e g := by
  obtain ⟨hne, x, hx, _, reading, hread, rfl⟩ := RowFields.mem_keys_groups_iff.1 hg
  have hchanged (h : reading.group ∈ c.groups.keys) :
      reading.group ∈ c.groups.keys ∧ Provided plan c reading.group :=
    ⟨h, provided_of_changed hready hm h hne⟩
  rcases mem_completed_cases hm hL hx with ⟨hasked, _⟩ | hnew
  · cases reading with
    | static t => exact absurd rfl hne
    | dynamic e g =>
        rcases changed_or_readAcross hplan.sound.schema hready hasked hread with h | ⟨d, g', h⟩
        · exact .inl (hchanged h)
        · exact .inr ⟨x, hx, d, g', e, h⟩
  · obtain ⟨g, hg, hkept⟩ := kept_of_ready hready hnew
    have hplace := (mem_inGroups.1 (mem_keptPuts.1 hkept).1).2
    obtain ⟨reading', hread', rfl, _⟩ := Schema.place_eq_inGroup_iff.1 hplace
    cases hread.symm.trans hread'
    exact .inl (hchanged hg)

private def itemizedInvoice : Store :=
  .insertAll .empty [107] [⟨"D", 10, .put (Text.Utf8.encode "SR1") [97]⟩,
    ⟨"D", 20, .put (Text.Utf8.encode "RC2") [98]⟩, ⟨"D", 60, .put (Text.Utf8.encode "RC1") [99]⟩]

private def newItemLine : RowCells := ⟨[107], [⟨"D", 60, .put (Text.Utf8.encode "RC1") [99]⟩]⟩

private def itemizedCells : List Cell :=
  [⟨"D", 60, .put (Text.Utf8.encode "RC1") [99]⟩, ⟨"D", 10, .put (Text.Utf8.encode "SR1") [97]⟩]

theorem changed_line_alone :
    newItemLine ∈ itemizedInvoice.changes ⟨50, 200⟩ ∧
      ∃ c, ofRow .invoices ⟨50, 200⟩ newItemLine = .ready c ∧ c.mustRescan = false ∧
        c.complete (.ofStore itemizedInvoice) .invoices ⟨50, 200⟩ [107] () =
          .ok (.ready itemizedCells) () ∧
        (RowFields.ofCells Plan.invoices.schema [] itemizedCells).groups.keys = ["1"] ∧
        ("1" ∈ c.groups.keys ∧ Provided .invoices c "1" ∨
          ∃ x ∈ itemizedCells, ∃ d g' e, ReadAcross .invoices c x d g' e "1") := by
  have hkeys : (RowFields.ofCells Plan.invoices.schema [] itemizedCells).groups.keys = ["1"] := by
    decide
  obtain ⟨c, hready, hm, hL⟩ : ∃ c, ofRow .invoices ⟨50, 200⟩ newItemLine = .ready c ∧
      c.mustRescan = false ∧
      c.complete (.ofStore itemizedInvoice) .invoices ⟨50, 200⟩ [107] () =
        .ok (.ready itemizedCells) () := ⟨_, rfl, rfl, rfl⟩
  refine ⟨by decide, c, hready, hm, hL, hkeys, ?_⟩
  exact groups_of_completed Plan.invoices_built hready hm hL (hkeys ▸ List.mem_singleton.2 rfl)

private def nestedColumns : Plan where
  schema := ⟨⟨"|", [⟨"id", .plain, .string⟩]⟩, [],
    [⟨"D", "R", "R", "", ⟨["line"], none⟩, .string⟩,
      ⟨"D", "RC", "RC", "", ⟨["line"], none⟩, .string⟩]⟩
  selection := [⟨"D", "R"⟩, ⟨"D", "RC"⟩]
  predicate := none
  documents := []

private def nestedStore : Store :=
  .insertAll .empty [107] [⟨"D", 5, .put (Text.Utf8.encode "RCx") [97]⟩,
    ⟨"D", 6, .put (Text.Utf8.encode "Rx") [98]⟩, ⟨"D", 60, .put (Text.Utf8.encode "RCCx") [99]⟩]

/-- What is read back in the column `R` of the group `Cx` is a value of the column `RC` in the group
`x`, which is not changed and of which the column `R` is not read. -/
theorem unchanged_group_read_back :
    nestedColumns.Built ∧ ∃ row ∈ nestedStore.changes ⟨50, 200⟩,
      ∃ c, ofRow nestedColumns ⟨50, 200⟩ row = .ready c ∧ c.mustRescan = false ∧
        ∃ L, c.complete (.ofStore nestedStore) nestedColumns ⟨50, 200⟩ row.key () =
            .ok (.ready L) () ∧
          "x" ∈ (RowFields.ofCells nestedColumns.schema [] L).groups.keys ∧
          "x" ∉ c.groups.keys ∧ ∀ x ∈ L, x.qualifier ≠ Text.Utf8.encode "Rx" := by
  have hbuilt : nestedColumns.Built :=
    ⟨rfl, rfl, [.ofColumn ⟨"D", "R"⟩, .ofColumn ⟨"D", "RC"⟩], none, [], rfl⟩
  refine ⟨hbuilt, ⟨[107], [⟨"D", 60, .put (Text.Utf8.encode "RCCx") [99]⟩]⟩, by decide, ?_⟩
  exact ⟨_, rfl, by decide, _, rfl, by decide⟩

end WideRow.ChangeSet
