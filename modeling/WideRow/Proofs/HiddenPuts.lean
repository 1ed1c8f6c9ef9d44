import WideRow.Proofs.Tombstones

namespace WideRow.ChangeSet

variable {plan : Plan} {w : Window} {row : RowCells} {family : String} {c : ChangeSet}
  {m m' x : Cell}

/-- A put of the window that comes after the tombstone of its family, and that no marker of its
column up to the end of the window hides. -/
structure NewValue (plan : Plan) (w : Window) (row : RowCells) (x : Cell) : Prop where
  mem : x ∈ row.cells
  isPut : x.isPut
  contains : w.contains x.timestamp
  later : ∀ t, (findTombstones plan w row).get? x.family = some t → t < x.timestamp
  unhidden : ∀ m ∈ row.cells, m.isFamilyMarker = false → m.timestamp ≤ w.max → m.hides x = false

theorem newValue_of_mem_putCells (h : ofRow plan w row = .ready c) (hx : x ∈ c.putCells) :
    NewValue plan w row x := by
  obtain ⟨g, _, hkept⟩ := kept_of_ready h hx
  obtain ⟨hin, hput, _⟩ := mem_keptPuts.1 hkept
  obtain ⟨hmem, htakes⟩ := List.mem_filter.1 (mem_inGroups.1 hin).1
  obtain ⟨_, hmax, hmin, hlater⟩ := takesPart_iff.1 htakes
  have hmin : w.min ≤ x.timestamp := hmin.resolve_right (by simp [hput])
  refine ⟨hmem, hput, Window.contains_iff.2 ⟨hmin, hmax⟩, hlater, fun m hm hcolumn hle => ?_⟩
  -- a marker of the column that hid it would be a change itself
  refine Bool.eq_false_iff.2 fun hh => ?_
  have hpart := List.mem_filter.2 ⟨hm, takesPart_of_hides htakes hh hcolumn hle⟩
  exact absurd hh (by simp [hides_eq_false_of_kept hkept hpart hcolumn])

/-- A family of which some marker is not overtaken has a tombstone. None of its markers is later,
apart from such before the window. -/
theorem exists_tombstone_of_not_overtaken (hm' : Marks row family m') (hnot : ¬Overtaken row m')
    (hm : Marks row family m) (hmin : w.min ≤ m.timestamp) :
    ∃ t, tombstone? w row family = some t ∧ m.timestamp ≤ t := by
  obtain ⟨l, hl⟩ := exists_familyMarker? hm'.mem_place
  have hmark := isFamilyMarker_of_not_overtaken hm' hnot hl
  have hle := (marks_of_familyMarker? hl hmark).2 m hm.1 hm.address
  exact ⟨l.timestamp, tombstone?_eq_some_iff.2 ⟨l, hl, hmark, Nat.le_trans hmin hle, rfl⟩, hle⟩

/-- No new value of a row is hidden by a marker up to the end of the window, if as a marker of a
family it belongs to a required family, of which some marker is not overtaken. -/
theorem not_hidden_of_new (h : ofRow plan w row = .ready c) (hx : x ∈ c.putCells)
    (hm : m ∈ row.cells) (hmax : m.timestamp ≤ w.max)
    (hseen : m.isFamilyMarker → m.family ∈ plan.neededFamilies ∧
      ∃ m', Marks row m.family m' ∧ ¬Overtaken row m') : m.hides x = false := by
  have hnew := newValue_of_mem_putCells h hx
  cases hmark : m.isFamilyMarker with
  | false => exact hnew.unhidden m hm hmark hmax
  | true =>
      obtain ⟨hneeded, m', hm', hnot⟩ := hseen hmark
      refine Bool.eq_false_iff.2 fun hh => ?_
      obtain ⟨hfamily, _, hle, _⟩ := Cell.of_hides hh
      have hmin := Nat.le_trans (Window.contains_iff.1 hnew.contains).1 hle
      obtain ⟨t, ht, hmt⟩ := exists_tombstone_of_not_overtaken hm' hnot ⟨hm, hmark, rfl⟩ hmin
      have hlt : t < x.timestamp := by
        refine hnew.later t ?_
        rw [← hfamily, get?_findTombstones, if_pos hneeded, ht]
      omega

private def deletedLines : RowCells :=
  ⟨[107], [⟨"D", 60, .put (Text.Utf8.encode "RC1") [97]⟩, ⟨"D", 70, .deleteFamily⟩,
    ⟨"D", 65, .put [] [98]⟩, ⟨"D", 80, .put (Text.Utf8.encode "RC2") [99]⟩,
    ⟨"D", 75, .delete (Text.Utf8.encode "RC2")⟩]⟩

theorem renewed_line_unhidden :
    ∃ c, ofRow .invoices ⟨50, 200⟩ deletedLines = .ready c ∧
      c.putCells = [⟨"D", 80, .put (Text.Utf8.encode "RC2") [99]⟩] ∧
      ∀ m ∈ deletedLines.cells, m.hides ⟨"D", 80, .put (Text.Utf8.encode "RC2") [99]⟩ = false := by
  obtain ⟨c, hc, hputs⟩ : ∃ c, ofRow .invoices ⟨50, 200⟩ deletedLines = .ready c ∧
      c.putCells = [⟨"D", 80, .put (Text.Utf8.encode "RC2") [99]⟩] := ⟨_, rfl, by decide⟩
  have hmax : ∀ m ∈ deletedLines.cells, m.timestamp ≤ 200 := by decide
  have hfamily : ∀ m ∈ deletedLines.cells, m.family = "D" := by decide
  have hmarks : Marks deletedLines "D" ⟨"D", 70, .deleteFamily⟩ := ⟨by decide, rfl, rfl⟩
  have hnot : ¬Overtaken deletedLines ⟨"D", 70, .deleteFamily⟩ := by
    unfold Overtaken
    decide
  refine ⟨c, hc, hputs, fun m hm => ?_⟩
  refine not_hidden_of_new hc (hputs ▸ List.mem_singleton.2 rfl) hm (hmax m hm) fun _ => ?_
  rw [hfamily m hm]
  exact ⟨by decide, _, hmarks, hnot⟩

private def statusOverLines : Plan where
  schema := ⟨⟨"|", [⟨"id", .plain, .string⟩]⟩, [⟨"D", Text.Utf8.encode "SR1", "SR1", .string⟩],
    [⟨"X", "RC", "RC", "", ⟨["line"], none⟩, .string⟩]⟩
  selection := [⟨"D", "SR1"⟩]
  predicate := none
  documents := []

private def KeepsHidden (plan : Plan) (cells : List Cell) : Prop :=
  ∃ c, ofRow plan ⟨50, 200⟩ ⟨[107], cells⟩ = .ready c ∧
    ∃ x ∈ c.putCells, ∃ m ∈ cells, m.timestamp ≤ 200 ∧ m.hides x

/-- A line is kept that is deleted with a family which is not required, and a status is kept where a
value without a name stands before the marker that deletes it. -/
theorem hidden_values_kept :
    (statusOverLines.Built ∧ KeepsHidden statusOverLines
      [⟨"D", 60, .put (Text.Utf8.encode "SR1") [97]⟩,
        ⟨"X", 60, .put (Text.Utf8.encode "RC1") [98]⟩, ⟨"X", 70, .deleteFamily⟩]) ∧
    (Plan.invoices.Built ∧ KeepsHidden .invoices
      [⟨"D", 60, .put (Text.Utf8.encode "SR1") [97]⟩, ⟨"D", 70, .deleteFamily⟩,
        ⟨"D", 80, .put [] [98]⟩]) := by
  have hbuilt : statusOverLines.Built := ⟨rfl, rfl, [.ofColumn ⟨"D", "SR1"⟩], none, [], rfl⟩
  exact ⟨⟨hbuilt, _, rfl, by decide⟩, Plan.invoices_built, _, rfl, by decide⟩

end WideRow.ChangeSet
