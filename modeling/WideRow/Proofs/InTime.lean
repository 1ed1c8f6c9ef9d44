import WideRow.Proofs.Tombstones

namespace WideRow

/-- Not after the window, and before it only what deletes. -/
def Cell.inTime (w : Window) (c : Cell) : Bool :=
  c.timestamp ≤ w.max && (w.min ≤ c.timestamp || !c.isPut)

def RowCells.inTime (w : Window) (row : RowCells) : RowCells :=
  ⟨row.key, row.cells.filter (·.inTime w)⟩

theorem Cell.inTime_iff {w : Window} {c : Cell} :
    c.inTime w ↔ c.timestamp ≤ w.max ∧ (w.min ≤ c.timestamp ∨ c.isPut = false) := by
  simp [inTime]

namespace ChangeSet

variable {plan : Plan} {w : Window} {row : RowCells} {family : String} {t : Nat}
  {found : SortedMap String Nat} {c : ChangeSet} {x : Cell}

theorem mem_inTime : x ∈ (row.inTime w).cells ↔ x ∈ row.cells ∧ x.inTime w := List.mem_filter

theorem inTime_of_takesPart (h : takesPart w found x) : x.inTime w := by
  obtain ⟨_, hmax, hmin, _⟩ := takesPart_iff.1 h
  exact Cell.inTime_iff.2 ⟨hmax, hmin⟩

theorem filter_takesPart_inTime (w : Window) (row : RowCells) (found : SortedMap String Nat) :
    (row.inTime w).cells.filter (takesPart w found) = row.cells.filter (takesPart w found) := by
  rw [RowCells.inTime, List.filter_filter]
  refine List.filter_congr fun x _ => ?_
  rw [Bool.and_eq_left_iff_imp]
  exact inTime_of_takesPart

theorem ofRow_inTime_of_tombstones
    (h : findTombstones plan w (row.inTime w) = findTombstones plan w row) :
    ofRow plan w (row.inTime w) = ofRow plan w row := by
  simp only [ofRow, h, filter_takesPart_inTime]

theorem findTombstones_of_skip {reason : Skip} (h : ofRow plan w row = .skip reason) :
    findTombstones plan w row = .empty := by
  rcases ofRow_cases plan w row with ⟨_, _, hrow⟩ | ⟨_, hrow⟩
  · rw [hrow] at h
    cases h
  · rw [hrow] at h
    split at h
    next hblank =>
      refine eq_empty_of_latestTime? ?_
      cases hlast : latestTime? (findTombstones plan w row).values with
      | none => rfl
      | some t =>
          -- a tombstone alone is something to delete
          simp [isBlank, deletions_byCells hlast] at hblank
    next => cases h

theorem findTombstones_eq_of_ofRow_eq {row' : RowCells} (h : ofRow plan w row' = ofRow plan w row) :
    findTombstones plan w row' = findTombstones plan w row := by
  cases hrow : ofRow plan w row with
  | skip reason => rw [findTombstones_of_skip hrow, findTombstones_of_skip (h.trans hrow)]
  | ready c => rw [← tombstones_eq_of_ready hrow, ← tombstones_eq_of_ready (h.trans hrow)]

theorem tombstone?_inTime (h : ∀ x ∈ row.cells, x.address = ⟨family, []⟩ → x.timestamp ≤ w.max) :
    tombstone? w (row.inTime w) family = tombstone? w row family := by
  refine Option.ext fun t => ?_
  simp only [tombstone?_eq_some_iff, familyMarker?_eq_some_iff]
  constructor
  · rintro ⟨l, ⟨ha, hl, hlast⟩, hmark, hmin, rfl⟩
    refine ⟨l, ⟨ha, (mem_inTime.1 hl).1, fun x hx hxa => ?_⟩, hmark, hmin, rfl⟩
    -- a cell from before the window does not follow a marker of the window
    by_cases hle : w.min ≤ x.timestamp
    · exact hlast x (mem_inTime.2 ⟨hx, Cell.inTime_iff.2 ⟨h x hx hxa, .inl hle⟩⟩) hxa
    · exact Cell.isLE_of_timestamp_lt (Nat.lt_of_lt_of_le (Nat.lt_of_not_le hle) hmin)
  · rintro ⟨l, ⟨ha, hl, hlast⟩, hmark, hmin, rfl⟩
    have htime : l.inTime w := Cell.inTime_iff.2 ⟨h l hl ha, .inl hmin⟩
    exact ⟨l, ⟨ha, mem_inTime.2 ⟨hl, htime⟩, fun x hx => hlast x (mem_inTime.1 hx).1⟩, hmark, hmin,
      rfl⟩

theorem findTombstones_inTime (h : ∀ f ∈ plan.neededFamilies, ∀ x ∈ row.cells,
    x.address = ⟨f, []⟩ → x.timestamp ≤ w.max) :
    findTombstones plan w (row.inTime w) = findTombstones plan w row := by
  refine SortedMap.ext_get? fun f => ?_
  rw [get?_findTombstones, get?_findTombstones]
  split
  next hf => exact tombstone?_inTime (h f hf)
  next => rfl

/-- Cells that are not in time have an influence on the changes of a row exactly if they have one on
its tombstones, and they have none if the cells at the places of markers of required families are
none of them after the window. -/
theorem ofRow_inTime (plan : Plan) (w : Window) (row : RowCells) :
    (ofRow plan w (row.inTime w) = ofRow plan w row ↔
      findTombstones plan w (row.inTime w) = findTombstones plan w row) ∧
    ((∀ f ∈ plan.neededFamilies, ∀ x ∈ row.cells, x.address = ⟨f, []⟩ → x.timestamp ≤ w.max) →
      ofRow plan w (row.inTime w) = ofRow plan w row) :=
  ⟨⟨findTombstones_eq_of_ofRow_eq, ofRow_inTime_of_tombstones⟩,
    fun h => ofRow_inTime_of_tombstones (findTombstones_inTime h)⟩

private def timedPut (timestamp : Nat) (qualifier value : String) : Cell :=
  ⟨"D", timestamp, .put (Text.Utf8.encode qualifier) (Text.Utf8.encode value)⟩

private def timedInvoice : RowCells :=
  ⟨[107], [timedPut 60 "SR1" "Y", timedPut 40 "RC1" "a", timedPut 300 "SR1" "N", timedPut 40 "" "a",
    ⟨"D", 40, .deleteColumn (Text.Utf8.encode "RC2")⟩,
    ⟨"D", 300, .deleteColumn (Text.Utf8.encode "RC3")⟩]⟩

theorem timed_invoice_alike :
    (timedInvoice.inTime ⟨50, 200⟩).cells =
        [timedPut 60 "SR1" "Y", ⟨"D", 40, .deleteColumn (Text.Utf8.encode "RC2")⟩] ∧
      (ofRow .invoices ⟨50, 200⟩ timedInvoice).reason? = none ∧
      ofRow .invoices ⟨50, 200⟩ (timedInvoice.inTime ⟨50, 200⟩) =
        ofRow .invoices ⟨50, 200⟩ timedInvoice :=
  ⟨by decide, by decide, (ofRow_inTime .invoices ⟨50, 200⟩ timedInvoice).2 (by decide)⟩

private def lateInvoice (late : List Cell) : RowCells := ⟨[107], timedPut 60 "SR1" "Y" :: late⟩

/-- A family marker after the window deletes the whole key and takes away the status of the window,
and a value without a name that is after the window takes the place of a marker in it. -/
theorem late_cells_count :
    Plan.invoices.Built ∧
      (∃ c, ofRow .invoices ⟨50, 200⟩ (lateInvoice [⟨"D", 300, .deleteFamily⟩]) = .ready c ∧
        c.deletions = [⟨.key, 300⟩] ∧ c.groups.isEmpty) ∧
      (∃ c, ofRow .invoices ⟨50, 200⟩
          ((lateInvoice [⟨"D", 300, .deleteFamily⟩]).inTime ⟨50, 200⟩) = .ready c ∧
        c.deletions = [] ∧ c.groups.keys = [noGroup]) ∧
      ofRow .invoices ⟨50, 200⟩
          ((lateInvoice [⟨"D", 70, .deleteFamily⟩, timedPut 300 "" "a"]).inTime ⟨50, 200⟩) ≠
        ofRow .invoices ⟨50, 200⟩ (lateInvoice [⟨"D", 70, .deleteFamily⟩, timedPut 300 "" "a"]) :=
  ⟨Plan.invoices_built, ⟨_, rfl, by decide, by decide⟩, ⟨_, rfl, by decide, by decide⟩, by decide⟩

end ChangeSet

end WideRow
