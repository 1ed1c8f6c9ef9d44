import WideRow.Proofs.Completion

namespace WideRow

theorem Cell.isFamilyMarker_iff_rank {c : Cell} : c.isFamilyMarker ↔ 3 ≤ c.content.rank := by
  rw [isFamilyMarker]
  cases c.content <;> simp [Content.isFamilyMarker, Content.rank]

namespace ChangeSet

variable {plan : Plan} {w : Window} {row : RowCells} {family : String} {t : Nat} {m l : Cell}

def Marks (row : RowCells) (family : String) (m : Cell) : Prop :=
  m ∈ row.cells ∧ m.isFamilyMarker ∧ m.family = family

/-- Some other cell at the place of a marker is later than it. -/
def Overtaken (row : RowCells) (m : Cell) : Prop :=
  ∃ x ∈ row.cells, x.address = ⟨m.family, []⟩ ∧ x.isFamilyMarker = false ∧ m.timestamp < x.timestamp

theorem Marks.address (h : Marks row family m) : m.address = ⟨family, []⟩ := by
  obtain ⟨_, hmark, rfl⟩ := h
  rw [Cell.address, qualifier_of_isFamilyMarker hmark]

theorem Marks.mem_place (h : Marks row family m) : m ∈ Cell.atAddress ⟨family, []⟩ row.cells :=
  Cell.mem_atAddress.2 ⟨h.1, h.address⟩

theorem marks_of_familyMarker? (hl : row.familyMarker? family = some l)
    (hmark : l.isFamilyMarker) :
    Marks row family l ∧ ∀ x ∈ row.cells, x.address = ⟨family, []⟩ → x.timestamp ≤ l.timestamp := by
  obtain ⟨hmem, hmax⟩ := Cell.latest?_spec hl
  obtain ⟨hrow, haddress⟩ := Cell.mem_atAddress.1 hmem
  refine ⟨⟨hrow, hmark, congrArg Address.family haddress⟩, fun x hx hxa => ?_⟩
  exact Cell.timestamp_le_of_order (hmax x (Cell.mem_atAddress.2 ⟨hx, hxa⟩))

theorem isFamilyMarker_of_not_overtaken (hm : Marks row family m) (hnot : ¬Overtaken row m)
    (hl : row.familyMarker? family = some l) : l.isFamilyMarker := by
  obtain ⟨hmem, hmax⟩ := Cell.latest?_spec hl
  obtain ⟨hrow, haddress⟩ := Cell.mem_atAddress.1 hmem
  have horder := hmax m hm.mem_place
  by_cases hmark : l.isFamilyMarker
  · exact hmark
  · have hle : l.timestamp ≤ m.timestamp := by
      refine Nat.le_of_not_lt fun hlt => hnot ⟨l, hrow, ?_, Bool.eq_false_iff.2 hmark, hlt⟩
      rw [haddress, hm.2.2]
    have htime := Nat.le_antisymm (Cell.timestamp_le_of_order horder) hle
    have hrank := Cell.rank_le_of_order horder htime
    rw [Cell.isFamilyMarker_iff_rank] at hmark ⊢
    exact Nat.le_trans (Cell.isFamilyMarker_iff_rank.1 hm.2.1) hrank

theorem familyMarker?_eq_some_iff :
    row.familyMarker? family = some l ↔ l.address = ⟨family, []⟩ ∧ l ∈ row.cells ∧
      ∀ x ∈ row.cells, x.address = ⟨family, []⟩ → (x.order l).isLE := by
  have hslot : row.familyMarker? family = (Cell.latestByColumn row.cells).get? ⟨family, []⟩ :=
    (Cell.get?_latestByColumn row.cells ⟨family, []⟩).symm
  rw [hslot, Cell.get?_latestByColumn_eq_some_iff]

theorem tombstone?_eq_some_iff :
    tombstone? w row family = some t ↔
      ∃ l, row.familyMarker? family = some l ∧ l.isFamilyMarker ∧ w.min ≤ t ∧ l.timestamp = t := by
  rw [tombstone?, Option.bind_eq_bind, Option.bind_eq_some_iff]
  refine exists_congr fun l => and_congr_right fun _ => ?_
  simp only [Option.ite_none_right_eq_some, Option.some.injEq, Bool.and_eq_true, decide_eq_true_eq]
  constructor
  · rintro ⟨⟨hmark, hmin⟩, rfl⟩
    exact ⟨hmark, hmin, rfl⟩
  · rintro ⟨hmark, hmin, rfl⟩
    exact ⟨⟨hmark, hmin⟩, rfl⟩

theorem isSome_tombstone?_iff (hrow : ∀ c ∈ row.cells, w.contains c.timestamp) :
    (tombstone? w row family).isSome ↔ ∃ m, Marks row family m ∧ ¬Overtaken row m := by
  rw [Option.isSome_iff_exists]
  constructor
  · rintro ⟨t, ht⟩
    obtain ⟨l, hl, hmark, _⟩ := tombstone?_eq_some_iff.1 ht
    obtain ⟨hmarks, hlast⟩ := marks_of_familyMarker? hl hmark
    refine ⟨l, hmarks, ?_⟩
    rintro ⟨x, hx, haddress, _, hlater⟩
    rw [hmarks.2.2] at haddress
    exact absurd (hlast x hx haddress) (Nat.not_le.2 hlater)
  · rintro ⟨m, hm, hnot⟩
    obtain ⟨l, hl⟩ := exists_familyMarker? hm.mem_place
    have hmark := isFamilyMarker_of_not_overtaken hm hnot hl
    have hmem := (familyMarker?_eq_some_iff.1 hl).2.1
    have hmin : w.min ≤ l.timestamp := (Window.contains_iff.1 (hrow l hmem)).1
    exact ⟨l.timestamp, tombstone?_eq_some_iff.2 ⟨l, hl, hmark, hmin, rfl⟩⟩

theorem tombstones_eq_of_ready {c : ChangeSet} (h : ofRow plan w row = .ready c) :
    c.tombstones = findTombstones plan w row := by
  rcases ofRow_eq_ready h with ⟨t, _, rfl⟩ | ⟨_, rfl⟩
  · rfl
  · rfl

theorem tombstones_of_ready {c : ChangeSet} (h : ofRow plan w row = .ready c)
    (hf : family ∈ plan.neededFamilies) : c.tombstones.get? family = tombstone? w row family := by
  rw [tombstones_eq_of_ready h, get?_findTombstones, if_pos hf]

/-- Any cell that takes part leaves something to delete, to put out or to warn of. -/
theorem isBlank_ofCells {found : SortedMap String Nat} {all : Bool} {deletion : Option Deletion}
    {cells : List Cell} {x : Cell} (hx : x ∈ cells) :
    (ofCells plan found all deletion cells).isBlank = false := by
  rw [isBlank, Bool.and_eq_false_iff, Bool.and_eq_false_iff, Bool.and_eq_false_iff]
  cases hplace : plan.schema.place x.address with
  | unrecognized =>
      refine .inl (.inr (SortedMap.isEmpty_eq_false (k := x.address) ?_))
      refine SortedSet.mem_members_ofList.2 (List.mem_filter.2 ⟨List.mem_map_of_mem hx, ?_⟩)
      rw [hplace]
      rfl
  | unsplit g =>
      refine .inr (SortedMap.isEmpty_eq_false (k := g) ?_)
      refine SortedSet.mem_members_ofList.2 (List.mem_filterMap.2 ⟨x, hx, ?_⟩)
      rw [hplace]
      rfl
  | inGroup g =>
      have hin : (g, x) ∈ inGroups plan.schema cells := mem_inGroups.2 ⟨hx, hplace⟩
      obtain ⟨g', hg'⟩ := exists_mem_keys_gather hin
      exact .inl (.inl (.inl (SortedMap.isEmpty_eq_false hg')))

theorem ready_of_marks (hrow : ∀ c ∈ row.cells, w.contains c.timestamp)
    (hf : family ∈ plan.neededFamilies) (hm : Marks row family m) :
    ∃ c, ofRow plan w row = .ready c := by
  rcases ofRow_cases plan w row with ⟨t, _, h⟩ | ⟨_, h⟩
  · exact ⟨_, h⟩
  · have hblank : (byCells plan w row).isBlank = false := by
      cases hlast : latestTime? (findTombstones plan w row).values with
      | some t => simp [isBlank, deletions_byCells hlast]
      | none =>
          -- no tombstone at all, so the latest cell at the place is a change of its own
          have hnone := eq_empty_of_latestTime? hlast
          obtain ⟨l, hl⟩ := exists_familyMarker? hm.mem_place
          obtain ⟨hlrow, _⟩ := Cell.mem_atAddress.1 (Cell.latest?_spec hl).1
          obtain ⟨hmin, hmax⟩ := Window.contains_iff.1 (hrow l hlrow)
          have hmark : l.isFamilyMarker = false := by
            have hno : tombstone? w row family = none := by
              have hget := get?_findTombstones plan w row family
              rw [if_pos hf, hnone] at hget
              exact hget.symm
            simpa [tombstone?, hl, hmin] using hno
          refine isBlank_ofCells (List.mem_filter.2 ⟨hlrow, ?_⟩)
          simp [takesPart, hnone, hmark, hmin, hmax]
    rw [hblank] at h
    exact ⟨_, h⟩

/-- A required family has a tombstone in a row of the window exactly if one of its markers is not
overtaken, and then at the time of the last of them. A row with such a marker is never passed
over. -/
theorem tombstone_iff_marked (hrow : ∀ c ∈ row.cells, w.contains c.timestamp)
    (hf : family ∈ plan.neededFamilies) :
    (∀ c, ofRow plan w row = .ready c →
      ((c.tombstones.get? family).isSome ↔ ∃ m, Marks row family m ∧ ¬Overtaken row m) ∧
      ∀ t, c.tombstones.get? family = some t →
        (∃ m, Marks row family m ∧ m.timestamp = t) ∧
          ∀ m, Marks row family m → m.timestamp ≤ t) ∧
    ((∃ m, Marks row family m) → ∃ c, ofRow plan w row = .ready c) := by
  refine ⟨fun c hc => ?_, ?_⟩
  · rw [tombstones_of_ready hc hf]
    refine ⟨isSome_tombstone?_iff hrow, fun t ht => ?_⟩
    obtain ⟨l, hl, hmark, _, rfl⟩ := tombstone?_eq_some_iff.1 ht
    obtain ⟨hmarks, hlast⟩ := marks_of_familyMarker? hl hmark
    exact ⟨⟨l, hmarks, rfl⟩, fun m hm => hlast m hm.1 hm.address⟩
  · rintro ⟨m, hm⟩
    exact ready_of_marks hrow hf hm

private def deletedInvoice (later : Nat) : RowCells :=
  ⟨[107], [⟨"D", 70, .deleteFamily⟩, ⟨"D", 60, .deleteFamilyVersion⟩, ⟨"D", later, .put [] [97]⟩]⟩

theorem deleted_invoice_found :
    ∃ c, ofRow .invoices ⟨50, 200⟩ (deletedInvoice 65) = .ready c ∧
      c.tombstones.get? "D" = some 70 := by
  have hrow : ∀ c ∈ (deletedInvoice 65).cells, Window.contains ⟨50, 200⟩ c.timestamp := by decide
  have hf : "D" ∈ Plan.invoices.neededFamilies := by decide
  have hmarks : Marks (deletedInvoice 65) "D" ⟨"D", 70, .deleteFamily⟩ :=
    ⟨by decide, rfl, rfl⟩
  have hnot : ¬Overtaken (deletedInvoice 65) ⟨"D", 70, .deleteFamily⟩ := by
    simp [Overtaken, deletedInvoice]
  obtain ⟨hfound, hready⟩ := tombstone_iff_marked hrow hf
  obtain ⟨c, hc⟩ := hready ⟨_, hmarks⟩
  obtain ⟨hiff, hlast⟩ := hfound c hc
  obtain ⟨t, ht⟩ := Option.isSome_iff_exists.1 (hiff.2 ⟨_, hmarks, hnot⟩)
  obtain ⟨⟨m, hm, rfl⟩, hmax⟩ := hlast t ht
  have hle : 70 ≤ m.timestamp := hmax _ hmarks
  have hbound : ∀ x ∈ (deletedInvoice 65).cells, x.timestamp ≤ 70 := by decide
  rw [Nat.le_antisymm (hbound m hm.1) hle] at ht
  exact ⟨c, hc, ht⟩

/-- A later value without a name stands in the place of the marker. -/
theorem deleted_invoice_lost :
    Plan.invoices.Built ∧ "D" ∈ Plan.invoices.neededFamilies ∧
      (∀ c ∈ (deletedInvoice 80).cells, Window.contains ⟨50, 200⟩ c.timestamp) ∧
      Marks (deletedInvoice 80) "D" ⟨"D", 70, .deleteFamily⟩ ∧
      ∃ c, ofRow .invoices ⟨50, 200⟩ (deletedInvoice 80) = .ready c ∧
        c.tombstones.get? "D" = none :=
  ⟨Plan.invoices_built, by decide, by decide, ⟨by decide, rfl, rfl⟩, _, rfl, by decide⟩

end ChangeSet

end WideRow
