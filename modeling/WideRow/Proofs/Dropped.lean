import WideRow.Proofs.Handover
import WideRow.Proofs.Reads

namespace WideRow

namespace Schema

variable {schema : Schema} {a : Address} {g : String}

theorem place_eq_unrecognized_iff : schema.place a = .unrecognized ↔ schema.reading? a = none := by
  rw [place]
  cases schema.reading? a with
  | none => simp
  | some r =>
      simp only [reduceCtorEq, iff_false]
      split <;> simp

theorem place_eq_unsplit_iff :
    schema.place a = .unsplit g ↔
      ∃ r, schema.reading? a = some r ∧ r.group = g ∧ g ≠ noGroup ∧ schema.splits g = false := by
  rw [place]
  cases schema.reading? a with
  | none => simp
  | some r =>
      simp only [Option.some.injEq, exists_eq_left']
      split
      next hgroup =>
        rw [iff_false_intro (by simp : ¬Placement.inGroup r.group = .unsplit g), false_iff]
        rintro ⟨rfl, hno, hsplits⟩
        simp [hno, hsplits] at hgroup
      next hgroup =>
        simp only [Bool.or_eq_true, decide_eq_true_eq, not_or, Bool.not_eq_true] at hgroup
        rw [Placement.unsplit.injEq]
        constructor
        · rintro rfl
          exact ⟨rfl, hgroup⟩
        · exact And.left

end Schema

namespace ChangeSet

variable {schema : Schema} {plan : Plan} {w : Window} {row : RowCells} {cells : List Cell}
  {c : ChangeSet} {a : Address} {g : String}

theorem mem_unrecognizedOf :
    a ∈ (unrecognizedOf schema cells).members ↔
      schema.reading? a = none ∧ ∃ x ∈ cells, x.address = a := by
  rw [unrecognizedOf, SortedSet.mem_members_ofList, List.mem_filter, List.mem_map, beq_iff_eq,
    Schema.place_eq_unrecognized_iff, and_comm]

theorem mem_unsplitOf :
    g ∈ (unsplitOf schema cells).members ↔
      g ≠ noGroup ∧ schema.splits g = false ∧
        ∃ x ∈ cells, ∃ r, schema.reading? x.address = some r ∧ r.group = g := by
  have hunsplit (p : Placement) : p.unsplit? = some g ↔ p = .unsplit g := by
    cases p <;> simp [Placement.unsplit?]
  simp only [unsplitOf, SortedSet.mem_members_ofList, List.mem_filterMap, hunsplit,
    Schema.place_eq_unsplit_iff]
  constructor
  · rintro ⟨x, hx, r, hr, hg, hno, hsplits⟩
    exact ⟨hno, hsplits, x, hx, r, hr, hg⟩
  · rintro ⟨hno, hsplits, x, hx, r, hr, hg⟩
    exact ⟨x, hx, r, hr, hg, hno, hsplits⟩

theorem not_looksAtCells_partlyDeleted {found : SortedMap String Nat} {d : Deletion} {t : Nat}
    (h : latestTime? found.values = some t) : ¬(partlyDeleted found d).LooksAtCells := by
  rintro (hempty | hall)
  · have hnone : latestTime? found.values = none := by
      rw [show found = .empty from hempty]
      rfl
    rw [hnone] at h
    cases h
  · cases hall

/-- The changes that are dropped for their columns are those that take part and that the schema does
not read. -/
theorem mem_unrecognized_of_ready (h : ofRow plan w row = .ready c) :
    a ∈ c.unrecognized.members ↔
      c.LooksAtCells ∧ plan.schema.reading? a = none ∧
        ∃ x ∈ row.cells, takesPart w (findTombstones plan w row) x ∧ x.address = a := by
  rcases ofRow_eq_ready h with ⟨t, ht, rfl⟩ | ⟨hlooks, rfl⟩
  · exact iff_of_false nofun fun hin => not_looksAtCells_partlyDeleted ht hin.1
  · have hcells : (byCells plan w row).unrecognized =
        unrecognizedOf plan.schema (row.cells.filter (takesPart w (findTombstones plan w row))) :=
      rfl
    simp only [hcells, mem_unrecognizedOf, List.mem_filter, hlooks, true_and, and_assoc]

theorem mem_unsplit_of_ready (h : ofRow plan w row = .ready c) :
    g ∈ c.unsplit.members ↔
      c.LooksAtCells ∧ g ≠ noGroup ∧ plan.schema.splits g = false ∧
        ∃ x ∈ row.cells, takesPart w (findTombstones plan w row) x ∧
          ∃ r, plan.schema.reading? x.address = some r ∧ r.group = g := by
  rcases ofRow_eq_ready h with ⟨t, ht, rfl⟩ | ⟨hlooks, rfl⟩
  · exact iff_of_false nofun fun hin => not_looksAtCells_partlyDeleted ht hin.1
  · have hcells : (byCells plan w row).unsplit =
        unsplitOf plan.schema (row.cells.filter (takesPart w (findTombstones plan w row))) :=
      rfl
    simp only [hcells, mem_unsplitOf, List.mem_filter, hlooks, true_and, and_assoc]

end ChangeSet

theorem RowFields.mem_unrecognized {schema : Schema} {key : List Field} {cells : List Cell}
    {a : Address} : a ∈ (ofCells schema key cells).unrecognized.members ↔
      schema.reading? a = none ∧ ∃ x ∈ cells, x.isPut ∧ x.address = a := by
  simp only [ofCells, SortedSet.mem_members_ofList, List.mem_filter, List.mem_map,
    Option.isNone_iff_eq_none, and_assoc]
  exact and_comm

end WideRow
