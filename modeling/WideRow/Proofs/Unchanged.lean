import WideRow.Proofs.ChangedColumns
import WideRow.Proofs.RowRecords

namespace WideRow.ChangeSet

variable {schema : Schema} {plan : Plan} {s : Store} {w : Window} {key : Bytes} {cells : List Cell}
  {tombstones : SortedMap String Nat} {x : Cell} {a : Address} {g : String} {name : ColumnName}

def changesAt (s : Store) (w : Window) (key : Bytes) : RowCells :=
  ⟨key, (s.cellsAt key).filter fun x => w.contains x.timestamp⟩

theorem changesAt_of_mem_changes {row : RowCells}
    (h : row ∈ s.changes w) : row = changesAt s w row.key := by
  rw [changesAt, ← Store.cells_of_mem_changes h]

theorem mem_keys_of_takingPart (hx : x ∈ takingPart w tombstones cells)
    (hg : schema.place x.address = .inGroup g) :
    g ∈ (gather (inGroups schema (takingPart w tombstones cells))).keys := by
  have hmem := mem_inGroups.2 ⟨hx, hg⟩
  rw [SortedMap.mem_keys, isSome_get?_gather]
  cases hput : x.isPut with
  | false => exact ⟨x, .inl (mem_markersOf.2 ⟨hmem, hput⟩)⟩
  | true =>
      by_cases hkept : ∀ q ∈ markersOf (inGroups schema (takingPart w tombstones cells)),
          cancels q.2 x = false
      · exact ⟨x, .inr (mem_keptPuts.2 ⟨hmem, hput, hkept⟩)⟩
      · -- a marker that hides a value stands in the same column
        simp only [Classical.not_forall] at hkept
        obtain ⟨⟨g', m⟩, hm, hh⟩ := hkept
        obtain ⟨hm', hnput⟩ := mem_markersOf.1 hm
        obtain ⟨hmpart, hmg⟩ := mem_inGroups.1 hm'
        obtain ⟨hcolumn, hides⟩ := cancels_iff.1 (Bool.of_not_eq_false hh)
        have ha := (Cell.of_hides hides).2.2.2 hcolumn
        rw [ha, hg] at hmg
        cases hmg
        exact ⟨m, .inl hm⟩

theorem mem_keys_of_change (hnone : findTombstones plan w (changesAt s w key) = .empty)
    (hx : x ∈ s.cellsAt key) (hw : w.contains x.timestamp) (hmarker : x.isFamilyMarker = false)
    (hg : plan.schema.place x.address = .inGroup g) :
    g ∈ (byCells plan w (changesAt s w key)).groups.keys := by
  refine mem_keys_of_takingPart (x := x) (mem_takingPart.2 ⟨hx, hw, hmarker, fun t ht => ?_⟩) hg
  rw [hnone] at ht
  cases ht

section NoTombstones

variable (hnamed : Named plan (changesAt s w key).cells)
  (hnone : findTombstones plan w (changesAt s w key) = .empty)

include hnamed hnone

theorem family_of_no_tombstones (hx : x ∈ s.cellsAt key) (hw : w.contains x.timestamp)
    (hm : x.isFamilyMarker) : x.family ∉ plan.neededFamilies := by
  intro hf
  have hcov : Covered w (findTombstones plan w (changesAt s w key)) (s.cellsAt key) x.family :=
    covered_of_named rfl hnamed hf
  obtain ⟨t, ht, _⟩ := hcov x hx hm rfl hw
  rw [hnone] at ht
  cases ht

variable (hmin : 1 ≤ w.min) (hmax : w.min ≤ w.max)

include hmin hmax

/-- A column of a required family that no change is placed in shows what it showed before. -/
theorem shown_iff_of_no_change (hf : x.family ∈ plan.neededFamilies)
    (hg : plan.schema.place x.address = .inGroup g)
    (hkeys : g ∉ (byCells plan w (changesAt s w key)).groups.keys) :
    Shown (s.cellsAt key) w.toEnd x ↔ Shown (s.cellsAt key) ⟨0, w.min - 1⟩ x := by
  have hfamily : ∀ m ∈ s.cellsAt key, w.contains m.timestamp → m.isFamilyMarker →
      m.family ≠ x.family := fun m hm hw hmark h =>
    family_of_no_tombstones hnamed hnone hm hw hmark (h ▸ hf)
  refine shown_iff_of_untouched hmin hmax (fun m hm hw ha => ?_) hfamily
  have hmark : m.isFamilyMarker = false := Bool.eq_false_iff.2 fun hmark =>
    hfamily m hm hw hmark (congrArg Address.family ha)
  exact hkeys (mem_keys_of_change hnone hm hw hmark (ha ▸ hg))

end NoTombstones

end WideRow.ChangeSet
