import WideRow.ChangeSet
import WideRow.Proofs.Precedence

namespace WideRow

theorem Placement.group?_eq_some_iff {p : Placement} {g : String} :
    p.group? = some g ↔ p = .inGroup g := by
  cases p <;> simp [group?]

namespace ChangeSet

theorem mem_inGroups {schema : Schema} {cells : List Cell} {g : String} {c : Cell} :
    (g, c) ∈ inGroups schema cells ↔ c ∈ cells ∧ schema.place c.address = .inGroup g := by
  simp only [inGroups, List.mem_filterMap, Option.map_eq_some_iff, Placement.group?_eq_some_iff,
    Prod.mk.injEq]
  constructor
  · rintro ⟨d, hd, g', hg, rfl, rfl⟩
    exact ⟨hd, hg⟩
  · rintro ⟨hc, hg⟩
    exact ⟨c, hc, g, hg, rfl, rfl⟩

theorem mem_cellsOf {g : String} {cells : List (String × Cell)} {c : Cell} :
    c ∈ cellsOf g cells ↔ (g, c) ∈ cells := by
  simp only [cellsOf, List.mem_map, List.mem_filter, beq_iff_eq]
  constructor
  · rintro ⟨⟨g', d⟩, ⟨hd, rfl⟩, rfl⟩
    exact hd
  · intro h
    exact ⟨(g, c), ⟨h, rfl⟩, rfl⟩

/-- Markers of a family are looked at elsewhere; of all others both readings are the same. -/
theorem cancels_iff {m p : Cell} : cancels m p ↔ m.isFamilyMarker = false ∧ m.hides p := by
  obtain ⟨f, t, content⟩ := m
  cases content <;>
    simp [cancels, Cell.hides, Cell.isFamilyMarker, Content.isFamilyMarker, Cell.address,
      Cell.qualifier, Content.qualifier, and_assoc]

def markersOf (cells : List (String × Cell)) : List (String × Cell) := cells.filter (!·.2.isPut)

def keptPuts (cells : List (String × Cell)) : List (String × Cell) :=
  cells.filter fun p => p.2.isPut && !(markersOf cells).any fun m => cancels m.2 p.2

theorem mem_markersOf {cells : List (String × Cell)} {p : String × Cell} :
    p ∈ markersOf cells ↔ p ∈ cells ∧ p.2.isPut = false := by
  simp [markersOf]

theorem mem_keptPuts {cells : List (String × Cell)} {p : String × Cell} :
    p ∈ keptPuts cells ↔
      p ∈ cells ∧ p.2.isPut = true ∧ ∀ m ∈ markersOf cells, cancels m.2 p.2 = false := by
  simp [keptPuts]

theorem get?_gather (cells : List (String × Cell)) (g : String) :
    (gather cells).get? g =
      if g ∈ (markersOf cells ++ keptPuts cells).map (·.1) then
        some ⟨Cell.latestByColumn (cellsOf g (keptPuts cells)),
          Cell.latestByColumn (cellsOf g (markersOf cells))⟩
      else none := by
  have h : gather cells =
      (SortedSet.ofList ((markersOf cells ++ keptPuts cells).map (·.1))).mapValues fun g _ =>
        ⟨Cell.latestByColumn (cellsOf g (keptPuts cells)),
          Cell.latestByColumn (cellsOf g (markersOf cells))⟩ := rfl
  rw [h, SortedMap.get?_mapValues, SortedSet.get?_ofList]
  split <;> rfl

theorem isSome_get?_gather {cells : List (String × Cell)} {g : String} :
    ((gather cells).get? g).isSome ↔ ∃ c, (g, c) ∈ markersOf cells ∨ (g, c) ∈ keptPuts cells := by
  rw [get?_gather]
  simp [List.mem_map, Prod.exists, exists_or]

theorem exists_mem_keys_gather {cells : List (String × Cell)} {p : String × Cell}
    (h : p ∈ cells) : ∃ g, g ∈ (gather cells).keys := by
  simp only [SortedMap.mem_keys, isSome_get?_gather]
  by_cases hput : p.2.isPut
  · by_cases hhidden : ∃ q ∈ markersOf cells, cancels q.2 p.2
    · obtain ⟨q, hq, _⟩ := hhidden
      exact ⟨q.1, q.2, .inl hq⟩
    · refine ⟨p.1, p.2, .inr (mem_keptPuts.2 ⟨h, hput, fun q hq => ?_⟩)⟩
      exact Bool.eq_false_iff.2 fun hq' => hhidden ⟨q, hq, hq'⟩
  · exact ⟨p.1, p.2, .inl (mem_markersOf.2 ⟨h, Bool.eq_false_iff.2 hput⟩)⟩

theorem putsOf_gather (cells : List (String × Cell)) (g : String) :
    putsOf (gather cells) g = Cell.latestByColumn (cellsOf g (keptPuts cells)) := by
  rw [putsOf, get?_gather]
  split
  next => rfl
  next h =>
    have hnil : cellsOf g (keptPuts cells) = [] := by
      refine List.eq_nil_iff_forall_not_mem.2 fun c hc => h ?_
      rw [mem_cellsOf] at hc
      exact List.mem_map.2 ⟨(g, c), List.mem_append_right _ hc, rfl⟩
    rw [hnil]
    rfl

theorem markers_of_get?_gather {cells : List (String × Cell)} {g : String} {diff : GroupDiff}
    (h : (gather cells).get? g = some diff) :
    diff.markers = Cell.latestByColumn (cellsOf g (markersOf cells)) := by
  rw [get?_gather] at h
  split at h
  next =>
    cases h
    rfl
  next => cases h

theorem hasMarkers_iff {cells : List (String × Cell)} {g : String} {diff : GroupDiff}
    (h : (gather cells).get? g = some diff) :
    diff.hasMarkers ↔ ∃ m, (g, m) ∈ markersOf cells := by
  rw [GroupDiff.hasMarkers, markers_of_get?_gather h, Bool.not_eq_true']
  constructor
  · intro hsome
    obtain ⟨a, ha⟩ := Classical.not_forall.1 fun hnone =>
      Bool.eq_false_iff.1 hsome (SortedMap.isEmpty_iff.2 hnone)
    obtain ⟨m, hm⟩ := Option.ne_none_iff_exists'.1 ha
    exact ⟨m, mem_cellsOf.1 (Cell.get?_latestByColumn_eq_some_iff.1 hm).2.1⟩
  · rintro ⟨m, hm⟩
    obtain ⟨d, hd, _⟩ := Cell.exists_latest_of_mem (mem_cellsOf.2 hm)
    exact SortedMap.isEmpty_eq_false (SortedMap.mem_keys.2 (Option.isSome_of_eq_some hd))

theorem address_of_get?_putsOf {cells : List (String × Cell)} {g : String} {a : Address} {c : Cell}
    (h : (putsOf (gather cells) g).get? a = some c) : c.address = a := by
  rw [putsOf_gather, Cell.get?_latestByColumn_eq_some_iff] at h
  exact h.1

theorem markersOf_congr {ps qs : List (String × Cell)} (h : ∀ p, p ∈ ps ↔ p ∈ qs)
    (p : String × Cell) : p ∈ markersOf ps ↔ p ∈ markersOf qs := by
  rw [mem_markersOf, mem_markersOf, h]

theorem keptPuts_congr {ps qs : List (String × Cell)} (h : ∀ p, p ∈ ps ↔ p ∈ qs)
    (p : String × Cell) : p ∈ keptPuts ps ↔ p ∈ keptPuts qs := by
  simp only [mem_keptPuts, h, markersOf_congr h]

/-- Grouping sees which cells there are and nothing of their order. -/
theorem gather_congr {ps qs : List (String × Cell)} (h : ∀ p, p ∈ ps ↔ p ∈ qs) :
    gather ps = gather qs := by
  refine SortedMap.ext_get? fun g => ?_
  have hkeys : g ∈ (markersOf ps ++ keptPuts ps).map (·.1) ↔
      g ∈ (markersOf qs ++ keptPuts qs).map (·.1) := by
    simp only [List.mem_map, List.mem_append, markersOf_congr h, keptPuts_congr h]
  have hputs : Cell.latestByColumn (cellsOf g (keptPuts ps)) =
      Cell.latestByColumn (cellsOf g (keptPuts qs)) :=
    Cell.latestByColumn_congr fun c => by rw [mem_cellsOf, mem_cellsOf, keptPuts_congr h]
  have hmarkers : Cell.latestByColumn (cellsOf g (markersOf ps)) =
      Cell.latestByColumn (cellsOf g (markersOf qs)) :=
    Cell.latestByColumn_congr fun c => by rw [mem_cellsOf, mem_cellsOf, markersOf_congr h]
  simp only [get?_gather, hkeys, hputs, hmarkers]

end ChangeSet

end WideRow
