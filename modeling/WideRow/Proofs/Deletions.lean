import Mathlib.Order.Bounds.Basic
import WideRow.Proofs.Tombstones

namespace WideRow.ChangeSet

variable {plan : Plan} {w : Window} {row : RowCells} {c : ChangeSet} {m : Cell} {g : String}
  {t : Nat} {cells : List (String × Cell)} {diff : GroupDiff} {groups : SortedMap String GroupDiff}

theorem isGreatest_of_max? {ts : List Nat} {times : Set Nat} (h : ts.max? = some t)
    (htimes : ∀ u, u ∈ times ↔ u ∈ ts) : IsGreatest times t := by
  obtain ⟨hmem, hle⟩ := List.max?_eq_some_iff.1 h
  exact ⟨(htimes t).2 hmem, fun u hu => hle u ((htimes u).1 hu)⟩

theorem latestTime?_eq_max? (ts : List Nat) : latestTime? ts = ts.max? := by
  cases ts <;> rfl

/-- A marker of a column counts in its group up to the end of the window, and also from before. -/
structure MarksGroup (plan : Plan) (w : Window) (row : RowCells) (g : String) (m : Cell) :
    Prop where
  mem : m ∈ row.cells
  isPut : m.isPut = false
  ofColumn : m.isFamilyMarker = false
  inTime : m.timestamp ≤ w.max
  place : plan.schema.place m.address = .inGroup g

def markTimes (plan : Plan) (w : Window) (row : RowCells) (g : String) : Set Nat :=
  {t | ∃ m, MarksGroup plan w row g m ∧ m.timestamp = t}

/-- What a row deletes, by its tombstones and by the markers that count in its groups. -/
inductive Deletes (plan : Plan) (w : Window) (row : RowCells) (tombstones : SortedMap String Nat) :
    List Deletion → Prop
  | key {last : Nat} (tombstone : IsGreatest {t | ∃ f, tombstones.get? f = some t} last) :
      Deletes plan w row tombstones [⟨.key, last⟩]
  | groups {gs : List String} {last : String → Nat} (alive : tombstones = .empty)
      (nonempty : gs ≠ [])
      (ascending : gs.Pairwise fun g g' => compare g g' = .lt)
      (marked : ∀ g, g ∈ gs ↔ g ≠ noGroup ∧ (markTimes plan w row g).Nonempty)
      (latest : ∀ g ∈ gs, IsGreatest (markTimes plan w row g) (last g)) :
      Deletes plan w row tombstones (gs.map fun g => ⟨.group g, last g⟩)
  | statics {last : Nat} (alive : tombstones = .empty)
      (unmarked : ∀ g, g ≠ noGroup → ¬(markTimes plan w row g).Nonempty)
      (latest : IsGreatest (markTimes plan w row noGroup) last) :
      Deletes plan w row tombstones [⟨.group noGroup, last⟩]
  | nothing (alive : tombstones = .empty) (unmarked : ∀ g, ¬(markTimes plan w row g).Nonempty) :
      Deletes plan w row tombstones []

theorem isGreatest_lastMarker (h : (gather cells).get? g = some diff) (hm : diff.hasMarkers) :
    IsGreatest {t | ∃ m, (g, m) ∈ markersOf cells ∧ m.timestamp = t} diff.lastMarker := by
  have hlast : diff.lastMarker =
      ((cellsOf g (markersOf cells)).map (·.timestamp)).max?.getD 0 := by
    rw [GroupDiff.lastMarker, List.foldl_max, Nat.max_eq_right (Nat.zero_le _),
      markers_of_get?_gather h, Cell.max?_latestByColumn]
  obtain ⟨m, hmem⟩ := (hasMarkers_iff h).1 hm
  cases hmax : ((cellsOf g (markersOf cells)).map (·.timestamp)).max? with
  | none =>
      rw [List.max?_eq_none_iff, List.map_eq_nil_iff] at hmax
      exact absurd hmax (List.ne_nil_of_mem (mem_cellsOf.2 hmem))
  | some t =>
      rw [hlast, hmax]
      refine isGreatest_of_max? hmax fun u => ?_
      simp only [Set.mem_ofPred_eq, List.mem_map, mem_cellsOf]

def deletedGroups (groups : SortedMap String GroupDiff) : List (String × GroupDiff) :=
  let marked := groups.entries.filter (·.2.hasMarkers)
  let dynamic := marked.filter (·.1 != noGroup)
  if dynamic.isEmpty then marked else dynamic

theorem deletionsOf_eq_map (groups : SortedMap String GroupDiff) :
    deletionsOf groups =
      (deletedGroups groups).map fun p => ⟨.group p.1, p.2.lastMarker⟩ := rfl

theorem deletedGroups_ascending (groups : SortedMap String GroupDiff) :
    (deletedGroups groups).Pairwise fun p q => compare p.1 q.1 = .lt := by
  rw [deletedGroups]
  split
  · exact groups.ascending.filter _
  · exact (groups.ascending.filter _).filter _

theorem mem_deletedGroups : (g, diff) ∈ deletedGroups groups ↔
    groups.get? g = some diff ∧ diff.hasMarkers ∧ (g = noGroup →
      ∀ g' diff', groups.get? g' = some diff' → diff'.hasMarkers → g' = noGroup) := by
  have hmarked {g : String} {diff : GroupDiff} :
      (g, diff) ∈ groups.entries.filter (·.2.hasMarkers) ↔
        groups.get? g = some diff ∧ diff.hasMarkers := by
    rw [List.mem_filter, SortedMap.get?_eq_some_iff]
  have hstatic : (groups.entries.filter (·.2.hasMarkers)).filter (·.1 != noGroup) = [] ↔
      ∀ g' diff', groups.get? g' = some diff' → diff'.hasMarkers → g' = noGroup := by
    simp only [List.filter_eq_nil_iff, Prod.forall, hmarked, and_imp, bne_iff_ne, ne_eq, not_not]
  rw [deletedGroups]
  split
  next hnone =>
    rw [hmarked]
    have hnone := hstatic.1 (List.isEmpty_iff.1 hnone)
    exact ⟨fun ⟨hdiff, hmark⟩ => ⟨hdiff, hmark, fun _ => hnone⟩, fun h => ⟨h.1, h.2.1⟩⟩
  next hsome =>
    rw [List.isEmpty_iff] at hsome
    rw [List.mem_filter, hmarked, bne_iff_ne, and_assoc]
    refine and_congr_right fun _ => and_congr_right fun _ => ?_
    exact ⟨fun hne hg => absurd hg hne, fun h hg => hsome (hstatic.2 (h hg))⟩

def untombedGroups (plan : Plan) (w : Window) (row : RowCells) : SortedMap String GroupDiff :=
  gather (inGroups plan.schema (row.cells.filter (takesPart w .empty)))

theorem mem_markersOf_inGroups :
    (g, m) ∈ markersOf (inGroups plan.schema (row.cells.filter (takesPart w .empty))) ↔
      MarksGroup plan w row g m := by
  simp only [mem_markersOf, mem_inGroups, List.mem_filter, takesPart_iff, SortedMap.get?_empty]
  constructor
  · rintro ⟨⟨⟨hmem, hcolumn, hmax, _⟩, hplace⟩, hput⟩
    exact ⟨hmem, hput, hcolumn, hmax, hplace⟩
  · rintro ⟨hmem, hput, hcolumn, hmax, hplace⟩
    exact ⟨⟨⟨hmem, hcolumn, hmax, .inr hput, nofun⟩, hplace⟩, hput⟩

theorem nonempty_markTimes_iff : (markTimes plan w row g).Nonempty ↔
    ∃ diff, (untombedGroups plan w row).get? g = some diff ∧ diff.hasMarkers := by
  constructor
  · rintro ⟨_, m, hm, _⟩
    have hin := mem_markersOf_inGroups.2 hm
    obtain ⟨diff, hdiff⟩ := Option.isSome_iff_exists.1 (isSome_get?_gather.2 ⟨m, .inl hin⟩)
    exact ⟨diff, hdiff, (hasMarkers_iff hdiff).2 ⟨m, hin⟩⟩
  · rintro ⟨diff, hdiff, hmark⟩
    obtain ⟨m, hm⟩ := (hasMarkers_iff hdiff).1 hmark
    exact ⟨m.timestamp, m, mem_markersOf_inGroups.1 hm, rfl⟩

theorem isGreatest_markTimes (h : (untombedGroups plan w row).get? g = some diff)
    (hm : diff.hasMarkers) : IsGreatest (markTimes plan w row g) diff.lastMarker := by
  have hlast := isGreatest_lastMarker h hm
  simp only [mem_markersOf_inGroups] at hlast
  exact hlast

/-- Deletions come in group order, one for each group that is marked, where the static row counts
only if it alone is marked. -/
theorem exists_deletionsOf_eq (plan : Plan) (w : Window) (row : RowCells) :
    ∃ (gs : List String) (last : String → Nat),
      gs.Pairwise (fun g g' => compare g g' = .lt) ∧
      (∀ g, g ∈ gs ↔ (markTimes plan w row g).Nonempty ∧
        (g = noGroup → ∀ g', g' ≠ noGroup → ¬(markTimes plan w row g').Nonempty)) ∧
      (∀ g ∈ gs, IsGreatest (markTimes plan w row g) (last g)) ∧
      deletionsOf (untombedGroups plan w row) = gs.map fun g => ⟨.group g, last g⟩ := by
  let last (g : String) := ((untombedGroups plan w row).get? g).elim 0 (·.lastMarker)
  refine ⟨(deletedGroups (untombedGroups plan w row)).map (·.1), last, ?_, fun g => ?_, ?_, ?_⟩
  · exact List.pairwise_map.2 (deletedGroups_ascending _)
  · simp only [List.mem_map, Prod.exists, mem_deletedGroups, nonempty_markTimes_iff, ne_eq,
      not_imp_not, forall_exists_index, and_imp]
    constructor
    · rintro ⟨g, diff, ⟨hdiff, hmark, halone⟩, rfl⟩
      exact ⟨⟨diff, hdiff, hmark⟩, halone⟩
    · rintro ⟨⟨diff, hdiff, hmark⟩, halone⟩
      exact ⟨g, diff, ⟨hdiff, hmark, halone⟩, rfl⟩
  · simp only [List.forall_mem_map, Prod.forall, mem_deletedGroups]
    rintro g diff ⟨hdiff, hmark, _⟩
    simp only [last, hdiff]
    exact isGreatest_markTimes hdiff hmark
  · rw [deletionsOf_eq_map, List.map_map]
    refine List.map_congr_left fun ⟨g, diff⟩ hmem => ?_
    simp only [Function.comp, last, (mem_deletedGroups.1 hmem).1, Option.elim_some]

theorem deletes_of_no_tombstones (plan : Plan) (w : Window) (row : RowCells) :
    Deletes plan w row .empty (deletionsOf (untombedGroups plan w row)) := by
  obtain ⟨gs, last, hsorted, hmem, hlast, heq⟩ := exists_deletionsOf_eq plan w row
  by_cases hdynamic : ∃ g, g ≠ noGroup ∧ (markTimes plan w row g).Nonempty
  · -- the static row is left out, marked or not
    obtain ⟨g, hne, hmark⟩ := hdynamic
    have hgs : ∀ g', g' ∈ gs ↔ g' ≠ noGroup ∧ (markTimes plan w row g').Nonempty := fun g' => by
      rw [hmem, and_comm]
      exact and_congr_left fun _ => ⟨fun h hg => h hg g hne hmark, fun h hg => absurd hg h⟩
    rw [heq]
    exact .groups rfl (List.ne_nil_of_mem ((hgs g).2 ⟨hne, hmark⟩)) hsorted hgs hlast
  · have hunmarked : ∀ g, g ≠ noGroup → ¬(markTimes plan w row g).Nonempty :=
      fun g hne hmark => hdynamic ⟨g, hne, hmark⟩
    by_cases hstatic : (markTimes plan w row noGroup).Nonempty
    · have hgs : gs = [noGroup] := by
        refine eq_of_ascending id hsorted (List.pairwise_singleton _ _) fun g => ?_
        rw [List.mem_singleton, hmem]
        constructor
        · exact fun h => Classical.not_not.1 fun hne => hunmarked g hne h.1
        · rintro rfl
          exact ⟨hstatic, fun _ => hunmarked⟩
      rw [heq, hgs]
      exact .statics rfl hunmarked (hlast noGroup (hgs ▸ List.mem_singleton.2 rfl))
    · have hnone (g : String) : ¬(markTimes plan w row g).Nonempty := by
        by_cases hg : g = noGroup
        · exact hg ▸ hstatic
        · exact hunmarked g hg
      have hgs : gs = [] := List.eq_nil_iff_forall_not_mem.2 fun g hg => hnone g ((hmem g).1 hg).1
      rw [heq, hgs]
      exact .nothing rfl hnone

theorem deletes_key {found : SortedMap String Nat} (h : latestTime? found.values = some t) :
    Deletes plan w row found [⟨.key, t⟩] := by
  rw [latestTime?_eq_max?] at h
  refine .key (isGreatest_of_max? h fun u => ?_)
  rw [SortedMap.mem_values]
  rfl

/-- What a changed row deletes is what its tombstones delete, or without tombstones its markers. -/
theorem deletes_of_ready (h : ofRow plan w row = .ready c) :
    Deletes plan w row c.tombstones c.deletions := by
  rcases ofRow_eq_ready h with ⟨t, ht, rfl⟩ | ⟨_, rfl⟩
  · exact deletes_key ht
  · cases ht : latestTime? (findTombstones plan w row).values with
    | some t =>
        rw [deletions_byCells ht]
        exact deletes_key ht
    | none =>
        have hdeletions : (byCells plan w row).deletions =
            deletionsOf (untombedGroups plan w row) := by
          simp only [byCells, ofCells, eq_empty_of_latestTime? ht]
          rfl
        have htombstones : (byCells plan w row).tombstones = .empty := eq_empty_of_latestTime? ht
        rw [hdeletions, htombstones]
        exact deletes_of_no_tombstones plan w row

private def markedLines : RowCells :=
  ⟨[107], [⟨"D", 70, .delete (Text.Utf8.encode "RC2")⟩, ⟨"D", 80, .delete (Text.Utf8.encode "SR1")⟩,
    ⟨"D", 40, .deleteColumn (Text.Utf8.encode "RC1")⟩,
    ⟨"D", 65, .deleteColumn (Text.Utf8.encode "RC2")⟩]⟩

theorem marked_lines_deleted :
    ∃ c, ofRow .invoices ⟨50, 200⟩ markedLines = .ready c ∧ c.tombstones = .empty ∧
      c.deletions = [⟨.group "1", 40⟩, ⟨.group "2", 70⟩] ∧
      Deletes .invoices ⟨50, 200⟩ markedLines c.tombstones c.deletions :=
  ⟨_, rfl, by decide, by decide, deletes_of_ready rfl⟩

end WideRow.ChangeSet
