import WideRow.Proofs.NewValues
import WideRow.Proofs.Reading

namespace WideRow.ChangeSet

variable {schema : Schema} {plan : Plan} {w : Window} {cells found : List Cell} {row : RowCells}
  {tombstones : SortedMap String Nat} {c : ChangeSet} {x : Cell} {a : Address} {g family : String}

theorem get?_findTombstones (plan : Plan) (w : Window) (row : RowCells) (family : String) :
    (findTombstones plan w row).get? family =
      if family ∈ plan.neededFamilies then tombstone? w row family else none := by
  have hmem (t : Nat) : (family, t) ∈ plan.neededFamilies.filterMap (fun f =>
      (tombstone? w row f).map (f, ·)) ↔
        family ∈ plan.neededFamilies ∧ tombstone? w row family = some t := by
    simp only [List.mem_filterMap, Option.map_eq_some_iff, Prod.mk.injEq]
    constructor
    · rintro ⟨f, hf, u, hu, rfl, rfl⟩
      exact ⟨hf, hu⟩
    · rintro ⟨hf, ht⟩
      exact ⟨family, hf, t, ht, rfl, rfl⟩
  refine Option.ext fun t => ?_
  rw [findTombstones, SortedMap.get?_ofList_eq_some_iff, hmem]
  · split
    next hf => simp [hf]
    next hf => simp [hf]
  · intro u v hu hv
    have hu := ((hmem u).1 hu).2
    rw [((hmem v).1 hv).2, Option.some.injEq] at hu
    exact hu.symm

theorem qualifier_of_isFamilyMarker {m : Cell} (h : m.isFamilyMarker) : m.qualifier = [] := by
  obtain ⟨f, t, content⟩ := m
  cases content
  case deleteFamily => rfl
  case deleteFamilyVersion => rfl
  all_goals cases h

theorem exists_familyMarker? {m : Cell} (h : m ∈ Cell.atAddress ⟨family, []⟩ row.cells) :
    ∃ l, row.familyMarker? family = some l := by
  rw [← Option.isSome_iff_exists, Option.isSome_iff_ne_none]
  intro hnone
  exact List.ne_nil_of_mem h (Cell.latest?_eq_none_iff.1 hnone)

/-- In the required families nothing but markers of the family goes by no name. -/
def Named (plan : Plan) (cells : List Cell) : Prop :=
  ∀ c ∈ cells, c.family ∈ plan.neededFamilies → c.isFamilyMarker ∨ c.qualifier ≠ []

theorem covered_of_named (hrow : row.cells = cells.filter fun c => w.contains c.timestamp)
    (hnamed : Named plan row.cells)
    (hf : family ∈ plan.neededFamilies) :
    Covered w (findTombstones plan w row) cells family := by
  intro m hm hmark hmf hmw
  have hmrow : m ∈ row.cells := hrow ▸ List.mem_filter.2 ⟨hm, hmw⟩
  have hat : m ∈ Cell.atAddress ⟨family, []⟩ row.cells :=
    Cell.mem_atAddress.2 ⟨hmrow, by
      rw [Cell.address, hmf, qualifier_of_isFamilyMarker hmark]⟩
  obtain ⟨l, hl⟩ := exists_familyMarker? hat
  obtain ⟨hlat, hlast⟩ := Cell.latest?_spec hl
  obtain ⟨hlrow, hla⟩ := Cell.mem_atAddress.1 hlat
  have hlq : l.qualifier = [] := congrArg Address.qualifier hla
  have hlf : l.family = family := congrArg Address.family hla
  have hlmark : l.isFamilyMarker := (hnamed l hlrow (hlf ▸ hf)).resolve_right fun h => h hlq
  have hle := Cell.timestamp_le_of_order (hlast m hat)
  have hlmin : w.min ≤ l.timestamp := Nat.le_trans (Window.contains_iff.1 hmw).1 hle
  refine ⟨l.timestamp, ?_, hle⟩
  rw [get?_findTombstones, if_pos hf, tombstone?, hl]
  simp [hlmark, hlmin]

def byCells (plan : Plan) (w : Window) (row : RowCells) : ChangeSet :=
  let found := findTombstones plan w row
  ofCells plan found (!found.isEmpty && found.size == plan.neededFamilies.length)
    ((latestTime? found.values).map (.mk .key)) (row.cells.filter (takesPart w found))

theorem byCells_eq_ofCells (hrow : row.cells = cells.filter fun c => w.contains c.timestamp) :
    ∃ all deletion, byCells plan w row = ofCells plan (findTombstones plan w row) all deletion
      (takingPart w (findTombstones plan w row) cells) := by
  rw [byCells, takingPart, ← hrow]
  exact ⟨_, _, rfl⟩

theorem eq_empty_of_latestTime? {found : SortedMap String Nat}
    (h : latestTime? found.values = none) : found = .empty := by
  refine SortedMap.ext_get? fun f => Option.eq_none_iff_forall_ne_some.2 fun t ht => ?_
  have hmem := SortedMap.mem_values.2 ⟨f, ht⟩
  cases hv : found.values with
  | nil => simp [hv] at hmem
  | cons u us => simp [hv, latestTime?] at h

theorem deletions_byCells {t : Nat} (h : latestTime? (findTombstones plan w row).values = some t) :
    (byCells plan w row).deletions = [⟨.key, t⟩] := by
  simp only [byCells, ofCells, h]
  rfl

/-- Cells of a row are looked at unless only some of the required families have a tombstone. -/
def LooksAtCells (c : ChangeSet) : Prop := c.tombstones = .empty ∨ c.allTombstoned

/-- A row with tombstones of some of the families only, or one that goes by its cells. -/
theorem ofRow_cases (plan : Plan) (w : Window) (row : RowCells) :
    (∃ t, latestTime? (findTombstones plan w row).values = some t ∧
      ofRow plan w row = .ready (partlyDeleted (findTombstones plan w row) ⟨.key, t⟩)) ∨
    ((byCells plan w row).LooksAtCells ∧
      ofRow plan w row =
        if (byCells plan w row).isBlank then .skip .unchanged
        else .ready (byCells plan w row)) := by
  simp only [ofRow]
  split
  next d hd _ =>
    obtain ⟨t, ht, rfl⟩ := Option.map_eq_some_iff.1 hd
    exact .inl ⟨t, ht, rfl⟩
  next hnot =>
    refine .inr ⟨?_, rfl⟩
    cases hl : latestTime? (findTombstones plan w row).values with
    | none => exact .inl (eq_empty_of_latestTime? hl)
    | some t =>
        refine .inr ?_
        by_contra hall
        exact hnot ⟨.key, t⟩ (by rw [hl]; rfl) (Bool.eq_false_iff.2 hall)

theorem ofRow_eq_ready (h : ofRow plan w row = .ready c) :
    (∃ t, latestTime? (findTombstones plan w row).values = some t ∧
      c = partlyDeleted (findTombstones plan w row) ⟨.key, t⟩) ∨
    (byCells plan w row).LooksAtCells ∧ c = byCells plan w row := by
  rcases ofRow_cases plan w row with ⟨t, ht, hrow⟩ | ⟨hlooks, hrow⟩
  · rw [hrow] at h
    cases h
    exact .inl ⟨t, ht, rfl⟩
  · rw [hrow] at h
    split at h
    next => cases h
    next =>
      cases h
      exact .inr ⟨hlooks, rfl⟩

theorem ofRow_of_no_tombstones (h : findTombstones plan w row = .empty) :
    ofRow plan w row =
      if (ofCells plan .empty false none (row.cells.filter (takesPart w .empty))).isBlank then
        .skip .unchanged
      else .ready (ofCells plan .empty false none (row.cells.filter (takesPart w .empty))) := by
  simp only [ofRow, h]
  rfl

theorem exists_mem_of_get?_gather {cells : List Cell} {diff : GroupDiff}
    (h : (gather (inGroups schema cells)).get? g = some diff) :
    ∃ c ∈ cells, schema.place c.address = .inGroup g := by
  obtain ⟨c, hc⟩ := isSome_get?_gather.1 (Option.isSome_of_eq_some h)
  rcases hc with hc | hc
  · exact ⟨c, mem_inGroups.1 (mem_markersOf.1 hc).1⟩
  · exact ⟨c, mem_inGroups.1 (mem_keptPuts.1 hc).1⟩

theorem mem_deletionsOf {groups : SortedMap String GroupDiff} {d : Deletion}
    (h : d ∈ deletionsOf groups) : ∃ g diff, groups.get? g = some diff ∧ d.reach = .group g := by
  simp only [deletionsOf, List.mem_map, Prod.exists] at h
  obtain ⟨g, diff, hmem, rfl⟩ := h
  refine ⟨g, diff, SortedMap.get?_of_mem ?_, rfl⟩
  split at hmem
  next => exact (List.mem_filter.1 hmem).1
  next => exact (List.mem_filter.1 (List.mem_filter.1 hmem).1).1

theorem reach_of_mem_deletions (h : ofRow plan w row = .ready c) {d : Deletion}
    (hd : d ∈ c.deletions) (hg : d.reach = .group g) : g = noGroup ∨ plan.schema.splits g := by
  rcases ofRow_eq_ready h with ⟨t, _, rfl⟩ | ⟨_, rfl⟩
  · rw [List.mem_singleton.1 hd] at hg
    cases hg
  · cases ht : latestTime? (findTombstones plan w row).values with
    | some t =>
        rw [deletions_byCells ht] at hd
        rw [List.mem_singleton.1 hd] at hg
        cases hg
    | none =>
        simp only [byCells, ofCells, ht, Option.map_none, Option.elim_none] at hd
        obtain ⟨g', diff, hdiff, hreach⟩ := mem_deletionsOf hd
        cases hg.symm.trans hreach
        obtain ⟨x, _, hplace⟩ := exists_mem_of_get?_gather hdiff
        obtain ⟨_, _, _, hsplits⟩ := Schema.place_eq_inGroup_iff.1 hplace
        exact hsplits

theorem complete_ofStore (c : ChangeSet) (s : Store) (plan : Plan) (w : Window) (key : Bytes) :
    c.complete (.ofStore s) plan w key () =
      .ok (c.conclude ((c.request? plan).bind fun targets => s.scan key targets w.toEnd)) () := by
  cases h : c.request? plan <;> simp only [complete, h] <;> rfl

theorem conclude_of_mustRescan {s : Store} {key : Bytes} {L : List Cell} (h : c.mustRescan)
    (hL : c.complete (.ofStore s) plan w key () = .ok (.ready L) ()) :
    L = visible (s.cellsAt key) w.toEnd (plan.neededFamilies.map .family) := by
  rw [complete_ofStore] at hL
  simp only [conclude, request?, read, h, if_true, Option.bind_some] at hL
  have hscan := Store.elim_scan s key (plan.neededFamilies.map .family) w.toEnd
  split at hL
  next row hrow =>
    simp only [hrow, Option.elim_some] at hscan
    cases hL
    rw [hscan, List.filter_eq_self]
    exact fun x hx => (mem_visible.1 hx).2.isPut
  next => cases hL

theorem mem_of_mem_merge (hx : x ∈ c.merge found) :
    x ∈ found.filter (·.isPut) ∨ x ∈ c.putCells := by
  rw [merge, SortedMap.mem_values] at hx
  obtain ⟨a, ha⟩ := hx
  exact List.mem_append.1 (SortedMap.key_of_get?_ofList ha).1

theorem mem_merge (h : ∀ y ∈ found.filter (·.isPut) ++ c.putCells, y.address = x.address →
    Shown cells w y) : x ∈ c.merge found ↔ x ∈ found.filter (·.isPut) ++ c.putCells := by
  refine ⟨fun hx => List.mem_append.2 (mem_of_mem_merge hx), fun hx => ?_⟩
  rw [merge, SortedMap.mem_values]
  refine ⟨x.address, (SortedMap.get?_ofList_eq_some_iff fun y z hy hz => ?_).2
    (List.mem_map.2 ⟨x, hx, rfl⟩)⟩
  obtain ⟨p, hp, he⟩ := List.mem_map.1 hy
  obtain ⟨q, hq, he'⟩ := List.mem_map.1 hz
  obtain ⟨hpa, rfl⟩ := Prod.mk.inj he
  obtain ⟨hqa, rfl⟩ := Prod.mk.inj he'
  exact (h p hp hpa).unique (h q hq hqa) (hpa.trans hqa.symm)

theorem mem_putCells : x ∈ c.putCells ↔ ∃ g a, (putsOf c.groups g).get? a = some x := by
  simp only [putCells, List.mem_flatMap, SortedMap.mem_values]
  constructor
  · rintro ⟨diff, ⟨g, hg⟩, a, ha⟩
    refine ⟨g, a, ?_⟩
    rw [putsOf, hg]
    exact ha
  · rintro ⟨g, a, ha⟩
    rw [putsOf] at ha
    cases hg : c.groups.get? g with
    | none => simp [hg] at ha
    | some diff =>
        rw [hg] at ha
        exact ⟨diff, ⟨g, hg⟩, a, ha⟩

theorem conclude_eq_ready (h : c.mustRescan = false) (found : Option RowCells) :
    c.conclude found = .ready (c.merge (found.elim [] (·.cells))) := by
  cases hb : c.backfill.isEmpty <;> simp [conclude, read, h, hb]

theorem conclude_of_not_mustRescan {s : Store} {key : Bytes} {L : List Cell}
    (h : c.mustRescan = false)
    (hL : c.complete (.ofStore s) plan w key () = .ok (.ready L) ()) :
    L = c.merge (if c.backfill = [] then [] else
      visible (s.cellsAt key) w.toEnd (c.backfill.map .column)) := by
  rw [complete_ofStore, conclude_eq_ready h] at hL
  cases hL
  by_cases hb : c.backfill = []
  · simp [request?, read, h, hb]
  · have hscan := Store.elim_scan s key (c.backfill.map .column) w.toEnd
    simp only [request?, read, h, List.isEmpty_iff, hb, if_false]
    rw [← hscan]
    rfl

theorem kept_of_mem_putCells {cells : List (String × Cell)} (hc : c.groups = gather cells)
    (hx : x ∈ c.putCells) : ∃ g ∈ c.groups.keys, (g, x) ∈ keptPuts cells := by
  obtain ⟨g, a, h⟩ := mem_putCells.1 hx
  rw [hc, putsOf_gather, Cell.get?_latestByColumn_eq_some_iff] at h
  have hkept := mem_cellsOf.1 h.2.1
  refine ⟨g, ?_, hkept⟩
  rw [SortedMap.mem_keys, hc, isSome_get?_gather]
  exact ⟨x, .inr hkept⟩

theorem kept_of_ready (h : ofRow plan w row = .ready c) (hx : x ∈ c.putCells) :
    ∃ g ∈ c.groups.keys, (g, x) ∈ keptPuts (inGroups plan.schema
      (row.cells.filter (takesPart w (findTombstones plan w row)))) := by
  rcases ofRow_eq_ready h with ⟨_, _, rfl⟩ | ⟨_, rfl⟩
  · cases hx
  · exact kept_of_mem_putCells rfl hx

/-- What is read back is a column that the changed groups are put out with. -/
theorem mem_columnsToRead_of_backfill (h : ofRow plan w row = .ready c) (ha : a ∈ c.backfill) :
    a ∈ columnsToRead plan c.groups := by
  rcases ofRow_eq_ready h with ⟨_, _, rfl⟩ | ⟨_, rfl⟩
  · cases ha
  · simp only [byCells, ofCells] at ha ⊢
    split at ha
    next => cases ha
    next => exact ha

theorem backfill_of_changed {cells : List Cell} {all : Bool} {deletion : Option Deletion}
    (hc : c = ofCells plan tombstones all deletion cells) (hno : c.mustRescan = false)
    (hgroups : c.groups.isEmpty = false) : c.backfill = columnsToRead plan c.groups := by
  subst hc
  simp only [ofCells] at hno hgroups ⊢
  simp [hno, hgroups]

theorem mem_columnsToRead {groups : SortedMap String GroupDiff} :
    a ∈ columnsToRead plan groups ↔
      (∃ s ∈ plan.neededStatics, s.address = a ∧ (putsOf groups noGroup).get? a = none) ∨
        ∃ g ∈ groups.keys, g ≠ noGroup ∧
          ∃ d ∈ plan.neededDynamics, d.addressOf g = a ∧ (putsOf groups g).get? a = none := by
  simp only [columnsToRead, SortedSet.mem_members_ofList, List.mem_append, List.mem_filter,
    List.mem_map, List.mem_flatMap, SortedMap.contains, Bool.not_eq_true', bne_iff_ne,
    Option.isSome_eq_false_iff, Option.isNone_iff_eq_none]
  constructor
  · rintro (⟨⟨s, hs, rfl⟩, hnone⟩ | ⟨g, ⟨hg, hne⟩, ⟨d, hd, rfl⟩, hnone⟩)
    · exact .inl ⟨s, hs, rfl, hnone⟩
    · exact .inr ⟨g, hg, hne, d, hd, rfl, hnone⟩
  · rintro (⟨s, hs, rfl, hnone⟩ | ⟨g, hg, hne, d, hd, rfl, hnone⟩)
    · exact .inl ⟨⟨s, hs, rfl⟩, hnone⟩
    · exact .inr ⟨g, ⟨hg, hne⟩, ⟨d, hd, rfl⟩, hnone⟩

def Asked (plan : Plan) (groups : SortedMap String GroupDiff) (a : Address) : Prop :=
  (∃ s ∈ plan.neededStatics, s.address = a) ∨
    ∃ g ∈ groups.keys, g ≠ noGroup ∧ ∃ d ∈ plan.neededDynamics, d.addressOf g = a

section Changed

variable {s : Store} {key : Bytes} {L : List Cell} {all : Bool} {deletion : Option Deletion}

theorem mem_putCells_ofCells (hcov : Covered w tombstones cells x.address.family) :
    x ∈ (ofCells plan tombstones all deletion (takingPart w tombstones cells)).putCells ↔
      x ∈ takingPart w tombstones cells ∧ Shown cells w.toEnd x ∧
        ∃ g, plan.schema.place x.address = .inGroup g := by
  rw [mem_putCells]
  constructor
  · rintro ⟨g, a, h⟩
    cases address_of_get?_putsOf h
    obtain ⟨_, hg, hx, hshown⟩ := (get?_putsOf_eq_some_iff hcov).1 h
    exact ⟨hx, hshown, g, hg⟩
  · rintro ⟨hx, hshown, g, hg⟩
    exact ⟨g, x.address, (get?_putsOf_eq_some_iff hcov).2 ⟨rfl, hg, hx, hshown⟩⟩

theorem mem_completed_iff
    (hc : c = ofCells plan tombstones all deletion (takingPart w tombstones (s.cellsAt key)))
    (hno : c.mustRescan = false)
    (hL : c.complete (.ofStore s) plan w key () = .ok (.ready L) ())
    (hcov : Covered w tombstones (s.cellsAt key) x.address.family) :
    x ∈ L ↔ Shown (s.cellsAt key) w.toEnd x ∧ (x.address ∈ c.backfill ∨
      x ∈ takingPart w tombstones (s.cellsAt key) ∧
        ∃ g, plan.schema.place x.address = .inGroup g) := by
  have hputs {y : Cell} (hy : Covered w tombstones (s.cellsAt key) y.address.family) :
      y ∈ c.putCells ↔ _ := hc ▸ mem_putCells_ofCells hy
  have hread {y : Cell} : y ∈ (if c.backfill = [] then [] else
      visible (s.cellsAt key) w.toEnd (c.backfill.map .column)).filter (·.isPut) ↔
        y.address ∈ c.backfill ∧ Shown (s.cellsAt key) w.toEnd y := by
    by_cases hb : c.backfill = []
    · simp [hb]
    · rw [if_neg hb, List.mem_filter, mem_visible, asksFor_columns hb]
      exact ⟨And.left, fun h => ⟨h, h.2.isPut⟩⟩
  rw [conclude_of_not_mustRescan hno hL, mem_merge, List.mem_append, hread, hputs hcov]
  · constructor
    · rintro (⟨hb, hshown⟩ | ⟨hx, hshown, hg⟩)
      · exact ⟨hshown, .inl hb⟩
      · exact ⟨hshown, .inr ⟨hx, hg⟩⟩
    · rintro ⟨hshown, hb | ⟨hx, hg⟩⟩
      · exact .inl ⟨hb, hshown⟩
      · exact .inr ⟨hx, hshown, hg⟩
  · intro y hy ha
    rcases List.mem_append.1 hy with hy | hy
    · exact (hread.1 hy).2
    · exact ((hputs (ha ▸ hcov)).1 hy).2.1

/-- What a row that is not read again ends with was read for it, or is a new value. -/
theorem mem_completed_cases (hno : c.mustRescan = false)
    (hL : c.complete (.ofStore s) plan w key () = .ok (.ready L) ()) (hx : x ∈ L) :
    x.address ∈ c.backfill ∧ Shown (s.cellsAt key) w.toEnd x ∨ x ∈ c.putCells := by
  rw [conclude_of_not_mustRescan hno hL] at hx
  refine (mem_of_mem_merge hx).imp_left fun hread => ?_
  by_cases hb : c.backfill = []
  · simp [hb] at hread
  · rw [if_neg hb, List.mem_filter, mem_visible, asksFor_columns hb] at hread
    exact hread.1

theorem mem_completed_of_asked
    (hc : c = ofCells plan tombstones all deletion (takingPart w tombstones (s.cellsAt key)))
    (hno : c.mustRescan = false) (hgroups : c.groups.isEmpty = false)
    (hL : c.complete (.ofStore s) plan w key () = .ok (.ready L) ())
    (hcov : Covered w tombstones (s.cellsAt key) x.address.family)
    (hasked : Asked plan c.groups x.address) :
    x ∈ L ↔ Shown (s.cellsAt key) w.toEnd x := by
  rw [mem_completed_iff hc hno hL hcov, and_iff_left_iff_imp]
  intro hshown
  have hnew (g : String) (h : (putsOf c.groups g).get? x.address ≠ none) :
      x ∈ takingPart w tombstones (s.cellsAt key) ∧
        ∃ g, plan.schema.place x.address = .inGroup g := by
    obtain ⟨y, hy⟩ := Option.ne_none_iff_exists'.1 h
    rw [hc] at hy
    obtain ⟨ha, hg, hpart, hyshown⟩ := (get?_putsOf_eq_some_iff hcov).1 hy
    cases hyshown.unique hshown ha
    exact ⟨hpart, g, hg⟩
  rw [backfill_of_changed hc hno hgroups, mem_columnsToRead]
  rcases hasked with ⟨t, ht, ha⟩ | ⟨g, hg, hne, d, hd, ha⟩
  · by_cases h : (putsOf c.groups noGroup).get? x.address = none
    · exact .inl (.inl ⟨t, ht, ha, h⟩)
    · exact .inr (hnew noGroup h)
  · by_cases h : (putsOf c.groups g).get? x.address = none
    · exact .inl (.inr ⟨g, hg, hne, d, hd, ha, h⟩)
    · exact .inr (hnew g h)

theorem completed_ascending (hL : c.complete (.ofStore s) plan w key () = .ok (.ready L) ()) :
    L.Pairwise fun a b => compare a.address b.address = .lt := by
  cases hm : c.mustRescan with
  | true =>
      rw [conclude_of_mustRescan hm hL]
      exact visible_ascending _ _ _
  | false =>
      rw [conclude_of_not_mustRescan hm hL]
      exact SortedMap.values_ofList_ascending _ _

end Changed

end WideRow.ChangeSet
