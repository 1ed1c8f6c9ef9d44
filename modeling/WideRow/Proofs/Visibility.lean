import WideRow.Store
import WideRow.Proofs.Precedence

namespace WideRow

namespace Cell

theorem isLE_of_timestamp_lt {a b : Cell} (h : a.timestamp < b.timestamp) : (order a b).isLE := by
  have hc : compareOn timestamp a b = .lt := Nat.compare_eq_lt.2 h
  rw [order, compareLex, hc]
  rfl

theorem isPut_eq_false_of_isFamilyMarker {m : Cell} (h : m.isFamilyMarker) : m.isPut = false := by
  obtain ⟨f, t, content⟩ := m
  cases content
  case put => cases h
  all_goals rfl

theorem of_hides {m p : Cell} (h : m.hides p) :
    m.family = p.family ∧ m.isPut = false ∧ p.timestamp ≤ m.timestamp ∧
      (m.isFamilyMarker = false → m.address = p.address) := by
  obtain ⟨f, t, content⟩ := m
  cases content <;>
    simp_all [hides, isPut, Content.isPut, isFamilyMarker, Content.isFamilyMarker, address,
      qualifier, Content.qualifier]

end Cell

theorem Window.contains_iff {w : Window} {t : Nat} : w.contains t ↔ w.min ≤ t ∧ t ≤ w.max := by
  simp [contains]

variable {cells : List Cell} {w : Window} {targets : List ReadTarget} {c d : Cell}

theorem isVisible_iff :
    isVisible cells w c ↔
      c.isPut ∧ w.contains c.timestamp ∧
        ∀ m ∈ cells, m.timestamp ≤ w.max → m.hides c = false := by
  simp [isVisible, and_assoc]

/-- The value of a column that a read shows. -/
def Shown (cells : List Cell) (w : Window) (c : Cell) : Prop :=
  c ∈ cells ∧ isVisible cells w c ∧
    ∀ d ∈ cells, d.address = c.address → isVisible cells w d → (d.order c).isLE

theorem Shown.isPut (h : Shown cells w c) : c.isPut := (isVisible_iff.1 h.2.1).1

theorem Shown.isFamilyMarker (h : Shown cells w c) : c.isFamilyMarker = false :=
  Bool.eq_false_iff.2 fun hm => by
    have hput := h.isPut
    rw [Cell.isPut_eq_false_of_isFamilyMarker hm] at hput
    cases hput

theorem Shown.contains (h : Shown cells w c) : w.contains c.timestamp := (isVisible_iff.1 h.2.1).2.1

theorem Shown.unique (hc : Shown cells w c) (hd : Shown cells w d) (ha : c.address = d.address) :
    c = d :=
  Cell.eq_of_order_eq ha
    (Std.OrientedCmp.isLE_antisymm (hd.2.2 c hc.1 ha hc.2.1) (hc.2.2 d hd.1 ha.symm hd.2.1))

theorem exists_shown_of_isVisible (hc : c ∈ cells) (hv : isVisible cells w c) :
    ∃ d, Shown cells w d ∧ d.address = c.address := by
  have hat : c ∈ Cell.atAddress c.address (cells.filter (isVisible cells w)) :=
    Cell.mem_atAddress.2 ⟨List.mem_filter.2 ⟨hc, hv⟩, rfl⟩
  obtain ⟨d, hd⟩ : ∃ d, Cell.latest? (Cell.atAddress c.address
      (cells.filter (isVisible cells w))) = some d := by
    rw [← Option.isSome_iff_exists, Option.isSome_iff_ne_none]
    exact fun h => List.ne_nil_of_mem hat (Cell.latest?_eq_none_iff.1 h)
  obtain ⟨hmem, hlast⟩ := Cell.latest?_spec hd
  obtain ⟨hdv, ha⟩ := Cell.mem_atAddress.1 hmem
  obtain ⟨hd, hdv⟩ := List.mem_filter.1 hdv
  refine ⟨d, ⟨hd, hdv, fun e he hea hev => hlast e ?_⟩, ha⟩
  exact Cell.mem_atAddress.2 ⟨List.mem_filter.2 ⟨he, hev⟩, hea.trans ha⟩

theorem mem_visible :
    c ∈ visible cells w targets ↔ asksFor targets c.address ∧ Shown cells w c := by
  rw [visible, SortedMap.mem_values]
  simp only [Cell.get?_latestByColumn_eq_some_iff, List.mem_filter, Bool.and_eq_true]
  constructor
  · rintro ⟨_, rfl, ⟨hc, hasks, hv⟩, hmax⟩
    exact ⟨hasks, hc, hv, fun d hd ha hdv => hmax d ⟨hd, ha ▸ hasks, hdv⟩ ha⟩
  · rintro ⟨hasks, hc, hv, hmax⟩
    exact ⟨_, rfl, ⟨hc, hasks, hv⟩, fun d hd ha => hmax d hd.1 ha hd.2.2⟩

theorem mem_visible_all : c ∈ visible cells w [] ↔ Shown cells w c := by
  rw [mem_visible]
  exact and_iff_right rfl

theorem visible_ascending (cells : List Cell) (w : Window) (targets : List ReadTarget) :
    (visible cells w targets).Pairwise fun a b => compare a.address b.address = .lt :=
  Cell.values_latestByColumn_ascending _

theorem asksFor_columns {columns : List Address} (h : columns ≠ []) {a : Address} :
    asksFor (columns.map .column) a ↔ a ∈ columns := by
  simp only [asksFor, Bool.or_eq_true, List.isEmpty_iff, List.map_eq_nil_iff, h, false_or,
    List.any_map, List.any_eq_true, Function.comp_apply, ReadTarget.covers, beq_iff_eq]
  exact exists_eq_right

theorem asksFor_families {families : List String} {a : Address} (h : a.family ∈ families) :
    asksFor (families.map .family) a := by
  simp only [asksFor, Bool.or_eq_true, List.any_map, List.any_eq_true, Function.comp_apply,
    ReadTarget.covers, beq_iff_eq]
  exact .inr ⟨a.family, h, rfl⟩

/-- Before and after a window the same values are visible in a column that no cell of the window
stands at or marks the family of. -/
theorem isVisible_iff_of_untouched (hmin : 1 ≤ w.min) (hmax : w.min ≤ w.max) (hd : d ∈ cells)
    (hcolumn : ∀ m ∈ cells, w.contains m.timestamp → m.address ≠ d.address)
    (hfamily : ∀ m ∈ cells, w.contains m.timestamp → m.isFamilyMarker → m.family ≠ d.family) :
    isVisible cells w.toEnd d ↔ isVisible cells ⟨0, w.min - 1⟩ d := by
  have hearlier : d.timestamp < w.min ∨ w.max < d.timestamp := by
    have h : ¬(w.min ≤ d.timestamp ∧ d.timestamp ≤ w.max) := fun h =>
      hcolumn d hd (Window.contains_iff.2 h) rfl
    omega
  simp only [isVisible_iff, Window.contains_iff, Window.toEnd]
  constructor
  · rintro ⟨hput, ⟨_, hle⟩, hfree⟩
    exact ⟨hput, by omega, fun m hm hmt => hfree m hm (by omega)⟩
  · rintro ⟨hput, ⟨_, hle⟩, hfree⟩
    refine ⟨hput, by omega, fun m hm hmt => ?_⟩
    by_cases hold : m.timestamp ≤ w.min - 1
    · exact hfree m hm hold
    · -- a marker of the window belongs to another column and to another family
      have hin : w.contains m.timestamp := Window.contains_iff.2 (by omega)
      refine Bool.eq_false_iff.2 fun hh => ?_
      obtain ⟨hf, _, _, ha⟩ := Cell.of_hides hh
      by_cases hm' : m.isFamilyMarker
      · exact hfamily m hm hin hm' hf
      · exact hcolumn m hm hin (ha (by simpa using hm'))

theorem shown_iff_of_untouched (hmin : 1 ≤ w.min) (hmax : w.min ≤ w.max)
    (hcolumn : ∀ m ∈ cells, w.contains m.timestamp → m.address ≠ c.address)
    (hfamily : ∀ m ∈ cells, w.contains m.timestamp → m.isFamilyMarker → m.family ≠ c.family) :
    Shown cells w.toEnd c ↔ Shown cells ⟨0, w.min - 1⟩ c := by
  have hsame (d : Cell) (hd : d ∈ cells) (ha : d.address = c.address) :
      isVisible cells w.toEnd d ↔ isVisible cells ⟨0, w.min - 1⟩ d := by
    have hf : d.family = c.family := congrArg Address.family ha
    exact isVisible_iff_of_untouched hmin hmax hd (ha ▸ hcolumn) (hf ▸ hfamily)
  constructor
  · rintro ⟨hc, hv, hlast⟩
    exact ⟨hc, (hsame c hc rfl).1 hv, fun d hd ha hdv => hlast d hd ha ((hsame d hd ha).2 hdv)⟩
  · rintro ⟨hc, hv, hlast⟩
    exact ⟨hc, (hsame c hc rfl).2 hv, fun d hd ha hdv => hlast d hd ha ((hsame d hd ha).1 hdv)⟩

namespace Store

variable {s : Store}

theorem elim_row? (key : Bytes) (cells : List Cell) :
    (row? key cells).elim [] (·.cells) = cells := by
  cases cells <;> rfl

theorem elim_scan (s : Store) (key : Bytes) (targets : List ReadTarget) (w : Window) :
    (s.scan key targets w).elim [] (·.cells) = visible (s.cellsAt key) w targets :=
  elim_row? _ _

def wholeRow (s : Store) (key : Bytes) (w : Window) : List Cell :=
  (s.scan key [] w).elim [] (·.cells)

theorem wholeRow_eq (s : Store) (key : Bytes) (w : Window) :
    s.wholeRow key w = visible (s.cellsAt key) w [] := elim_scan s key [] w

theorem mem_of_mem_cellsAt {key : Bytes} (h : c ∈ s.cellsAt key) :
    ∃ e ∈ s.rows.entries, c ∈ e.2 := by
  rw [cellsAt] at h
  cases hget : s.rows.get? key with
  | none => simp [hget] at h
  | some cells =>
      rw [hget] at h
      exact ⟨(key, cells), SortedMap.mem_of_get?_eq_some hget, h⟩

theorem cells_of_mem_changes {row : RowCells} (h : row ∈ s.changes w) :
    row.cells = (s.cellsAt row.key).filter fun c => w.contains c.timestamp := by
  obtain ⟨⟨key, cells⟩, hmem, hrow⟩ := List.mem_filterMap.1 h
  simp only [row?] at hrow
  split at hrow
  next => cases hrow
  next =>
    cases hrow
    rw [cellsAt, SortedMap.get?_of_mem hmem]
    rfl

end Store

end WideRow
