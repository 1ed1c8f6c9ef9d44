import WideRow.Proofs.Visibility

namespace WideRow

variable {cells cells' : List Cell} {w : Window} {targets : List ReadTarget} {c p : Cell}

/-- A value of the window that no marker up to its end deletes. -/
structure Standing (cells : List Cell) (w : Window) (p : Cell) : Prop where
  mem : p ∈ cells
  isPut : p.isPut
  within : w.min ≤ p.timestamp ∧ p.timestamp ≤ w.max
  free : ∀ m ∈ cells, m.isPut = false → m.timestamp ≤ w.max → m.hides p = false

theorem standing_iff : Standing cells w p ↔ p ∈ cells ∧ isVisible cells w p := by
  rw [isVisible_iff, Window.contains_iff]
  constructor
  · intro h
    refine ⟨h.mem, h.isPut, h.within, fun m hm hle => ?_⟩
    cases hput : m.isPut with
    | false => exact h.free m hm hput hle
    | true =>
        refine Bool.eq_false_iff.2 fun hh => ?_
        rw [(Cell.of_hides hh).2.1] at hput
        cases hput
  · rintro ⟨hp, hput, hwithin, hfree⟩
    exact ⟨hp, hput, hwithin, fun m hm _ hle => hfree m hm hle⟩

/-- What is read of a row: for each column asked for that has values left, the latest of them. No
target asks for every column. -/
structure IsRead (cells : List Cell) (targets : List ReadTarget) (w : Window)
    (read : List Cell) : Prop where
  ascending : read.Pairwise fun a b => compare a.address b.address = .lt
  column : ∀ a, (∃ c ∈ read, c.address = a) ↔
    (targets = [] ∨ ∃ t ∈ targets, t.covers a) ∧ ∃ p, p.address = a ∧ Standing cells w p
  latest : ∀ c ∈ read, Standing cells w c ∧
    ∀ p, p.address = c.address → Standing cells w p → (p.order c).isLE

theorem asksFor_iff {a : Address} :
    asksFor targets a ↔ targets = [] ∨ ∃ t ∈ targets, t.covers a := by
  simp only [asksFor, Bool.or_eq_true, List.isEmpty_iff, List.any_eq_true]

theorem isRead_visible (cells : List Cell) (targets : List ReadTarget) (w : Window) :
    IsRead cells targets w (visible cells w targets) where
  ascending := visible_ascending cells w targets
  column a := by
    rw [← asksFor_iff]
    constructor
    · rintro ⟨c, hc, rfl⟩
      obtain ⟨hasks, hc, hv, _⟩ := mem_visible.1 hc
      exact ⟨hasks, c, rfl, standing_iff.2 ⟨hc, hv⟩⟩
    · rintro ⟨hasks, p, rfl, hp⟩
      obtain ⟨hp, hv⟩ := standing_iff.1 hp
      obtain ⟨c, hc, ha⟩ := exists_shown_of_isVisible hp hv
      exact ⟨c, mem_visible.2 ⟨ha ▸ hasks, hc⟩, ha⟩
  latest c hc := by
    obtain ⟨_, hc, hv, hlast⟩ := mem_visible.1 hc
    refine ⟨standing_iff.2 ⟨hc, hv⟩, fun p ha hp => ?_⟩
    obtain ⟨hp, hpv⟩ := standing_iff.1 hp
    exact hlast p hp ha hpv

def SameUpTo (w : Window) (cells cells' : List Cell) : Prop :=
  ∀ c, c.timestamp ≤ w.max → (c ∈ cells ↔ c ∈ cells')

theorem SameUpTo.symm (h : SameUpTo w cells cells') : SameUpTo w cells' cells :=
  fun c hc => (h c hc).symm

theorem SameUpTo.standing (h : SameUpTo w cells cells') (hp : Standing cells w p) :
    Standing cells' w p where
  mem := (h p hp.within.2).1 hp.mem
  isPut := hp.isPut
  within := hp.within
  free m hm hmark hle := hp.free m ((h m hle).2 hm) hmark hle

theorem SameUpTo.standing_iff (h : SameUpTo w cells cells') :
    Standing cells w p ↔ Standing cells' w p :=
  ⟨h.standing, h.symm.standing⟩

/-- There is one read of a row. -/
theorem IsRead.unique {read read' : List Cell} (h : IsRead cells targets w read)
    (h' : IsRead cells targets w read') : read = read' := by
  have hsub {read read' : List Cell} (h : IsRead cells targets w read)
      (h' : IsRead cells targets w read') {c : Cell} (hc : c ∈ read) : c ∈ read' := by
    obtain ⟨d, hd, ha⟩ := (h'.column c.address).2 ((h.column c.address).1 ⟨c, hc, rfl⟩)
    obtain ⟨hcs, hclast⟩ := h.latest c hc
    obtain ⟨hds, hdlast⟩ := h'.latest d hd
    have hdc : d = c := Cell.eq_of_order_eq ha
      (Std.OrientedCmp.isLE_antisymm (hclast d ha hds) (hdlast c ha.symm hcs))
    exact hdc ▸ hd
  exact eq_of_ascending Cell.address h.ascending h'.ascending fun c => ⟨hsub h h', hsub h' h⟩

theorem IsRead.congr {read : List Cell} (hsame : SameUpTo w cells cells')
    (h : IsRead cells targets w read) : IsRead cells' targets w read where
  ascending := h.ascending
  column a := by simpa only [hsame.standing_iff] using h.column a
  latest c hc := by simpa only [hsame.standing_iff] using h.latest c hc

theorem visible_congr (h : SameUpTo w cells cells') :
    visible cells w targets = visible cells' w targets :=
  ((isRead_visible cells targets w).congr h).unique (isRead_visible cells' targets w)

namespace Store

variable {s t : Store} {key : Bytes} {row : RowCells}

theorem row?_eq_some_iff : row? key cells = some row ↔ row = ⟨key, cells⟩ ∧ cells ≠ [] := by
  cases cells with
  | nil => simp [row?]
  | cons c cs => simp [row?, eq_comm]

theorem scan_eq_some_iff : s.scan key targets w = some row ↔
    row = ⟨key, visible (s.cellsAt key) w targets⟩ ∧ visible (s.cellsAt key) w targets ≠ [] :=
  row?_eq_some_iff

theorem scan_congr (h : SameUpTo w (s.cellsAt key) (t.cellsAt key)) :
    s.scan key targets w = t.scan key targets w := by
  rw [scan, scan, visible_congr h]

def ofHistory (history : List (Bytes × Cell)) : Store :=
  history.foldl (fun s e => s.insert e.1 e.2) .empty

theorem cellsAt_insert (s : Store) (key key' : Bytes) (c : Cell) :
    (s.insert key c).cellsAt key' =
      if key' = key then s.cellsAt key' ++ [c] else s.cellsAt key' := by
  rw [cellsAt, insert, SortedMap.get?_update]
  split <;> rfl

theorem mem_cellsAt_foldl (history : List (Bytes × Cell)) (s : Store) :
    c ∈ (history.foldl (fun s e => s.insert e.1 e.2) s).cellsAt key ↔
      c ∈ s.cellsAt key ∨ (key, c) ∈ history := by
  induction history generalizing s with
  | nil => simp
  | cons e es ih =>
      rw [List.foldl_cons, ih, cellsAt_insert, List.mem_cons, ← or_assoc]
      refine or_congr_left ?_
      obtain ⟨key', d⟩ := e
      by_cases hk : key = key' <;> simp [hk]

theorem mem_cellsAt_ofHistory {history : List (Bytes × Cell)} :
    c ∈ (ofHistory history).cellsAt key ↔ (key, c) ∈ history := by
  rw [ofHistory, mem_cellsAt_foldl]
  exact or_iff_right List.not_mem_nil

theorem latest_ascending (s : Store) (w : Window) :
    (s.latest w).Pairwise fun a b => compare a.key b.key = .lt := by
  refine List.Pairwise.filterMap _ (fun e e' hlt a ha b hb => ?_) s.rows.ascending
  rw [(row?_eq_some_iff.1 ha).1, (row?_eq_some_iff.1 hb).1]
  exact hlt

theorem mem_latest_iff : row ∈ s.latest w ↔ s.scan row.key [] w = some row := by
  rw [scan_eq_some_iff, latest, List.mem_filterMap]
  constructor
  · rintro ⟨⟨key, cells⟩, hmem, hrow⟩
    obtain ⟨rfl, hne⟩ := row?_eq_some_iff.1 hrow
    rw [cellsAt, SortedMap.get?_of_mem hmem]
    exact ⟨rfl, hne⟩
  · rintro ⟨hrow, hne⟩
    cases hget : s.rows.get? row.key with
    | none =>
        rw [cellsAt, hget] at hne
        exact absurd rfl hne
    | some cells =>
        rw [cellsAt, hget] at hrow hne
        exact ⟨_, SortedMap.mem_of_get?_eq_some hget, row?_eq_some_iff.2 ⟨hrow, hne⟩⟩

/-- A read gives each column asked for, in order, the latest value that is left of it, and it
depends on the set of the cells up to the end of its window alone. All rows at once are read as each
of them is. -/
theorem scan_of_history (s : Store) (key : Bytes) (targets : List ReadTarget) (w : Window) :
    IsRead (s.cellsAt key) targets w ((s.scan key targets w).elim [] (·.cells)) ∧
    (∀ row, s.scan key targets w = some row → row.key = key ∧ row.cells ≠ []) ∧
    (∀ t : Store, SameUpTo w (s.cellsAt key) (t.cellsAt key) →
      t.scan key targets w = s.scan key targets w) ∧
    (∀ history history' : List (Bytes × Cell),
      (∀ c, c.timestamp ≤ w.max → ((key, c) ∈ history ↔ (key, c) ∈ history')) →
        (ofHistory history).scan key targets w = (ofHistory history').scan key targets w) ∧
    (s.latest w).Pairwise (fun a b => compare a.key b.key = .lt) ∧
    ∀ row, row ∈ s.latest w ↔ s.scan row.key [] w = some row := by
  refine ⟨?_, fun row hrow => ?_, fun t h => (scan_congr h).symm, fun history history' h => ?_,
    latest_ascending s w, fun row => mem_latest_iff⟩
  · rw [elim_scan]
    exact isRead_visible _ targets w
  · obtain ⟨rfl, hne⟩ := scan_eq_some_iff.1 hrow
    exact ⟨rfl, hne⟩
  · refine scan_congr fun c hc => ?_
    rw [mem_cellsAt_ofHistory, mem_cellsAt_ofHistory]
    exact h c hc

example :
    (ofHistory [([1], ⟨"D", 20, .deleteFamily⟩), ([1], ⟨"D", 10, .put [65] [1]⟩),
      ([1], ⟨"D", 30, .put [65] [2]⟩)]).scan [1] [] ⟨0, 25⟩ = none := by
  decide

end Store

end WideRow
