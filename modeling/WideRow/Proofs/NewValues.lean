import WideRow.Proofs.ChangeGroups
import WideRow.Proofs.Visibility

namespace WideRow.ChangeSet

variable {schema : Schema} {plan : Plan} {w : Window} {cells : List Cell}
  {tombstones : SortedMap String Nat} {c d : Cell} {a : Address} {g : String}

def takingPart (w : Window) (tombstones : SortedMap String Nat) (cells : List Cell) : List Cell :=
  (cells.filter fun c => w.contains c.timestamp).filter (takesPart w tombstones)

theorem takesPart_iff :
    takesPart w tombstones c ↔ c.isFamilyMarker = false ∧ c.timestamp ≤ w.max ∧
      (w.min ≤ c.timestamp ∨ c.isPut = false) ∧
        ∀ t, tombstones.get? c.family = some t → t < c.timestamp := by
  simp only [takesPart, Bool.and_eq_true, Bool.not_eq_true', Bool.or_eq_true, decide_eq_true_eq,
    Option.all_eq_true, and_assoc]

theorem mem_takingPart :
    c ∈ takingPart w tombstones cells ↔
      c ∈ cells ∧ w.contains c.timestamp ∧ c.isFamilyMarker = false ∧
        ∀ t, tombstones.get? c.family = some t → t < c.timestamp := by
  simp only [takingPart, List.mem_filter, takesPart_iff, Window.contains_iff]
  constructor
  · rintro ⟨⟨hc, hw⟩, hm, _, _, ht⟩
    exact ⟨hc, hw, hm, ht⟩
  · rintro ⟨hc, hw, hm, ht⟩
    exact ⟨⟨hc, hw⟩, hm, hw.2, .inl hw.1, ht⟩

/-- A marker that takes part cancels what it hides. -/
theorem cancels_eq_hides (hd : takesPart w tombstones d) (c : Cell) : cancels d c = d.hides c := by
  rw [Bool.eq_iff_iff, cancels_iff, and_iff_right (takesPart_iff.1 hd).1]

theorem takesPart_of_hides (hc : takesPart w tombstones c) (hh : d.hides c)
    (hcolumn : d.isFamilyMarker = false) (hmax : d.timestamp ≤ w.max) :
    takesPart w tombstones d := by
  obtain ⟨_, _, _, hlater⟩ := takesPart_iff.1 hc
  obtain ⟨hfamily, hput, hle, _⟩ := Cell.of_hides hh
  exact takesPart_iff.2 ⟨hcolumn, hmax, .inr hput, fun t ht =>
    Nat.lt_of_lt_of_le (hlater t (hfamily ▸ ht)) hle⟩

/-- What does not take part is older than anything of its family that does. -/
theorem lt_of_not_mem_takingPart (hc : c ∈ takingPart w tombstones cells) (hd : d ∈ cells)
    (hf : d.family = c.family) (hm : d.isFamilyMarker = false) (hle : d.timestamp ≤ w.max)
    (hnot : d ∉ takingPart w tombstones cells) : d.timestamp < c.timestamp := by
  obtain ⟨_, hw, _, ht⟩ := mem_takingPart.1 hc
  rw [Window.contains_iff] at hw
  by_cases hmin : w.min ≤ d.timestamp
  · simp only [mem_takingPart, hd, hm, Window.contains_iff, hmin, hle, true_and, hf,
      Classical.not_forall, Nat.not_lt] at hnot
    obtain ⟨t, htomb, hdt⟩ := hnot
    exact Nat.lt_of_le_of_lt hdt (ht t htomb)
  · omega

/-- Every marker of the family in the window stands at its tombstone or before it. -/
def Covered (w : Window) (tombstones : SortedMap String Nat) (cells : List Cell)
    (family : String) : Prop :=
  ∀ m ∈ cells, m.isFamilyMarker → m.family = family → w.contains m.timestamp →
    ∃ t, tombstones.get? family = some t ∧ m.timestamp ≤ t

theorem hides_eq_false_of_kept (hkept : (g, c) ∈ keptPuts (inGroups schema cells)) (hd : d ∈ cells)
    (hcolumn : d.isFamilyMarker = false) : d.hides c = false := by
  obtain ⟨hin, _, hfree⟩ := mem_keptPuts.1 hkept
  refine Bool.eq_false_iff.2 fun hh => ?_
  -- what hides the put stands in its column, so in its group
  obtain ⟨_, hmarker, _, haddress⟩ := Cell.of_hides hh
  have hplace := (mem_inGroups.1 hin).2
  rw [← haddress hcolumn] at hplace
  have hnot := hfree (g, d) (mem_markersOf.2 ⟨mem_inGroups.2 ⟨hd, hplace⟩, hmarker⟩)
  rw [cancels_iff.2 ⟨hcolumn, hh⟩] at hnot
  cases hnot

theorem isVisible_of_kept
    (hfree : ∀ m ∈ cells, w.contains m.timestamp → m.isFamilyMarker → m.hides c = false)
    (hkept : (g, c) ∈ keptPuts (inGroups schema (takingPart w tombstones cells))) :
    isVisible cells w.toEnd c := by
  obtain ⟨hin, hput, _⟩ := mem_keptPuts.1 hkept
  obtain ⟨hwindow, htakes⟩ := List.mem_filter.1 (mem_inGroups.1 hin).1
  have hw := Window.contains_iff.1 (List.mem_filter.1 hwindow).2
  refine isVisible_iff.2 ⟨hput, Window.contains_iff.2 ⟨Nat.zero_le _, hw.2⟩, fun m hm hmax => ?_⟩
  refine Bool.eq_false_iff.2 fun hh => ?_
  obtain ⟨_, _, hle, _⟩ := Cell.of_hides hh
  have hmw : w.contains m.timestamp := Window.contains_iff.2 ⟨Nat.le_trans hw.1 hle, hmax⟩
  cases hfam : m.isFamilyMarker with
  | true => exact absurd hh (by simp [hfree m hm hmw hfam])
  | false =>
      have hpart : m ∈ takingPart w tombstones cells :=
        List.mem_filter.2 ⟨List.mem_filter.2 ⟨hm, hmw⟩, takesPart_of_hides htakes hh hfam hmax⟩
      exact absurd hh (by simp [hides_eq_false_of_kept hkept hpart hfam])

/-- What takes part is later than the markers of its family, where the tombstone covers them. -/
theorem Covered.hides_eq_false (hcov : Covered w tombstones cells c.family)
    (hc : c ∈ takingPart w tombstones cells) {m : Cell} (hm : m ∈ cells)
    (hw : w.contains m.timestamp) (hmark : m.isFamilyMarker) : m.hides c = false := by
  refine Bool.eq_false_iff.2 fun hh => ?_
  obtain ⟨hf, _, hle, _⟩ := Cell.of_hides hh
  obtain ⟨t, htomb, hmt⟩ := hcov m hm hmark hf hw
  have hlt := (mem_takingPart.1 hc).2.2.2 t htomb
  omega

theorem kept_of_isVisible (hc : c ∈ takingPart w tombstones cells)
    (hg : schema.place c.address = .inGroup g) (hv : isVisible cells w.toEnd c) :
    (g, c) ∈ keptPuts (inGroups schema (takingPart w tombstones cells)) := by
  obtain ⟨hput, _, hfree⟩ := isVisible_iff.1 hv
  refine mem_keptPuts.2 ⟨mem_inGroups.2 ⟨hc, hg⟩, hput, ?_⟩
  rintro ⟨g', m⟩ hmark
  obtain ⟨hwindow, htakes⟩ := List.mem_filter.1 (mem_inGroups.1 (mem_markersOf.1 hmark).1).1
  obtain ⟨hm, hmw⟩ := List.mem_filter.1 hwindow
  rw [cancels_eq_hides htakes]
  exact hfree m hm (Window.contains_iff.1 hmw).2

/-- The markers that count hide exactly what all markers of the row hide. -/
theorem kept_iff_isVisible (hcov : Covered w tombstones cells c.family)
    (hc : c ∈ takingPart w tombstones cells) (hg : schema.place c.address = .inGroup g) :
    (g, c) ∈ keptPuts (inGroups schema (takingPart w tombstones cells)) ↔
      isVisible cells w.toEnd c := by
  constructor
  · exact isVisible_of_kept fun m hm hw hmark => hcov.hides_eq_false hc hm hw hmark
  · exact kept_of_isVisible hc hg

/-- The new value of a column is what a read shows in it, if that takes part. -/
theorem get?_putsOf_eq_some_iff (hcov : Covered w tombstones cells a.family) :
    (putsOf (gather (inGroups schema (takingPart w tombstones cells))) g).get? a = some c ↔
      c.address = a ∧ schema.place a = .inGroup g ∧ c ∈ takingPart w tombstones cells ∧
        Shown cells w.toEnd c := by
  rw [putsOf_gather, Cell.get?_latestByColumn_eq_some_iff]
  simp only [mem_cellsOf]
  constructor
  · rintro ⟨rfl, hkept, hlast⟩
    obtain ⟨hc, hg⟩ := mem_inGroups.1 (mem_keptPuts.1 hkept).1
    refine ⟨rfl, hg, hc, (mem_takingPart.1 hc).1, (kept_iff_isVisible hcov hc hg).1 hkept, ?_⟩
    intro d hd ha hv
    have hf : d.family = c.family := congrArg Address.family ha
    by_cases hpart : d ∈ takingPart w tombstones cells
    · exact hlast d ((kept_iff_isVisible (hf ▸ hcov) hpart (ha ▸ hg)).2 hv) ha
    · obtain ⟨hput, hw, _⟩ := isVisible_iff.1 hv
      refine Cell.isLE_of_timestamp_lt (lt_of_not_mem_takingPart hc hd hf ?_ ?_ hpart)
      · refine Bool.eq_false_iff.2 fun hm => ?_
        rw [Cell.isPut_eq_false_of_isFamilyMarker hm] at hput
        cases hput
      · exact (Window.contains_iff.1 hw).2
  · rintro ⟨rfl, hg, hc, hmem, hv, hlast⟩
    refine ⟨rfl, (kept_iff_isVisible hcov hc hg).2 hv, fun d hkept ha => ?_⟩
    obtain ⟨hd, hg'⟩ := mem_inGroups.1 (mem_keptPuts.1 hkept).1
    have hf : d.family = c.family := congrArg Address.family ha
    refine hlast d (mem_takingPart.1 hd).1 ha ?_
    exact (kept_iff_isVisible (hf ▸ hcov) hd hg').1 hkept

end WideRow.ChangeSet
