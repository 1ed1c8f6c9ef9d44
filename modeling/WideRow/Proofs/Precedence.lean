import WideRow.Cell
import WideRow.Proofs.Maps

namespace WideRow.Cell

instance : Std.TransCmp order :=
  inferInstanceAs (Std.TransCmp (compareLex (compareOn timestamp)
    (compareLex (compareOn fun c : Cell => c.content.rank)
      (compareOn fun c : Cell => c.value?.getD []))))

theorem order_eq_iff {a b : Cell} : order a b = .eq ↔
    a.timestamp = b.timestamp ∧ a.content.rank = b.content.rank ∧
      a.value?.getD [] = b.value?.getD [] := by
  simp only [order, compareLex_eq_eq, compareOn, Std.LawfulEqOrd.compare_eq_iff_eq]

/-- Two cells of one column of which neither comes before the other are the same. -/
theorem eq_of_order_eq {a b : Cell} (ha : a.address = b.address) (ho : order a b = .eq) :
    a = b := by
  obtain ⟨ht, hr, hv⟩ := order_eq_iff.1 ho
  obtain ⟨fa, ta, ca⟩ := a
  obtain ⟨fb, tb, cb⟩ := b
  obtain ⟨rfl, hq⟩ : fa = fb ∧ ca.qualifier = cb.qualifier := by
    simpa [address, qualifier] using ha
  cases ht
  have hc : ca = cb := by
    cases ca <;> cases cb <;>
      simp_all [Content.rank, Content.qualifier, value?, Content.value?]
  rw [hc]

theorem timestamp_le_of_order {a b : Cell} (h : (order a b).isLE) : a.timestamp ≤ b.timestamp :=
  Nat.isLE_compare.1 (Ordering.isLE_left_of_isLE_then h)

theorem rank_le_of_order {a b : Cell} (h : (order a b).isLE) (ht : a.timestamp = b.timestamp) :
    a.content.rank ≤ b.content.rank := by
  rcases Ordering.isLE_then_iff_or.1 h with hlt | ⟨_, hle⟩
  · have hlt : a.timestamp < b.timestamp := Nat.compare_eq_lt.1 hlt
    exact absurd ht (Nat.ne_of_lt hlt)
  · exact Nat.isLE_compare.1 (Ordering.isLE_left_of_isLE_then hle)

theorem later_eq_or (a b : Cell) : later a b = a ∨ later a b = b := by
  rw [later]
  split
  · exact .inr rfl
  · exact .inl rfl

theorem le_later_left (a b : Cell) : (order a (later a b)).isLE := by
  rw [later]
  split
  next h =>
    have hgt : order b a = .gt := by simpa [outranks] using h
    exact Ordering.isLE_of_eq_lt (Std.OrientedCmp.gt_iff_lt.1 hgt)
  next => exact Std.ReflCmp.isLE_rfl

theorem le_later_right (a b : Cell) : (order b (later a b)).isLE := by
  rw [later]
  split
  next => exact Std.ReflCmp.isLE_rfl
  next h =>
    rw [Ordering.isLE_iff_ne_gt]
    simpa [outranks] using h

theorem mem_foldl_later (c : Cell) (cs : List Cell) : cs.foldl later c ∈ c :: cs := by
  induction cs generalizing c with
  | nil => simp
  | cons d ds ih =>
      have h := ih (later c d)
      rw [List.foldl_cons]
      rcases later_eq_or c d with he | he
      · rw [he] at h ⊢
        exact List.mem_cons.2 ((List.mem_cons.1 h).imp_right (List.mem_cons_of_mem d))
      · rw [he] at h ⊢
        exact List.mem_cons_of_mem c h

theorem le_foldl_later (c : Cell) (cs : List Cell) :
    ∀ d ∈ c :: cs, (order d (cs.foldl later c)).isLE := by
  induction cs generalizing c with
  | nil =>
      intro d hd
      rw [List.mem_singleton.1 hd]
      exact Std.ReflCmp.isLE_rfl
  | cons e es ih =>
      intro d hd
      have hacc := ih (later c e) _ List.mem_cons_self
      rw [List.foldl_cons]
      rcases List.mem_cons.1 hd with rfl | hd
      · exact Std.TransCmp.isLE_trans (le_later_left d e) hacc
      · rcases List.mem_cons.1 hd with rfl | hd
        · exact Std.TransCmp.isLE_trans (le_later_right c d) hacc
        · exact ih (later c e) d (List.mem_cons_of_mem _ hd)

theorem latest?_spec {cs : List Cell} {c : Cell} (h : latest? cs = some c) :
    c ∈ cs ∧ ∀ d ∈ cs, (order d c).isLE := by
  cases cs with
  | nil => cases h
  | cons d ds =>
      cases h
      exact ⟨mem_foldl_later d ds, le_foldl_later d ds⟩

theorem latest?_eq_none_iff {cs : List Cell} : latest? cs = none ↔ cs = [] := by
  cases cs <;> simp [latest?]

theorem latest?_eq_some_iff {cs : List Cell} {c : Cell} (h : ∀ d ∈ cs, d.address = c.address) :
    latest? cs = some c ↔ c ∈ cs ∧ ∀ d ∈ cs, (order d c).isLE := by
  refine ⟨latest?_spec, fun ⟨hc, hmax⟩ => ?_⟩
  obtain ⟨d, hd⟩ : ∃ d, latest? cs = some d := by
    rw [← Option.isSome_iff_exists, Option.isSome_iff_ne_none, Ne, latest?_eq_none_iff]
    exact List.ne_nil_of_mem hc
  obtain ⟨hmem, hle⟩ := latest?_spec hd
  rw [hd, eq_of_order_eq (h d hmem) (Std.OrientedCmp.isLE_antisymm (hmax d hmem) (hle c hc))]

theorem latest?_congr {a : Address} {cs ds : List Cell} (ha : ∀ c ∈ cs, c.address = a)
    (h : ∀ c, c ∈ cs ↔ c ∈ ds) : latest? cs = latest? ds := by
  have hd : ∀ c ∈ ds, c.address = a := fun c hc => ha c ((h c).2 hc)
  refine Option.ext fun c => ?_
  have hiff : (c ∈ cs ∧ ∀ d ∈ cs, (order d c).isLE) ↔ c ∈ ds ∧ ∀ d ∈ ds, (order d c).isLE := by
    simp only [h]
  by_cases hc : c.address = a
  · rw [latest?_eq_some_iff fun d hd => (ha d hd).trans hc.symm,
      latest?_eq_some_iff fun d hd' => (hd d hd').trans hc.symm, hiff]
  · exact ⟨fun hs => absurd (ha c (latest?_spec hs).1) hc,
      fun hs => absurd (hd c (latest?_spec hs).1) hc⟩

def atAddress (a : Address) (cs : List Cell) : List Cell := cs.filter (·.address == a)

@[simp] theorem mem_atAddress {a : Address} {cs : List Cell} {c : Cell} :
    c ∈ atAddress a cs ↔ c ∈ cs ∧ c.address = a := by
  simp [atAddress]

theorem get?_foldl_addLatest (cs : List Cell) (m : SortedMap Address Cell) (a : Address) :
    (cs.foldl addLatest m).get? a =
      match m.get? a with
      | none => latest? (atAddress a cs)
      | some c => some ((atAddress a cs).foldl later c) := by
  induction cs generalizing m with
  | nil => cases h : m.get? a <;> simp [atAddress, latest?, h]
  | cons d ds ih =>
      rw [List.foldl_cons, ih, addLatest, SortedMap.get?_update]
      by_cases hd : a = d.address
      · subst hd
        cases h : m.get? d.address <;> simp [atAddress, latest?]
      · have hne : (d.address == a) = false := by simpa using Ne.symm hd
        simp [atAddress, hne, hd]

theorem get?_latestByColumn (cs : List Cell) (a : Address) :
    (latestByColumn cs).get? a = latest? (atAddress a cs) := by
  rw [latestByColumn, get?_foldl_addLatest, SortedMap.get?_empty]

theorem get?_latestByColumn_eq_some_iff {cs : List Cell} {a : Address} {c : Cell} :
    (latestByColumn cs).get? a = some c ↔
      c.address = a ∧ c ∈ cs ∧ ∀ d ∈ cs, d.address = a → (order d c).isLE := by
  rw [get?_latestByColumn]
  constructor
  · intro h
    obtain ⟨hc, hmax⟩ := latest?_spec h
    rw [mem_atAddress] at hc
    exact ⟨hc.2, hc.1, fun d hd ha => hmax d (mem_atAddress.2 ⟨hd, ha⟩)⟩
  · rintro ⟨rfl, hc, hmax⟩
    rw [latest?_eq_some_iff fun d hd => (mem_atAddress.1 hd).2]
    refine ⟨mem_atAddress.2 ⟨hc, rfl⟩, fun d hd => ?_⟩
    exact hmax d (mem_atAddress.1 hd).1 (mem_atAddress.1 hd).2

theorem latestByColumn_congr {cs ds : List Cell} (h : ∀ c, c ∈ cs ↔ c ∈ ds) :
    latestByColumn cs = latestByColumn ds := by
  refine SortedMap.ext_get? fun a => ?_
  rw [get?_latestByColumn, get?_latestByColumn]
  refine latest?_congr (fun c hc => (mem_atAddress.1 hc).2) fun c => ?_
  rw [mem_atAddress, mem_atAddress, h]

theorem values_latestByColumn_ascending (cs : List Cell) :
    (latestByColumn cs).values.Pairwise fun a b => compare a.address b.address = .lt := by
  rw [SortedMap.values, List.pairwise_map]
  refine List.Pairwise.imp_of_mem ?_ (latestByColumn cs).ascending
  rintro ⟨a, c⟩ ⟨b, d⟩ hc hd hab
  have hc := (get?_latestByColumn_eq_some_iff.1 (SortedMap.get?_of_mem hc)).1
  have hd := (get?_latestByColumn_eq_some_iff.1 (SortedMap.get?_of_mem hd)).1
  simpa [hc, hd] using hab

theorem exists_latest_of_mem {cs : List Cell} {c : Cell} (hc : c ∈ cs) :
    ∃ d, (latestByColumn cs).get? c.address = some d ∧ c.timestamp ≤ d.timestamp := by
  have hat : c ∈ atAddress c.address cs := mem_atAddress.2 ⟨hc, rfl⟩
  rw [get?_latestByColumn]
  cases hd : latest? (atAddress c.address cs) with
  | none => exact absurd (latest?_eq_none_iff.1 hd) (List.ne_nil_of_mem hat)
  | some d => exact ⟨d, rfl, timestamp_le_of_order ((latest?_spec hd).2 c hat)⟩

theorem max?_latestByColumn (cs : List Cell) :
    ((latestByColumn cs).values.map (·.timestamp)).max? = (cs.map (·.timestamp)).max? := by
  have hsub {c : Cell} (hc : c ∈ (latestByColumn cs).values) : c ∈ cs := by
    obtain ⟨a, ha⟩ := SortedMap.mem_values.1 hc
    exact (get?_latestByColumn_eq_some_iff.1 ha).2.1
  have hlast {c : Cell} (hc : c ∈ cs) :
      ∃ d ∈ (latestByColumn cs).values, c.timestamp ≤ d.timestamp := by
    obtain ⟨d, hd, hle⟩ := exists_latest_of_mem hc
    exact ⟨d, SortedMap.mem_values.2 ⟨c.address, hd⟩, hle⟩
  refine Option.ext fun t => ?_
  simp only [List.max?_eq_some_iff, List.mem_map]
  constructor
  · rintro ⟨⟨c, hc, rfl⟩, hle⟩
    refine ⟨⟨c, hsub hc, rfl⟩, ?_⟩
    rintro _ ⟨d, hd, rfl⟩
    obtain ⟨e, he, hde⟩ := hlast hd
    exact Nat.le_trans hde (hle _ ⟨e, he, rfl⟩)
  · rintro ⟨⟨c, hc, rfl⟩, hle⟩
    obtain ⟨d, hd, hcd⟩ := hlast hc
    refine ⟨⟨d, hd, Nat.le_antisymm (hle _ ⟨d, hsub hd, rfl⟩) hcd⟩, ?_⟩
    rintro _ ⟨e, he, rfl⟩
    exact hle _ ⟨e, hsub he, rfl⟩

end WideRow.Cell
