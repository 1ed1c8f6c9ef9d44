import WideRow.SortedMap

namespace WideRow

variable {κ ν μ : Type} [Ord κ] [Std.TransOrd κ]

theorem nodup_of_ascending {α : Type} (key : α → κ) {xs : List α}
    (h : xs.Pairwise fun a b => compare (key a) (key b) = .lt) : xs.Nodup :=
  h.imp fun {a b} hab e => by
    subst e
    simp [Std.ReflOrd.compare_self] at hab

theorem eq_of_ascending {α : Type} (key : α → κ) {xs ys : List α}
    (hx : xs.Pairwise fun a b => compare (key a) (key b) = .lt)
    (hy : ys.Pairwise fun a b => compare (key a) (key b) = .lt)
    (h : ∀ a, a ∈ xs ↔ a ∈ ys) : xs = ys :=
  List.Perm.eq_of_pairwise
    (fun a b _ _ (hab : compare (key a) (key b) = .lt) hba =>
      absurd hba (Std.OrientedCmp.not_lt_of_lt hab)) hx hy
    ((List.perm_ext_iff_of_nodup (nodup_of_ascending key hx) (nodup_of_ascending key hy)).2 h)

namespace SortedMap

omit [Std.TransOrd κ] in
theorem mem_of_get?_eq_some [Std.LawfulEqOrd κ] {m : SortedMap κ ν} {k : κ} {v : ν}
    (h : m.get? k = some v) : (k, v) ∈ m.entries := by
  obtain ⟨e, he, hv⟩ := List.exists_of_findSome?_eq_some h
  split at hv
  next hk =>
    cases Std.LawfulEqOrd.compare_eq_iff_eq.1 hk
    cases hv
    exact he
  next => cases hv

theorem get?_of_mem {m : SortedMap κ ν} {k : κ} {v : ν} (h : (k, v) ∈ m.entries) :
    m.get? k = some v := by
  obtain ⟨es, hes⟩ := m
  simp only [get?] at h ⊢
  induction es with
  | nil => cases h
  | cons e rest ih =>
      obtain ⟨hlt, hrest⟩ := List.pairwise_cons.1 hes
      rcases List.mem_cons.1 h with rfl | h
      · simp [Std.ReflOrd.compare_self]
      · have hk : compare k e.1 = .gt := Std.OrientedCmp.gt_iff_lt.2 (hlt _ h)
        simpa [hk] using ih hrest h

variable [Std.LawfulEqOrd κ]

theorem get?_eq_some_iff {m : SortedMap κ ν} {k : κ} {v : ν} :
    m.get? k = some v ↔ (k, v) ∈ m.entries :=
  ⟨mem_of_get?_eq_some, get?_of_mem⟩

theorem ext_get? {m n : SortedMap κ ν} (h : ∀ k, m.get? k = n.get? k) : m = n := by
  have he : m.entries = n.entries := by
    refine eq_of_ascending Prod.fst m.ascending n.ascending fun e => ?_
    rw [← get?_eq_some_iff, ← get?_eq_some_iff, h]
  cases m
  cases n
  cases he
  rfl

theorem get?_insert_eq (m : SortedMap κ ν) (k k' : κ) (v : ν) [DecidableEq κ] :
    (m.insert k v).get? k' = if k' = k then some v else m.get? k' := by
  rw [get?_insert]
  by_cases h : k' = k
  · simp [h, Std.ReflOrd.compare_self]
  · simp [h]

theorem get?_update [DecidableEq κ] (m : SortedMap κ ν) (k k' : κ) (f : Option ν → ν) :
    (m.update k f).get? k' = if k' = k then some (f (m.get? k')) else m.get? k' := by
  rw [update, get?_insert_eq]
  by_cases h : k' = k
  · simp [h]
  · simp [h]

theorem get?_filter (m : SortedMap κ ν) (p : κ → ν → Bool) (k : κ) :
    (m.filter p).get? k = (m.get? k).filter (p k) := by
  refine Option.ext fun v => ?_
  rw [get?_eq_some_iff, Option.filter_eq_some_iff, get?_eq_some_iff]
  exact List.mem_filter

theorem get?_mapValues (m : SortedMap κ ν) (f : κ → ν → μ) (k : κ) :
    (m.mapValues f).get? k = (m.get? k).map (f k) := by
  refine Option.ext fun w => ?_
  rw [get?_eq_some_iff, Option.map_eq_some_iff]
  simp only [mapValues, List.mem_map]
  constructor
  · rintro ⟨⟨k', v⟩, hv, he⟩
    cases he
    exact ⟨v, get?_eq_some_iff.2 hv, rfl⟩
  · rintro ⟨v, hv, rfl⟩
    exact ⟨(k, v), get?_eq_some_iff.1 hv, rfl⟩

theorem mem_keys {m : SortedMap κ ν} {k : κ} : k ∈ m.keys ↔ (m.get? k).isSome := by
  rw [keys, List.mem_map, Option.isSome_iff_exists]
  constructor
  · rintro ⟨⟨k', v⟩, hv, rfl⟩
    exact ⟨v, get?_eq_some_iff.2 hv⟩
  · rintro ⟨v, hv⟩
    exact ⟨(k, v), get?_eq_some_iff.1 hv, rfl⟩

omit [Std.TransOrd κ] [Std.LawfulEqOrd κ] in
theorem keys_ascending (m : SortedMap κ ν) : m.keys.Pairwise fun a b => compare a b = .lt :=
  List.pairwise_map.2 m.ascending

theorem mem_values {m : SortedMap κ ν} {v : ν} : v ∈ m.values ↔ ∃ k, m.get? k = some v := by
  rw [values, List.mem_map]
  constructor
  · rintro ⟨⟨k, v'⟩, hv, rfl⟩
    exact ⟨k, get?_eq_some_iff.2 hv⟩
  · rintro ⟨k, hv⟩
    exact ⟨(k, v), get?_eq_some_iff.1 hv, rfl⟩

theorem isEmpty_iff {m : SortedMap κ ν} : m.isEmpty ↔ ∀ k, m.get? k = none := by
  rw [isEmpty, List.isEmpty_iff]
  constructor
  · intro h k
    simp [get?, h]
  · intro h
    refine List.eq_nil_iff_forall_not_mem.2 fun e he => ?_
    rw [← get?_eq_some_iff, h] at he
    cases he

theorem isEmpty_eq_false {m : SortedMap κ ν} {k : κ} (h : k ∈ m.keys) : m.isEmpty = false := by
  refine Bool.eq_false_iff.2 fun hempty => ?_
  rw [mem_keys, isEmpty_iff.1 hempty k] at h
  cases h

theorem get?_foldl_insert [DecidableEq κ] (es : List (κ × ν)) (m : SortedMap κ ν) (k : κ) :
    (es.foldl (fun m e => m.insert e.1 e.2) m).get? k =
      ((es.filter (·.1 = k)).getLast?.map (·.2)).or (m.get? k) := by
  induction es generalizing m with
  | nil => simp
  | cons e rest ih =>
      rw [List.foldl_cons, ih, get?_insert_eq]
      by_cases h : e.1 = k
      · rw [List.filter_cons_of_pos (by simpa using h), List.getLast?_cons]
        cases (rest.filter (·.1 = k)).getLast? <;> simp [h]
      · rw [List.filter_cons_of_neg (by simpa using h)]
        simp [Ne.symm h]

/-- Of entries with the same key the last one counts. -/
theorem get?_ofList [DecidableEq κ] (es : List (κ × ν)) (k : κ) :
    (ofList es).get? k = (es.filter (·.1 = k)).getLast?.map (·.2) := by
  rw [ofList, get?_foldl_insert, get?_empty, Option.or_none]

theorem mem_of_get?_ofList [DecidableEq κ] {es : List (κ × ν)} {k : κ} {v : ν}
    (h : (ofList es).get? k = some v) : (k, v) ∈ es := by
  rw [get?_ofList, Option.map_eq_some_iff] at h
  obtain ⟨e, he, rfl⟩ := h
  obtain ⟨he, hk⟩ := List.mem_filter.1 (List.mem_of_getLast? he)
  have hk : e.1 = k := by simpa using hk
  exact hk ▸ he

theorem exists_get?_ofList [DecidableEq κ] {es : List (κ × ν)} {k : κ} {v : ν}
    (h : (k, v) ∈ es) : ∃ u, (ofList es).get? k = some u := by
  have hne : es.filter (·.1 = k) ≠ [] := List.ne_nil_of_mem (List.mem_filter.2 ⟨h, by simp⟩)
  rw [get?_ofList, List.getLast?_eq_some_getLast hne]
  exact ⟨_, rfl⟩

theorem get?_ofList_eq_some_iff [DecidableEq κ] {es : List (κ × ν)} {k : κ} {v : ν}
    (h : ∀ u v, (k, u) ∈ es → (k, v) ∈ es → u = v) :
    (ofList es).get? k = some v ↔ (k, v) ∈ es := by
  refine ⟨mem_of_get?_ofList, fun hv => ?_⟩
  obtain ⟨u, hu⟩ := exists_get?_ofList hv
  rw [hu, h u v (mem_of_get?_ofList hu) hv]

theorem key_of_get?_ofList [DecidableEq κ] {α : Type} {key : α → κ} {xs : List α} {k : κ} {x : α}
    (h : (ofList (xs.map fun x => (key x, x))).get? k = some x) : x ∈ xs ∧ key x = k := by
  obtain ⟨y, hy, he⟩ := List.mem_map.1 (mem_of_get?_ofList h)
  cases he
  exact ⟨hy, rfl⟩

theorem values_ofList_ascending [DecidableEq κ] {α : Type} (key : α → κ) (xs : List α) :
    (ofList (xs.map fun x => (key x, x))).values.Pairwise fun a b =>
      compare (key a) (key b) = .lt := by
  rw [values, List.pairwise_map]
  refine List.Pairwise.imp_of_mem ?_ (ofList (xs.map fun x => (key x, x))).ascending
  rintro ⟨k, x⟩ ⟨j, y⟩ hx hy hlt
  rwa [(key_of_get?_ofList (get?_of_mem hx)).2, (key_of_get?_ofList (get?_of_mem hy)).2]

end SortedMap

namespace SortedSet

variable [Std.LawfulEqOrd κ]

theorem get?_foldl_add [DecidableEq κ] (ks : List κ) (s : SortedSet κ) (k : κ) :
    SortedMap.get? (ks.foldl add s) k = if k ∈ ks then some () else SortedMap.get? s k := by
  induction ks generalizing s with
  | nil => simp
  | cons j rest ih =>
      rw [List.foldl_cons, ih, add, SortedMap.get?_insert_eq]
      by_cases hj : k = j
      · simp [hj]
      · simp [hj]

theorem get?_ofList [DecidableEq κ] (ks : List κ) (k : κ) :
    SortedMap.get? (ofList ks) k = if k ∈ ks then some () else none := by
  rw [ofList, get?_foldl_add, SortedMap.get?_empty]

theorem mem_members_ofList [DecidableEq κ] {ks : List κ} {k : κ} :
    k ∈ (ofList ks).members ↔ k ∈ ks := by
  rw [members, SortedMap.mem_keys, get?_ofList]
  by_cases h : k ∈ ks <;> simp [h]

theorem ofList_congr [DecidableEq κ] {ks js : List κ} (h : ∀ k, k ∈ ks ↔ k ∈ js) :
    ofList ks = ofList js :=
  SortedMap.ext_get? fun k => by simp only [get?_ofList, h]

end SortedSet

end WideRow
