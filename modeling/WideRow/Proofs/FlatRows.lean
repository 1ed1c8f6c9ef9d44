import WideRow.Document.Rows

namespace WideRow

namespace Document

variable {d : DocumentColumn} {path : List String} {name : String} {node : Node}
  {items : List Node} {members : List (String × Node)} {y : Yield} {rows : List Row}

theorem mem_product {left right : List Row} {row : Row} :
    row ∈ product left right ↔ ∃ a ∈ left, ∃ b ∈ right, row = a ++ b := by
  simp only [product, List.mem_flatMap, List.mem_map, eq_comm]

theorem memberYield_branch (h : memberYield d path (.branch members) = .ok y) :
    (d.opensBelow (DocumentColumn.pathText path) = false ∧ y = {}) ∨
      d.opensBelow (DocumentColumn.pathText path) = true ∧
        ∃ z, yield d path members = .ok z ∧ y = { nested := present z.rows } := by
  rw [memberYield] at h
  split at h
  next hopen =>
    obtain ⟨z, hz, he⟩ := bind_eq_ok h
    cases he
    exact .inr ⟨hopen, z, hz, rfl⟩
  next hclosed =>
    cases h
    exact .inl ⟨by simpa using hclosed, rfl⟩

theorem memberYield_list (h : memberYield d path (.list items) = .ok y) :
    (items.all (·.isBranch) = true ∧
      ((d.opensBelow (DocumentColumn.pathText path) = false ∧ y = {}) ∨
        d.opensBelow (DocumentColumn.pathText path) = true ∧
          ∃ rows, elementRows d path items = .ok rows ∧ y = { listed := present rows })) ∨
    (items.all (·.isScalar) = true ∧
      y = { listed := if isIncluded d path then present (scalarRows path items) else [] }) := by
  rw [memberYield] at h
  split at h
  next hbranches =>
    refine .inl ⟨hbranches, ?_⟩
    split at h
    next hopen =>
      obtain ⟨rows, hrows, he⟩ := bind_eq_ok h
      cases he
      exact .inr ⟨hopen, rows, hrows, rfl⟩
    next hclosed =>
      cases h
      exact .inl ⟨by simpa using hclosed, rfl⟩
  next =>
    split at h
    next hscalars =>
      cases h
      exact .inr ⟨hscalars, rfl⟩
    next => cases h

theorem yield_cons (h : yield d path ((name, node) :: members) = .ok y) :
    ∃ a b, memberYield d (path ++ [name]) node = .ok a ∧ yield d path members = .ok b ∧
      y = a.append b := by
  rw [yield] at h
  obtain ⟨a, ha, h⟩ := bind_eq_ok h
  obtain ⟨b, hb, he⟩ := bind_eq_ok h
  cases he
  exact ⟨a, b, ha, hb, rfl⟩

theorem elementRows_cons (h : elementRows d path (.branch members :: items) = .ok rows) :
    ∃ y rest, yield d path members = .ok y ∧ elementRows d path items = .ok rest ∧
      rows = y.rows ++ rest := by
  rw [elementRows] at h
  obtain ⟨y, hy, h⟩ := bind_eq_ok h
  obtain ⟨rest, hrest, he⟩ := bind_eq_ok h
  cases he
  exact ⟨y, rest, hy, hrest, rfl⟩

namespace Yield

def combined (y : Yield) : List Row := (y.nested ++ y.listed).foldl product [y.fields]

/-- There are rows to combine, and something in each of them. -/
def Sound (y : Yield) : Prop := ∀ rows ∈ y.nested ++ y.listed, rows ≠ [] ∧ [] ∉ rows

theorem Sound.append {a b : Yield} (ha : a.Sound) (hb : b.Sound) : (a.append b).Sound := by
  intro rows hrows
  simp only [Yield.append, List.mem_append] at hrows
  rcases hrows with (h | h) | (h | h)
  · exact ha rows (List.mem_append_left _ h)
  · exact hb rows (List.mem_append_left _ h)
  · exact ha rows (List.mem_append_right _ h)
  · exact hb rows (List.mem_append_right _ h)

theorem not_mem_foldl_product {parts : List (List Row)} {first : List Row} (h : [] ∉ first) :
    [] ∉ parts.foldl product first := by
  induction parts generalizing first with
  | nil => exact h
  | cons rows parts ih =>
      refine ih fun hmem => ?_
      obtain ⟨a, ha, b, _, hab⟩ := mem_product.1 hmem
      rw [(List.append_eq_nil_iff.1 hab.symm).1] at ha
      exact h ha

theorem Sound.rows_eq (h : y.Sound) : y.rows = y.combined.filter fun row => !row.isEmpty := by
  have hrows : y.rows = if y.combined = [[]] then [] else y.combined := rfl
  rw [hrows]
  cases hparts : y.nested ++ y.listed with
  | nil =>
      have hc : y.combined = [y.fields] := by rw [combined, hparts, List.foldl_nil]
      rw [hc]
      cases y.fields <;> simp
  | cons part parts =>
      have hpart : [] ∉ product [y.fields] part := by
        intro hmem
        obtain ⟨a, _, b, hb, hab⟩ := mem_product.1 hmem
        rw [(List.append_eq_nil_iff.1 hab.symm).2] at hb
        exact (h part (by simp [hparts])).2 hb
      have hc : [] ∉ y.combined := by
        rw [combined, hparts, List.foldl_cons]
        exact not_mem_foldl_product hpart
      rw [if_neg fun he => hc (by simp [he]), eq_comm, List.filter_eq_self]
      intro row hrow
      cases row with
      | nil => exact absurd hrow hc
      | cons i row => rfl

theorem Sound.not_mem_rows (h : y.Sound) : [] ∉ y.rows := by
  rw [h.rows_eq]
  simp

end Yield

theorem sound_present (h : [] ∉ rows) : ∀ rs ∈ present rows, rs ≠ [] ∧ [] ∉ rs := by
  intro rs hrs
  rw [present] at hrs
  split at hrs
  next => cases hrs
  next hne =>
    obtain rfl := List.mem_singleton.1 hrs
    exact ⟨fun he => hne (by simp [he]), h⟩

theorem not_mem_scalarRows (path : List String) (items : List Node) :
    [] ∉ scalarRows path items := by
  induction items with
  | nil => exact List.not_mem_nil
  | cons node items ih => cases node <;> simp [scalarRows, ih]

mutual

theorem sound_memberYield (path : List String) (node : Node) {y : Yield}
    (h : memberYield d path node = .ok y) : y.Sound := by
  match node with
  | .scalar value =>
      cases h
      exact nofun
  | .branch members =>
      obtain ⟨_, rfl⟩ | ⟨_, z, hz, rfl⟩ := memberYield_branch h
      · exact nofun
      · have hrows : [] ∉ z.rows := (sound_yield path members hz).not_mem_rows
        simpa [Yield.Sound] using sound_present hrows
  | .list items =>
      obtain ⟨_, ⟨_, rfl⟩ | ⟨_, rows, hrows, rfl⟩⟩ | ⟨_, rfl⟩ := memberYield_list h
      · exact nofun
      · simpa [Yield.Sound] using sound_present (not_mem_elementRows path items hrows)
      · split
        · simpa [Yield.Sound] using sound_present (not_mem_scalarRows path items)
        · exact nofun

theorem sound_yield (path : List String) (members : List (String × Node)) {y : Yield}
    (h : yield d path members = .ok y) : y.Sound := by
  match members with
  | [] =>
      cases h
      exact nofun
  | (name, node) :: members =>
      obtain ⟨a, b, ha, hb, rfl⟩ := yield_cons h
      exact (sound_memberYield (path ++ [name]) node ha).append (sound_yield path members hb)

theorem not_mem_elementRows (path : List String) (items : List Node) {rows : List Row}
    (h : elementRows d path items = .ok rows) : [] ∉ rows := by
  match items with
  | [] =>
      cases h
      exact List.not_mem_nil
  | .branch members :: items =>
      obtain ⟨y, rest, hy, hrest, rfl⟩ := elementRows_cons h
      have hrows : [] ∉ y.rows := (sound_yield path members hy).not_mem_rows
      exact fun hmem => (List.mem_append.1 hmem).elim hrows (not_mem_elementRows path items hrest)
  | .scalar _ :: items => exact not_mem_elementRows path items h
  | .list _ :: items => exact not_mem_elementRows path items h

end

/-- A document that is flattened is an object that could be read, and its rows are those of its
members. -/
theorem flatten_eq_ok {s : String} (h : flatten d s = .ok rows) :
    ∃ members y, read? s = some (.branch members) ∧ yield d [] members = .ok y ∧ rows = y.rows := by
  rw [flatten] at h
  split at h
  next node hread =>
    cases node with
    | scalar value => cases h
    | list items => cases h
    | branch members =>
        rw [rootRows] at h
        cases hy : yield d [] members with
        | error fault =>
            rw [hy] at h
            cases h
        | ok y =>
            rw [hy] at h
            cases h
            exact ⟨members, y, hread, hy, rfl⟩
  next => cases h

/-- No row of a document is empty. -/
theorem not_mem_flatten {s : String} (h : flatten d s = .ok rows) : [] ∉ rows := by
  obtain ⟨members, y, _, hy, rfl⟩ := flatten_eq_ok h
  exact (sound_yield [] members hy).not_mem_rows

end Document

end WideRow
