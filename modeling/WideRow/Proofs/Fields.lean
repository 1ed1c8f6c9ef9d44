import WideRow.RowFields
import WideRow.Proofs.Reading
import WideRow.Proofs.Visibility

namespace WideRow

namespace Reading

theorem group_field (r : Reading) (value : Option String) : (r.field value).group = r.group := by
  cases r <;> rfl

theorem columnName_field (r : Reading) (value : Option String) :
    (r.field value).columnName = r.columnName := by
  cases r <;> rfl

end Reading

namespace RowFields

variable {schema : Schema} {key : List Field} {cells cells' : List Cell} {c : Cell} {g : String}
  {name : ColumnName}

def fieldsOf (schema : Schema) (cells : List Cell) : List Field :=
  (cells.filter (·.isPut)).filterMap (field? schema)

def groupFields (row : RowFields) (group : String) : List Field := (row.groups.get? group).getD []

theorem statics_ofCells (schema : Schema) (key : List Field) (cells : List Cell) :
    (ofCells schema key cells).statics = (fieldsOf schema cells).filter (·.group == noGroup) := rfl

theorem get?_foldl_addToGroup (fs : List Field) (m : SortedMap String (List Field)) (g : String) :
    (fs.foldl addToGroup m).get? g =
      if fs.filter (·.group == g) = [] then m.get? g
      else some ((m.get? g).getD [] ++ fs.filter (·.group == g)) := by
  induction fs generalizing m with
  | nil => simp
  | cons f fs ih =>
      rw [List.foldl_cons, ih, addToGroup, SortedMap.get?_update]
      by_cases hf : f.group = g
      · subst hf
        by_cases hnil : fs.filter (·.group == f.group) = [] <;> simp [hnil]
      · simp [hf, Ne.symm hf]

theorem get?_groups (schema : Schema) (key : List Field) (cells : List Cell) (g : String) :
    (ofCells schema key cells).groups.get? g =
      if g = noGroup ∨ (fieldsOf schema cells).filter (·.group == g) = [] then none
      else some ((fieldsOf schema cells).filter (·.group == g)) := by
  have hgroups : (ofCells schema key cells).groups =
      ((fieldsOf schema cells).filter (·.group != noGroup)).foldl addToGroup .empty := rfl
  rw [hgroups, get?_foldl_addToGroup, List.filter_filter]
  by_cases hg : g = noGroup
  · subst hg
    simp
  · have hsame : (fun f : Field => f.group == g && f.group != noGroup) = (·.group == g) := by
      funext f
      by_cases hf : f.group = g <;> simp [hf, hg]
    simp [hsame, hg]

theorem groupFields_ofCells (hg : g ≠ noGroup) :
    (ofCells schema key cells).groupFields g = (fieldsOf schema cells).filter (·.group == g) := by
  rw [groupFields, get?_groups]
  split
  next h => simp [h.resolve_left hg]
  next => rfl

theorem mem_fieldsOf {f : Field} :
    f ∈ fieldsOf schema cells ↔ ∃ c ∈ cells, c.isPut ∧
      ∃ r, schema.reading? c.address = some r ∧ r.field (text? c) = f := by
  simp [fieldsOf, field?, and_assoc]

theorem fieldsOf_congr (hx : cells.Pairwise fun a b => compare a.address b.address = .lt)
    (hy : cells'.Pairwise fun a b => compare a.address b.address = .lt)
    (h : ∀ c, (schema.reading? c.address).isSome → (c ∈ cells ↔ c ∈ cells')) :
    fieldsOf schema cells = fieldsOf schema cells' := by
  have hread (zs : List Cell) : fieldsOf schema zs =
      fieldsOf schema (zs.filter fun c => (schema.reading? c.address).isSome) := by
    simp only [fieldsOf, List.filterMap_filter, List.filter_filter]
    congr 1
    funext c
    cases hr : schema.reading? c.address <;> simp [field?, hr]
  have hcells : cells.filter (fun c => (schema.reading? c.address).isSome) =
      cells'.filter fun c => (schema.reading? c.address).isSome := by
    refine eq_of_ascending Cell.address (hx.filter _) (hy.filter _) fun c => ?_
    rw [List.mem_filter, List.mem_filter, and_congr_left_iff]
    exact h c
  rw [hread, hread cells', hcells]

/-- The fields that a named column has in a group. -/
def named (schema : Schema) (cells : List Cell) (name : ColumnName) (group : String) : List Field :=
  (fieldsOf schema cells).filter fun f => f.columnName == name && f.group == group

theorem named_static (schema : Schema) (key : List Field) (cells : List Cell) (name : ColumnName) :
    (ofCells schema key cells).statics.filter (·.columnName == name) =
      named schema cells name noGroup := by
  rw [statics_ofCells, List.filter_filter, named]

theorem named_dynamic (hg : g ≠ noGroup) :
    ((ofCells schema key cells).groupFields g).filter (·.columnName == name) =
      named schema cells name g := by
  rw [groupFields_ofCells hg, List.filter_filter, named]

theorem named_eq_fieldsOf (schema : Schema) (cells : List Cell) (name : ColumnName) (g : String) :
    named schema cells name g =
      fieldsOf schema (cells.filter fun c => schema.readsAs name g c.address) := by
  simp only [named, fieldsOf, List.filter_filterMap, List.filterMap_filter, List.filter_filter]
  congr 1
  funext c
  cases hr : schema.reading? c.address with
  | none => simp [field?, hr]
  | some r =>
      by_cases hn : r.columnName = name <;> by_cases hg : r.group = g <;>
        cases hp : c.isPut <;>
        simp [field?, Schema.readsAs, hr, hn, hg, Reading.group_field, Reading.columnName_field]

theorem named_eq_nil (h : ∀ c ∈ cells, schema.readsAs name g c.address = false) :
    named schema cells name g = [] := by
  have hnil : cells.filter (fun c => schema.readsAs name g c.address) = [] := by
    simpa using h
  rw [named_eq_fieldsOf, hnil]
  rfl

/-- Rows with the same cells in a column have the same fields in it. -/
theorem named_congr (hx : cells.Pairwise fun a b => compare a.address b.address = .lt)
    (hy : cells'.Pairwise fun a b => compare a.address b.address = .lt)
    (h : ∀ c, schema.readsAs name g c.address → (c ∈ cells ↔ c ∈ cells')) :
    named schema cells name g = named schema cells' name g := by
  have hcells : cells.filter (fun c => schema.readsAs name g c.address) =
      cells'.filter fun c => schema.readsAs name g c.address := by
    refine eq_of_ascending Cell.address (hx.filter _) (hy.filter _) fun c => ?_
    rw [List.mem_filter, List.mem_filter, and_congr_left_iff]
    exact h c
  rw [named_eq_fieldsOf, named_eq_fieldsOf, hcells]

theorem mem_keys_groups : g ∈ (ofCells schema key cells).groups.keys ↔
    g ≠ noGroup ∧ (fieldsOf schema cells).filter (·.group == g) ≠ [] := by
  rw [SortedMap.mem_keys, get?_groups]
  split
  next h => simpa using fun hg => h.resolve_left hg
  next h => simpa [not_or] using h

theorem mem_keys_groups_iff : g ∈ (ofCells schema key cells).groups.keys ↔
    g ≠ noGroup ∧ ∃ c ∈ cells, c.isPut ∧ ∃ r, schema.reading? c.address = some r ∧ r.group = g := by
  rw [mem_keys_groups, and_congr_right_iff]
  intro _
  constructor
  · intro hfields
    obtain ⟨f, hf⟩ := List.exists_mem_of_ne_nil _ hfields
    obtain ⟨hf, hgroup⟩ := List.mem_filter.1 hf
    obtain ⟨c, hc, hput, r, hr, rfl⟩ := mem_fieldsOf.1 hf
    exact ⟨c, hc, hput, r, hr, by simpa [Reading.group_field] using hgroup⟩
  · rintro ⟨c, hc, hput, r, hr, rfl⟩
    refine List.ne_nil_of_mem (List.mem_filter.2 ⟨mem_fieldsOf.2 ⟨c, hc, hput, r, hr, rfl⟩, ?_⟩)
    rw [Reading.group_field]
    exact beq_self_eq_true r.group

theorem mem_keys_groups_of_subset (h : ∀ c ∈ cells, c ∈ cells')
    (hg : g ∈ (ofCells schema key cells).groups.keys) :
    g ∈ (ofCells schema key cells').groups.keys := by
  obtain ⟨hne, c, hc, hfield⟩ := mem_keys_groups_iff.1 hg
  exact mem_keys_groups_iff.2 ⟨hne, c, h c hc, hfield⟩

theorem isEmpty_groups_iff : (ofCells schema key cells).groups.isEmpty ↔
    ∀ g, g ∉ (ofCells schema key cells).groups.keys := by
  simp only [SortedMap.isEmpty_iff, SortedMap.mem_keys, Bool.not_eq_true,
    Option.isSome_eq_false_iff, Option.isNone_iff_eq_none]

theorem named_eq_nil_of_not_mem_keys (key : List Field) (hg : g ≠ noGroup)
    (h : g ∉ (ofCells schema key cells).groups.keys) : named schema cells name g = [] := by
  have hnil : (fieldsOf schema cells).filter (·.group == g) = [] := by
    simpa [mem_keys_groups, hg] using h
  rw [List.filter_eq_nil_iff] at hnil
  rw [named, List.filter_eq_nil_iff]
  intro f hf hname
  exact hnil f hf (Bool.and_eq_true_iff.1 hname).2

end RowFields

end WideRow
