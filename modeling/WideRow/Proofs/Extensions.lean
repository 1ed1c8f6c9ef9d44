import WideRow.Proofs.BuiltPlan
import WideRow.Proofs.Candidates

namespace WideRow

/-- A stage leaves a field open that the schema takes from a later part of the row. -/
def Schema.IsLater (schema : Schema) (stage : Stage) (field : FieldName) : Prop :=
  ∀ origin type, schema.resolve? field = some (origin, type) → stage.resolves origin = false

namespace Record

variable {schema : Schema} {stage : Stage} {r r' : Record} {tail columns : List Field} {n : String}

theorem keyField?_extendKey (r : Record) (h : ∀ f ∈ tail, f.name ≠ n) :
    (r.extendKey tail).keyField? n = r.keyField? n := by
  have hnone : tail.find? (·.name == n) = none := by simpa using h
  rw [keyField?, extendKey, List.find?_append, hnone, Option.or_none, keyField?]

/-- A record with more key fields and columns, all of which the stage leaves open. -/
def Extends (schema : Schema) (stage : Stage) (r r' : Record) : Prop :=
  ∃ tail columns, r' = (r.extendKey tail).addAll columns ∧
    (∀ f ∈ tail, schema.IsLater stage ⟨none, f.name⟩) ∧
    ∀ f ∈ columns, schema.IsLater stage (.ofColumn f.columnName)

theorem Extends.addAll (hcolumns : ∀ f ∈ columns, schema.IsLater stage (.ofColumn f.columnName)) :
    Extends schema stage r (r.addAll columns) :=
  ⟨[], columns, by rw [extendKey, List.append_nil], nofun, hcolumns⟩

theorem Extends.valueIn (h : Extends schema stage r r') {l : Leaf} (hl : l.Resolved schema)
    (hs : stage.resolves l.origin) : l.valueIn r = l.valueIn r' := by
  obtain ⟨tail, columns, rfl, htail, hcolumns⟩ := h
  have ne_of_later {field : FieldName} (hlater : schema.IsLater stage field) : field ≠ l.field := by
    rintro rfl
    rw [hlater _ _ hl] at hs
    cases hs
  rw [Leaf.valueIn, Leaf.valueIn]
  cases hf : l.field.family with
  | none =>
      have hfield : l.field = ⟨none, l.field.name⟩ := by rw [← hf]
      have hapart : ∀ f ∈ tail, f.name ≠ l.field.name := fun f hm hn =>
        ne_of_later (htail f hm) (by rw [hn, ← hfield])
      have hfound := keyField?_extendKey r hapart
      rw [keyField?, keyField?] at hfound
      rw [lookup?, lookup?, keyField?, keyField?, key_addAll, hfound]
  | some family =>
      have hfield : l.field = .ofColumn ⟨family, l.field.name⟩ := by rw [FieldName.ofColumn, ← hf]
      have hapart : columns.filter (·.columnName == ⟨family, l.field.name⟩) = [] := by
        refine List.filter_eq_nil_iff.2 fun f hm hn => ne_of_later (hcolumns f hm) ?_
        rw [eq_of_beq hn, ← hfield]
      rw [lookup?, lookup?, column?_addAll, hapart]
      rfl

end Record

end WideRow
