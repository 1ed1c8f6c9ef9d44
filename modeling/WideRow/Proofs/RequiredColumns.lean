import Mathlib.Data.List.Forall2
import WideRow.Proofs.ChangedColumns
import WideRow.Proofs.RowRecords

namespace WideRow

namespace Schema

variable {schema : Schema} {a : Address} {r : Reading}

/-- How a schema reads the named column of a group, if it has the column. -/
def readingOf? (schema : Schema) (name : ColumnName) (group : String) : Option Reading :=
  match schema.static? name with
  | some c => some (.static c)
  | none => (schema.dynamic? name).map (.dynamic · group)

theorem readingOf?_of_reading? (hs : schema.Sound) (h : schema.reading? a = some r) :
    schema.readingOf? r.columnName r.group = some r := by
  cases r with
  | static c =>
      have hstatic := static?_columnName hs (static_of_reading? h).1
      simp only [readingOf?, Reading.columnName, hstatic]
  | dynamic d g =>
      obtain ⟨hstatic, hdynamic⟩ := dynamic?_columnName hs (dynamic_of_reading? hs h).1
      simp only [readingOf?, Reading.columnName, hstatic, hdynamic]
      rfl

end Schema

namespace RowFields

variable {schema : Schema} {cells cells' : List Cell} {name : ColumnName} {g : String}

/-- What fields say of a column: its value where there is one field of it, and nothing where there
is none. -/
def values (fields : List Field) (name : ColumnName) : List (Option String) :=
  (fields.filter (·.columnName == name)).map (·.value)

theorem reading_of_mem_named (hs : schema.Sound) {f : Field} (h : f ∈ named schema cells name g) :
    ∃ r, schema.readingOf? name g = some r ∧ r.field f.value = f := by
  obtain ⟨hf, hnamed⟩ := List.mem_filter.1 h
  obtain ⟨c, _, _, r, hread, rfl⟩ := mem_fieldsOf.1 hf
  simp only [Bool.and_eq_true, beq_iff_eq, Reading.columnName_field, Reading.group_field] at hnamed
  obtain ⟨rfl, rfl⟩ := hnamed
  refine ⟨r, Schema.readingOf?_of_reading? hs hread, ?_⟩
  cases r <;> rfl

theorem named_eq_of_values_eq (hs : schema.Sound)
    (h : (named schema cells name g).map (·.value) = (named schema cells' name g).map (·.value)) :
    named schema cells name g = named schema cells' name g := by
  have hmade (zs : List Cell) : (named schema zs name g).map some =
      ((named schema zs name g).map (·.value)).map fun v =>
        (schema.readingOf? name g).map (·.field v) := by
    rw [List.map_map]
    refine List.map_congr_left fun f hf => ?_
    obtain ⟨r, hr, hfield⟩ := reading_of_mem_named hs hf
    simp only [Function.comp_apply, hr, Option.map_some, hfield]
  have hsome := hmade cells
  rw [h, ← hmade cells'] at hsome
  exact (List.map_inj_right fun _ _ => Option.some.inj).1 hsome

/-- The same key and the same groups, and in every required column the same values, outside of
groups and in each of them. -/
structure Agree (plan : Plan) (row row' : RowFields) : Prop where
  key : row.key = row'.key
  groups : row.groups.keys = row'.groups.keys
  statics : ∀ t ∈ plan.neededStatics,
    values row.statics t.columnName = values row'.statics t.columnName
  dynamics : ∀ g ∈ row.groups.keys, ∀ d ∈ plan.neededDynamics,
    values (row.groupFields g) d.columnName = values (row'.groupFields g) d.columnName

variable {plan : Plan} {key key' : List Field}

theorem Agree.named_static (h : Agree plan (ofCells plan.schema key cells)
    (ofCells plan.schema key' cells')) (hs : plan.schema.Sound) (hname : name ∈ plan.needed) :
    named plan.schema cells name noGroup = named plan.schema cells' name noGroup := by
  cases ht : plan.schema.static? name with
  | none => rw [RowOutput.named_dynamic_eq_nil hs ht, RowOutput.named_dynamic_eq_nil hs ht]
  | some t =>
      obtain ⟨_, rfl⟩ := Schema.mem_of_static? ht
      have hvalues := h.statics t (List.mem_filterMap.2 ⟨_, hname, ht⟩)
      rw [values, values, RowFields.named_static, RowFields.named_static] at hvalues
      exact named_eq_of_values_eq hs hvalues

theorem Agree.named_dynamic (h : Agree plan (ofCells plan.schema key cells)
    (ofCells plan.schema key' cells')) (hs : plan.schema.Sound) (hname : name ∈ plan.needed)
    (hg : g ∈ (ofCells plan.schema key cells).groups.keys) :
    named plan.schema cells name g = named plan.schema cells' name g := by
  have hne := RowOutput.ne_noGroup_of_mem_keys hg
  refine named_eq_of_values_eq hs ?_
  by_cases hd : ∃ d ∈ plan.neededDynamics, d.columnName = name
  · obtain ⟨d, hd, rfl⟩ := hd
    have hvalues := h.dynamics g hg d hd
    rwa [values, values, RowFields.named_dynamic hne, RowFields.named_dynamic hne] at hvalues
  · -- a column of a group that is required is a dynamic one
    have hnil (zs : List Cell) : named plan.schema zs name g = [] := by
      refine named_eq_nil fun c _ => Bool.eq_false_iff.2 fun hreads => hd ?_
      obtain ⟨d, hnone, hdynamic, _⟩ := Schema.dynamic_of_readsAs hs hne hreads
      exact ⟨d, List.mem_filterMap.2 ⟨name, List.mem_filter.2 ⟨hname, by simp [hnone]⟩, hdynamic⟩,
        (Schema.mem_of_dynamic? hdynamic).2⟩
    rw [hnil, hnil]

end RowFields

namespace Predicate.Tree

variable {tree : Tree} {r r' : Record} {stage : Stage} {memo : Memo}

theorem evaluateWith_congr (h : ∀ l ∈ tree.leaves, l.valueIn r = l.valueIn r') :
    tree.evaluateWith r stage memo = tree.evaluateWith r' stage memo := by
  induction tree generalizing memo with
  | leaf l =>
      have ht : l.truth r stage = l.truth r' stage := by
        rw [Leaf.truth, Leaf.truth, h l (List.mem_singleton.2 rfl)]
      rw [evaluateWith, evaluateWith, recallLeaf, recallLeaf, ht]
  | and left right ihl ihr | or left right ihl ihr =>
      have hleft (memo : Memo) : left.evaluateWith r stage memo = left.evaluateWith r' stage memo :=
        ihl fun l hl => h l (List.mem_append_left _ hl)
      have hright (memo : Memo) :
          right.evaluateWith r stage memo = right.evaluateWith r' stage memo :=
        ihr fun l hl => h l (List.mem_append_right _ hl)
      simp only [evaluateWith, hleft, hright]

end Predicate.Tree

namespace RowOutput

variable {plan : Plan} {memo : Predicate.Memo} {cs cs' : List Candidate} {key : List Field}
  {cells cells' : List Cell}

theorem truthOf_congr {r r' : Record} (h : plan.Alike r r') (stage : Stage) :
    truthOf plan memo r stage = truthOf plan memo r' stage := by
  rw [truthOf, truthOf]
  cases hp : plan.predicate with
  | none => rfl
  | some p =>
      refine Predicate.Tree.evaluateWith_congr fun l hl => h.valueIn ?_
      rw [Plan.leaves, hp]
      exact hl

/-- Candidates that differ only in columns that are not required, or that are no candidates for the
same group. -/
inductive Matching (plan : Plan) : Candidate → Candidate → Prop
  | made {r r' : Record} (h : plan.Alike r r') : Matching plan (.ok r) (.ok r')
  | unmade (g : String) : Matching plan (.error g) (.error g)

theorem drain_congr (h : List.Forall₂ (Matching plan) cs cs') :
    drain plan memo cs = drain plan memo cs' := by
  induction h generalizing memo with
  | nil => rfl
  | cons hc hcs ih =>
      cases hc with
      | unmade g => simp only [drain, ih]
      | made h => simp only [drain, truthOf_congr h, h.hasOutput, h.spread, ih]

theorem candidates_matching (hs : plan.schema.Sound)
    (h : RowFields.Agree plan (RowFields.ofCells plan.schema key cells)
      (RowFields.ofCells plan.schema key cells')) :
    List.Forall₂ (Matching plan)
      (candidates plan.schema (RowFields.ofCells plan.schema key cells))
      (candidates plan.schema (RowFields.ofCells plan.schema key cells')) := by
  have hempty : (RowFields.ofCells plan.schema key cells).groups.isEmpty =
      (RowFields.ofCells plan.schema key cells').groups.isEmpty := by
    rw [Bool.eq_iff_iff, RowFields.isEmpty_groups_iff, RowFields.isEmpty_groups_iff, h.groups]
  rw [candidates_ofCells, candidates_ofCells, ← hempty, ← h.groups]
  split
  next => exact .cons (.made (base_alike fun name hname => h.named_static hs hname)) .nil
  next =>
    rw [List.forall₂_map_left_iff, List.forall₂_map_right_iff, List.forall₂_same]
    intro g hg
    cases hk : groupKey? plan g with
    | none =>
        rw [candidateAt_of_none hk, candidateAt_of_none hk]
        exact .unmade g
    | some tail =>
        have hr := candidateAt_of_some hk key cells
        have hr' := candidateAt_of_some hk key cells'
        rw [hr, hr']
        exact .made (candidateAt_alike (ne_noGroup_of_mem_keys hg) hr hr'
          (fun name hname => h.named_static hs hname)
          fun name hname => h.named_dynamic hs hname hg)

/-- What a row puts out depends on its key, on which groups it has, and on the values of the
required columns. -/
theorem ofFields_eq_of_agree {key' : List Field} (hplan : plan.Built)
    (h : RowFields.Agree plan (RowFields.ofCells plan.schema key cells)
      (RowFields.ofCells plan.schema key' cells')) :
    ofFields plan (RowFields.ofCells plan.schema key cells) =
      ofFields plan (RowFields.ofCells plan.schema key' cells') := by
  obtain rfl : key = key' := h.key
  have hs := hplan.sound.schema
  have hbase : plan.Alike (RowFields.ofCells plan.schema key cells).base
      (RowFields.ofCells plan.schema key cells').base :=
    base_alike fun name hname => h.named_static hs hname
  have hdrain (memo : Predicate.Memo) :
      drain plan memo (candidates plan.schema (RowFields.ofCells plan.schema key cells)) =
        drain plan memo (candidates plan.schema (RowFields.ofCells plan.schema key cells')) :=
    drain_congr (candidates_matching hs h)
  simp only [ofFields, truthOf_congr hbase, hdrain]

private def codes : Plan where
  schema := ⟨⟨"|", [⟨"id", .plain, .string⟩]⟩,
    [⟨"D", Text.Utf8.encode "SR1", "SR1", .string⟩,
      ⟨"D", Text.Utf8.encode "NOTE", "NOTE", .string⟩],
    [⟨"D", "RC", "RC", "", ⟨["line"], none⟩, .string⟩,
      ⟨"D", "Q", "QTY", "", ⟨["line"], none⟩, .string⟩]⟩
  selection := [⟨"D", "RC"⟩]
  predicate := some (.ofLeaf ⟨"D", "SR1"⟩ .static .string .eq "Y" (.value (.text "Y")))
  documents := []

private theorem codes_built : codes.Built where
  rowKey := rfl
  schema := rfl
  plan := ⟨[.ofColumn ⟨"D", "RC"⟩], some (.leaf ⟨some "D", "SR1"⟩ .eq "Y"), [], rfl⟩

private def lineCells (quantity : String) (notes : List Cell) : List Cell :=
  notes ++
    [⟨"D", 10, .put (Text.Utf8.encode "SR1") (Text.Utf8.encode "Y")⟩,
      ⟨"D", 20, .put (Text.Utf8.encode "RC1") (Text.Utf8.encode "b")⟩,
      ⟨"D", 20, .put (Text.Utf8.encode "Q1") (Text.Utf8.encode quantity)⟩,
      ⟨"D", 20, .put (Text.Utf8.encode "RC2") (Text.Utf8.encode "c")⟩]

private def noted : List Cell := [⟨"D", 30, .put (Text.Utf8.encode "NOTE") (Text.Utf8.encode "n")⟩]

theorem codes_of_changed_quantity :
    (∃ out, ofFields codes (.ofCells codes.schema [.key "id" "k" .string] (lineCells "5" noted)) =
      .ready out ∧ out.records.length = 2) ∧
    RowFields.ofCells codes.schema [.key "id" "k" .string] (lineCells "5" noted) ≠
      .ofCells codes.schema [.key "id" "k" .string] (lineCells "7" []) ∧
    ofFields codes (.ofCells codes.schema [.key "id" "k" .string] (lineCells "5" noted)) =
      ofFields codes (.ofCells codes.schema [.key "id" "k" .string] (lineCells "7" [])) := by
  refine ⟨⟨_, rfl, rfl⟩, by decide, ofFields_eq_of_agree codes_built ?_⟩
  exact { key := rfl, groups := rfl, statics := by decide, dynamics := by decide }

end RowOutput

end WideRow
