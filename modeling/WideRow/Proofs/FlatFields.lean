import Mathlib.Data.List.Forall2
import WideRow.Proofs.BuiltPlan
import WideRow.Proofs.Candidates

namespace WideRow

theorem getLast?_filter_of_back {α : Type} {p : α → Bool} {front back : List α} {x : α}
    (hx : p x) (hback : ∀ y ∈ back, p y = false) :
    ((front ++ x :: back).filter p).getLast? = some x := by
  have hnil : back.filter p = [] := List.filter_eq_nil_iff.2 fun y hy => by simp [hback y hy]
  rw [List.filter_append, List.filter_cons_of_pos hx, hnil, List.getLast?_append]
  rfl

namespace Record

variable {r : Record} {name : ColumnName} {fs : List Field}

def Filed (r : Record) : Prop := ∀ name f, r.column? name = some f → f.columnName = name

theorem filed_ofKey (key : List Field) : (ofKey key).Filed := nofun

theorem Filed.addAll (h : r.Filed) (fs : List Field) : (r.addAll fs).Filed := by
  intro name f hf
  rw [column?_addAll, Option.or_eq_some_iff] at hf
  rcases hf with hf | ⟨_, hf⟩
  · simpa using (List.mem_filter.1 (List.mem_of_getLast? hf)).2
  · exact h name f hf

theorem column?_without (r : Record) (gone name : ColumnName) :
    (r.without gone).column? name = if name = gone then none else r.column? name := by
  rw [column?, without, SortedMap.erase, SortedMap.get?_filter, column?]
  by_cases h : name = gone
  · simp [h, Std.ReflOrd.compare_self]
  · have hne : compare gone name ≠ .eq := fun he => h (Std.LawfulEqOrd.eq_of_compare he).symm
    cases r.columns.get? name <;> simp [h, hne, Option.filter_some]

theorem Filed.without (h : r.Filed) (gone : ColumnName) : (r.without gone).Filed := by
  intro name f hf
  rw [column?_without] at hf
  split at hf
  next => cases hf
  next => exact h name f hf

theorem Filed.project (h : r.Filed) (keep : ColumnName → Bool) : (r.project keep).Filed := by
  intro name f hf
  rw [column?, Record.project, SortedMap.get?_filter, Option.filter_eq_some_iff] at hf
  exact h name f hf.1

theorem Filed.extendKey (h : r.Filed) (key : List Field) : (r.extendKey key).Filed := h

theorem mem_fields (h : r.Filed) {f : Field} : f ∈ r.fields ↔ r.column? f.columnName = some f := by
  rw [fields, SortedMap.mem_values]
  refine ⟨?_, fun hf => ⟨_, hf⟩⟩
  rintro ⟨name, hf⟩
  rwa [h name f hf]

theorem column?_ofFields (h : r.Filed) (name : ColumnName) :
    ((ofKey r.key).addAll r.fields).column? name = r.column? name := by
  have hnone : (ofKey r.key).column? name = none := rfl
  rw [column?_addAll, hnone, Option.or_none]
  cases hlast : (r.fields.filter (·.columnName == name)).getLast? with
  | some f =>
      obtain ⟨hmem, hname⟩ := List.mem_filter.1 (List.mem_of_getLast? hlast)
      rw [← eq_of_beq hname]
      exact ((mem_fields h).1 hmem).symm
  | none =>
      rw [List.getLast?_eq_none_iff, List.filter_eq_nil_iff] at hlast
      refine (Option.eq_none_iff_forall_ne_some.2 fun f hf => ?_).symm
      obtain rfl := h name f hf
      exact hlast f ((mem_fields h).2 hf) (beq_self_eq_true _)

theorem filed_iff : r.Filed ↔ ∃ fs, r = (ofKey r.key).addAll fs := by
  constructor
  · intro h
    have hcolumns : ((ofKey r.key).addAll r.fields).columns = r.columns :=
      SortedMap.ext_get? (column?_ofFields h)
    refine ⟨r.fields, ?_⟩
    calc r = ⟨r.key, r.columns⟩ := rfl
      _ = ⟨((ofKey r.key).addAll r.fields).key, ((ofKey r.key).addAll r.fields).columns⟩ := by
          rw [key_addAll, hcolumns]
          rfl
  · rintro ⟨fs, hr⟩
    rw [hr]
    exact (filed_ofKey _).addAll fs

end Record

namespace RowOutput

variable {d : DocumentColumn} {r v : Record} {column : Field} {row : Document.Row}
  {c : ColumnName}

def flatField (column : Field) (i : Document.Item) : Field :=
  { column with name := i.name, value := i.value, type := .string }

/-- A record in which a row of a document stands for the document. -/
structure Unfolds (d : DocumentColumn) (r : Record) (column : Field) (row : Document.Row)
    (v : Record) : Prop where
  filed : v.Filed
  key : v.key = r.key
  field : ∀ front i back, row = front ++ i :: back → (∀ j ∈ back, j.name ≠ i.name) →
    v.column? ⟨d.family, i.name⟩ = some (flatField column i)
  other : ∀ c, c ≠ d.columnName → (∀ i ∈ row, c ≠ ⟨d.family, i.name⟩) → v.column? c = r.column? c
  only : ∀ c f, v.column? c = some f →
    (∃ i ∈ row, c = ⟨d.family, i.name⟩) ∨ c ≠ d.columnName ∧ r.column? c = some f

/-- No field of the row shares its name with another one, or with a column beside the document. -/
def NamesApart (d : DocumentColumn) (r : Record) (row : Document.Row) : Prop :=
  (row.map (·.name)).Nodup ∧
    ∀ i ∈ row, i.name ≠ d.name → r.column? ⟨d.family, i.name⟩ = none

instance (d : DocumentColumn) (r : Record) (row : Document.Row) : Decidable (NamesApart d r row) :=
  inferInstanceAs (Decidable (_ ∧ _))

theorem Unfolds.field_of_apart (h : Unfolds d r column row v) (hnames : NamesApart d r row)
    {i : Document.Item} (hi : i ∈ row) :
    v.column? ⟨d.family, i.name⟩ = some (flatField column i) := by
  obtain ⟨front, back, rfl⟩ := List.append_of_mem hi
  refine h.field front i back rfl fun j hj he => ?_
  have hnodup := hnames.1
  rw [List.map_append, List.map_cons, List.nodup_append] at hnodup
  exact (List.nodup_cons.1 hnodup.2.1).1 (List.mem_map.2 ⟨j, hj, he⟩)

theorem Unfolds.other_of_apart (h : Unfolds d r column row v) (hnames : NamesApart d r row)
    {f : Field} (hc : c ≠ d.columnName) (hf : r.column? c = some f) : v.column? c = some f := by
  rw [h.other c hc, hf]
  rintro i hi rfl
  have hname : i.name ≠ d.name := fun he => hc (congrArg (ColumnName.mk d.family) he)
  rw [hnames.2 i hi hname] at hf
  cases hf

theorem columnName_flatField (hfamily : column.family = d.family) (i : Document.Item) :
    (flatField column i).columnName = ⟨d.family, i.name⟩ := by
  rw [← hfamily]
  rfl

theorem column?_withRow (column : Field) (r : Record) (row : Document.Row) (c : ColumnName) :
    (withRow column r row).column? c =
      (((row.map (flatField column)).filter (·.columnName == c)).getLast?).or (r.column? c) :=
  Record.column?_addAll r _ c

theorem column?_withRow_of_last (hfamily : column.family = d.family) (r : Record)
    {front back : Document.Row} {i : Document.Item} (hback : ∀ j ∈ back, j.name ≠ i.name) :
    (withRow column r (front ++ i :: back)).column? ⟨d.family, i.name⟩ =
      some (flatField column i) := by
  have hlast : (((front ++ i :: back).map (flatField column)).filter
      (·.columnName == ⟨d.family, i.name⟩)).getLast? = some (flatField column i) := by
    rw [List.map_append, List.map_cons]
    refine getLast?_filter_of_back (by simp [columnName_flatField hfamily]) fun f hf => ?_
    obtain ⟨j, hj, rfl⟩ := List.mem_map.1 hf
    simp [columnName_flatField hfamily, hback j hj]
  rw [column?_withRow, hlast]
  rfl

theorem column?_withRow_of_no_item (hfamily : column.family = d.family) (r : Record)
    (h : ∀ i ∈ row, c ≠ ⟨d.family, i.name⟩) : (withRow column r row).column? c = r.column? c := by
  have hnil : (row.map (flatField column)).filter (·.columnName == c) = [] := by
    rw [List.filter_eq_nil_iff]
    intro f hf
    obtain ⟨i, hi, rfl⟩ := List.mem_map.1 hf
    rw [columnName_flatField hfamily]
    simpa using Ne.symm (h i hi)
  rw [column?_withRow, hnil]
  rfl

theorem unfolds_withRow (hr : r.Filed) (hcolumn : r.column? d.columnName = some column)
    (row : Document.Row) :
    Unfolds d r column row (withRow column (r.without d.columnName) row) := by
  have hfamily : column.family = d.family :=
    congrArg ColumnName.family (hr d.columnName column hcolumn)
  refine ⟨(hr.without _).addAll _, Record.key_addAll _ _, ?_, fun c hc h => ?_, fun c f hf => ?_⟩
  · rintro front i back rfl hback
    exact column?_withRow_of_last hfamily _ hback
  · rw [column?_withRow_of_no_item hfamily _ h, Record.column?_without, if_neg hc]
  · by_cases h : ∃ i ∈ row, c = ⟨d.family, i.name⟩
    · exact .inl h
    · rw [column?_withRow_of_no_item hfamily _ fun i hi he => h ⟨i, hi, he⟩,
        Record.column?_without] at hf
      split at hf
      next => cases hf
      next hc => exact .inr ⟨hc, hf⟩

theorem Filed.of_expand {vs : List Record} (hr : r.Filed) (h : expand d r = .ok vs) :
    ∀ v ∈ vs, v.Filed := by
  have hrest : (r.without d.columnName).Filed := hr.without _
  obtain ⟨_, he⟩ | ⟨_, _, _, _, ⟨_, _, he⟩ | ⟨_, he⟩ | ⟨rows, _, _, he⟩⟩ := expand_cases d r <;>
    cases he.symm.trans h
  · simpa using hr
  · simpa using hrest
  · intro v hv
    obtain ⟨row, _, rfl⟩ := List.mem_map.1 hv
    exact hrest.addAll _

theorem filed_of_expandAll {ds : List DocumentColumn} {rs vs : List Record}
    (hrs : ∀ r ∈ rs, r.Filed) (h : expandAll ds rs = .ok vs) : ∀ v ∈ vs, v.Filed := by
  induction ds generalizing rs with
  | nil =>
      cases h
      exact hrs
  | cons d ds ih =>
      obtain ⟨expanded, hexpanded, h⟩ := bind_eq_ok h
      refine ih (fun v hv => ?_) h
      obtain ⟨vs, hvs, hv⟩ := List.mem_flatten.1 hv
      obtain ⟨r, hr, hexpand⟩ := exists_of_mapM_eq_ok hexpanded hvs
      exact Filed.of_expand (hrs r hr) hexpand v hv

theorem filed_of_spread {plan : Plan} {row : RowFields} {vs : List Record}
    (hr : .ok r ∈ candidates plan.schema row) (h : spread plan r = .ok vs) :
    r.Filed ∧ ∀ v ∈ vs, v.Filed := by
  have hbase : row.base.Filed := (Record.filed_ofKey _).addAll _
  have hfiled : r.Filed := by
    rw [candidates] at hr
    split at hr
    next =>
      obtain rfl : r = row.base := by simpa using hr
      exact hbase
    next =>
      obtain ⟨⟨g, fields⟩, _, he⟩ := List.mem_map.1 hr
      simp only [ofGroup] at he
      split at he
      next key _ =>
        cases he
        exact (hbase.extendKey key).addAll fields
      next => cases he
  exact ⟨hfiled, filed_of_expandAll (by simpa using hfiled.project plan.selects) h⟩

theorem expand_eq_map {text : String} {rows : List Document.Row}
    (hcolumn : r.column? d.columnName = some column) (htext : column.value = some text)
    (hrows : Document.flatten d text = .ok rows) (hne : rows ≠ []) :
    expand d r = .ok (rows.map (withRow column (r.without d.columnName))) := by
  have hempty : rows.isEmpty = false := by simpa using hne
  simp only [expand, hcolumn, htext, hrows, hempty]
  rfl

/-- A document makes one record for each of its rows, in order. Each holds the fields of its row and
what else the record held, and nothing more; where names meet, the last field of the row that has
the name takes the place of the others, and of a column of the record. -/
theorem expand_eq_ok {text : String} {rows : List Document.Row} (hr : r.Filed)
    (hcolumn : r.column? d.columnName = some column) (htext : column.value = some text)
    (hrows : Document.flatten d text = .ok rows) (hne : rows ≠ []) :
    ∃ variants, expand d r = .ok variants ∧
      List.Forall₂ (fun row v => Unfolds d r column row v ∧ (NamesApart d r row →
        (∀ i ∈ row, v.column? ⟨d.family, i.name⟩ = some (flatField column i)) ∧
        ∀ c f, c ≠ d.columnName → r.column? c = some f → v.column? c = some f)) rows variants := by
  refine ⟨_, expand_eq_map hcolumn htext hrows hne, ?_⟩
  rw [List.forall₂_map_right_iff, List.forall₂_same]
  intro row _
  have h := unfolds_withRow hr hcolumn row
  exact ⟨h, fun hnames => ⟨fun i hi => h.field_of_apart hnames hi,
    fun c f hc hf => h.other_of_apart hnames hc hf⟩⟩

private def sheet : DocumentColumn := ⟨"M", "DOC", .ofList ["A>B", "lines>n"]⟩

private def sheetColumn (text : String) : Field := .column "M" "DOC" text .document

private def withSheet (text : String) : Record :=
  (Record.ofKey [.key "id" "k" .string]).addAll [sheetColumn text, .column "M" "x" "old" .string]

private theorem filed_withSheet (text : String) : (withSheet text).Filed :=
  (Record.filed_ofKey _).addAll _

private def lined : String :=
  "\x7b\"lines\":[\x7b\"n\":\"1\"\x7d,\x7b\"n\":\"2\"\x7d],\"y\":null\x7d"

private def linedRows : List Document.Row :=
  [[⟨"y", none⟩, ⟨"lines_n", some "1"⟩], [⟨"y", none⟩, ⟨"lines_n", some "2"⟩]]

theorem lined_sheet_unfolded :
    (withSheet lined).Filed ∧
      (withSheet lined).column? sheet.columnName = some (sheetColumn lined) ∧
      Document.flatten sheet lined = .ok linedRows ∧
      (∀ row ∈ linedRows, NamesApart sheet (withSheet lined) row) ∧
      ∃ variants, expand sheet (withSheet lined) = .ok variants ∧
        List.Forall₂ (fun row v => Unfolds sheet (withSheet lined) (sheetColumn lined) row v ∧
          (NamesApart sheet (withSheet lined) row →
            (∀ i ∈ row, v.column? ⟨sheet.family, i.name⟩ =
              some (flatField (sheetColumn lined) i)) ∧
            ∀ c f, c ≠ sheet.columnName → (withSheet lined).column? c = some f →
              v.column? c = some f)) linedRows variants := by
  have hrows : Document.flatten sheet lined = .ok linedRows := by decide +kernel
  exact ⟨filed_withSheet lined, rfl, hrows, by decide,
    expand_eq_ok (filed_withSheet lined) rfl rfl hrows (by decide)⟩

/-- Two members of a document that flatten to one name, and a member with the name of the column
beside it. -/
private def clash : String := "\x7b\"A\":\x7b\"B\":\"n\"\x7d,\"A_B\":\"t\"\x7d"

private def beside : String := "\x7b\"x\":\"new\"\x7d"

/-- Of two fields of a row with one name the earlier is lost, and so is a column with the name of a
field. -/
theorem clashing_fields_lost :
    ((withSheet clash).Filed ∧
      Document.flatten sheet clash = .ok [[⟨"A_B", some "t"⟩, ⟨"A_B", some "n"⟩]] ∧
      ∃ v, expand sheet (withSheet clash) = .ok [v] ∧
        v.column? ⟨"M", "A_B"⟩ = some (.column "M" "A_B" "n" .string)) ∧
    ((withSheet beside).Filed ∧
      Document.flatten sheet beside = .ok [[⟨"x", some "new"⟩]] ∧
      (withSheet beside).column? ⟨"M", "x"⟩ = some (.column "M" "x" "old" .string) ∧
      ∃ v, expand sheet (withSheet beside) = .ok [v] ∧
        v.column? ⟨"M", "x"⟩ = some (.column "M" "x" "new" .string)) := by
  have hclash : Document.flatten sheet clash =
      .ok [[⟨"A_B", some "t"⟩, ⟨"A_B", some "n"⟩]] := by decide +kernel
  have hbeside : Document.flatten sheet beside = .ok [[⟨"x", some "new"⟩]] := by decide +kernel
  exact ⟨⟨filed_withSheet clash, hclash, _, expand_eq_map rfl rfl hclash (by decide), by decide⟩,
    filed_withSheet beside, hbeside, by decide, _, expand_eq_map rfl rfl hbeside (by decide),
    by decide⟩

end RowOutput

end WideRow
