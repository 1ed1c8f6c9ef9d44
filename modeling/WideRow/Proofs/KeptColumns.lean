import WideRow.Proofs.FlatFields
import WideRow.Proofs.FlatRows

namespace WideRow

theorem Outcome.map_eq_ready {α β : Type} {f : α → β} {o : Outcome α} {b : β} :
    o.map f = .ready b ↔ ∃ a, o = .ready a ∧ f a = b := by
  cases o <;> simp [Outcome.map]

namespace Record

variable {r : Record}

theorem isEmpty_columns_iff : r.columns.isEmpty ↔ ∀ c, r.column? c = none :=
  SortedMap.isEmpty_iff

theorem isEmpty_columns_eq_false {c : ColumnName} {f : Field} (h : r.column? c = some f) :
    r.columns.isEmpty = false := by
  refine Bool.eq_false_iff.2 fun he => ?_
  rw [isEmpty_columns_iff.1 he c] at h
  cases h

theorem isEmpty_columns_addAll {fs : List Field} (h : fs ≠ []) :
    (r.addAll fs).columns.isEmpty = false := by
  have hne : fs.filter (·.columnName == (fs.getLast h).columnName) ≠ [] :=
    List.ne_nil_of_mem (List.mem_filter.2 ⟨List.getLast_mem h, by simp⟩)
  have hlast : (r.addAll fs).column? (fs.getLast h).columnName = some (List.getLast _ hne) := by
    rw [column?_addAll, List.getLast?_eq_some_getLast hne, Option.some_or]
  exact isEmpty_columns_eq_false hlast

end Record

namespace RowOutput

variable {d : DocumentColumn} {ds : List DocumentColumn} {r v w : Record}
  {vs : List Record}

/-- The document is all there is in the record, and it has no rows. -/
structure Vanishes (d : DocumentColumn) (r : Record) : Prop where
  alone : ∀ c f, r.column? c = some f → c = d.columnName
  rows : ∃ f text, r.column? d.columnName = some f ∧ f.value = some text ∧
    Document.flatten d text = .ok []

inductive Leads : List DocumentColumn → Record → Record → Prop where
  | refl (r : Record) : Leads [] r r
  | step {d : DocumentColumn} {ds : List DocumentColumn} {r v w : Record} {vs : List Record} :
      expand d r = .ok vs → v ∈ vs → Leads ds v w → Leads (d :: ds) r w

theorem exists_leads_of_expandAll {rs : List Record} (h : expandAll ds rs = .ok vs) (hw : w ∈ vs) :
    ∃ r ∈ rs, Leads ds r w := by
  induction ds generalizing rs with
  | nil =>
      cases h
      exact ⟨w, hw, .refl w⟩
  | cons d ds ih =>
      obtain ⟨expanded, hexpanded, h⟩ := bind_eq_ok h
      obtain ⟨v, hv, hleads⟩ := ih h
      obtain ⟨vs, hvs, hv⟩ := List.mem_flatten.1 hv
      obtain ⟨r, hr, hexpand⟩ := exists_of_mapM_eq_ok hexpanded hvs
      exact ⟨r, hr, .step hexpand hv hleads⟩

theorem Vanishes.expand_eq (h : Vanishes d r) : expand d r = .ok [r.without d.columnName] := by
  obtain ⟨f, text, hf, htext, hrows⟩ := h.rows
  simp [expand, hf, htext, hrows]

theorem Vanishes.isEmpty_without (h : Vanishes d r) :
    (r.without d.columnName).columns.isEmpty := by
  rw [Record.isEmpty_columns_iff]
  intro c
  rw [Record.column?_without]
  split
  next => rfl
  next hc => exact Option.eq_none_iff_forall_ne_some.2 fun f hf => hc (h.alone c f hf)

theorem isEmpty_expand_iff (hr : r.columns.isEmpty = false) (h : expand d r = .ok vs)
    (hv : v ∈ vs) : v.columns.isEmpty ↔ Vanishes d r := by
  obtain ⟨hnone, he⟩ | ⟨f, text, hf, htext, ⟨_, _, he⟩ | ⟨hnil, he⟩ | ⟨rows, hne, hrows, he⟩⟩ :=
    expand_cases d r <;> cases he.symm.trans h
  · obtain rfl := List.mem_singleton.1 hv
    refine ⟨fun hempty => by simp [hr] at hempty, fun hd => ?_⟩
    obtain ⟨f, text, hf, htext, _⟩ := hd.rows
    simp [hnone f hf] at htext
  · obtain rfl := List.mem_singleton.1 hv
    refine ⟨fun hempty => ?_, Vanishes.isEmpty_without⟩
    refine ⟨fun c g hg => by_contra fun hc => ?_, f, text, hf, htext, hnil⟩
    have hgone := Record.isEmpty_columns_iff.1 hempty c
    rw [Record.column?_without, if_neg hc, hg] at hgone
    cases hgone
  · obtain ⟨row, hrow, rfl⟩ := List.mem_map.1 hv
    have hfilled : row ≠ [] := fun he => Document.not_mem_flatten hrows (he ▸ hrow)
    have hkept : (withRow f (r.without d.columnName) row).columns.isEmpty = false :=
      Record.isEmpty_columns_addAll (by simpa using hfilled)
    refine ⟨fun hempty => by simp [hkept] at hempty, fun hd => ?_⟩
    obtain ⟨f', text', hf', htext', hnil⟩ := hd.rows
    cases hf'.symm.trans hf
    cases htext'.symm.trans htext
    cases hnil.symm.trans hrows
    exact absurd rfl hne

theorem eq_of_leads_of_isEmpty (hr : r.columns.isEmpty) (h : Leads ds r w) : w = r := by
  induction h with
  | refl => rfl
  | @step d _ r v _ vs hexpand hv _ ih =>
      have hnone : r.column? d.columnName = none := Record.isEmpty_columns_iff.1 hr _
      have hself : expand d r = .ok [r] := by simp only [expand, hnone]
      cases hself.symm.trans hexpand
      obtain rfl := List.mem_singleton.1 hv
      exact ih hr

/-- On the way of a record through the documents, the last of its columns goes with one of them. -/
def LosesAll (ds : List DocumentColumn) (r w : Record) : Prop :=
  ∃ before d after v, ds = before ++ d :: after ∧ Leads before r v ∧ Vanishes d v ∧
    Leads after (v.without d.columnName) w

theorem LosesAll.isEmpty (h : LosesAll ds r w) : w.columns.isEmpty := by
  obtain ⟨before, d, after, v, _, _, hvanishes, hafter⟩ := h
  rw [eq_of_leads_of_isEmpty hvanishes.isEmpty_without hafter]
  exact hvanishes.isEmpty_without

theorem losesAll_of_isEmpty (hr : r.columns.isEmpty = false) (h : Leads ds r w)
    (hw : w.columns.isEmpty) : LosesAll ds r w := by
  induction h with
  | refl => simp [hr] at hw
  | @step d ds r v w vs hexpand hv hleads ih =>
      by_cases hvanishes : Vanishes d r
      · cases hvanishes.expand_eq.symm.trans hexpand
        obtain rfl := List.mem_singleton.1 hv
        exact ⟨[], d, ds, r, rfl, .refl r, hvanishes, hleads⟩
      · have hkept : v.columns.isEmpty = false := by
          rw [← Bool.not_eq_true, isEmpty_expand_iff hr hexpand hv]
          exact hvanishes
        obtain ⟨before, d', after, v', rfl, hbefore, hgone, hafter⟩ := ih hkept hw
        exact ⟨d :: before, d', after, v', rfl, .step hexpand hv hbefore, hgone, hafter⟩

variable {plan : Plan}

theorem isEmpty_project_eq_false (h : plan.hasOutput r) :
    (r.project plan.selects).columns.isEmpty = false := by
  obtain ⟨c, hc, hshows⟩ := List.any_eq_true.1 h
  obtain ⟨f, hf, _⟩ := (Option.any_eq_true _ _).1 hshows
  have hselected : plan.selects c := by simpa [Plan.selects] using hc
  have hcolumn : (r.project plan.selects).column? c = some f := by
    rw [Record.column?, Record.project, SortedMap.get?_filter, ← Record.column?, hf]
    simp [hselected]
  exact Record.isEmpty_columns_eq_false hcolumn

theorem exists_spread_of_drain {memo : Predicate.Memo} {cs : List Candidate}
    (h : w ∈ (drain plan memo cs).records) :
    ∃ r vs, .ok r ∈ cs ∧ plan.hasOutput r ∧ spread plan r = .ok vs ∧ w ∈ vs := by
  induction cs generalizing memo with
  | nil => cases h
  | cons c cs ih =>
      have hrest {memo : Predicate.Memo} (h : w ∈ (drain plan memo cs).records) :
          ∃ r vs, .ok r ∈ c :: cs ∧ plan.hasOutput r ∧ spread plan r = .ok vs ∧ w ∈ vs := by
        obtain ⟨r, vs, hr, hmade⟩ := ih h
        exact ⟨r, vs, List.mem_cons_of_mem c hr, hmade⟩
      cases c with
      | error g => exact hrest h
      | ok r =>
          rw [drain] at h
          dsimp only at h
          split at h
          next haccepted =>
            split at h
            next => cases h
            next vs hspread =>
              rcases List.mem_append.1 h with h | h
              · exact ⟨r, vs, List.mem_cons_self, (Bool.and_eq_true_iff.1 haccepted).2, hspread, h⟩
              · exact hrest h
          next => exact hrest h

/-- A record that is put out has a column, except where a document of the plan was the only column
left of it and had no rows. -/
theorem isEmpty_output_iff (plan : Plan) (key : List Field) (cells : List Cell) {out : RowOutput}
    (h : ofFields plan (RowFields.ofCells plan.schema key cells) = .ready out)
    (hw : w ∈ out.records) :
    ∃ r, .ok r ∈ candidates plan.schema (RowFields.ofCells plan.schema key cells) ∧
      plan.hasOutput r ∧ Leads plan.documents (r.project plan.selects) w ∧
      (w.columns.isEmpty ↔ LosesAll plan.documents (r.project plan.selects) w) := by
  rw [ofFields] at h
  split at h
  next => cases h
  next memo _ =>
    cases h
    obtain ⟨r, vs, hr, houtput, hspread, hmem⟩ := exists_spread_of_drain hw
    obtain ⟨r', hr', hleads⟩ := exists_leads_of_expandAll hspread hmem
    obtain rfl := List.mem_singleton.1 hr'
    exact ⟨r, hr, houtput, hleads,
      losesAll_of_isEmpty (isEmpty_project_eq_false houtput) hleads, LosesAll.isEmpty⟩

private def sheets : Plan where
  schema := ⟨⟨"|", [⟨"id", .plain, .string⟩]⟩,
    [⟨"D", Text.Utf8.encode "SR1", "SR1", .string⟩,
      ⟨"M", Text.Utf8.encode "DOC", "DOC", .document⟩], []⟩
  selection := [⟨"D", "SR1"⟩, ⟨"M", "DOC"⟩]
  predicate := none
  documents := [⟨"M", "DOC", .ofList ["A>B"]⟩]

private theorem sheets_built : sheets.Built where
  rowKey := rfl
  schema := rfl
  plan := ⟨[.ofColumn ⟨"D", "SR1"⟩, .ofColumn ⟨"M", "DOC"⟩], none, sheets.documents, rfl⟩

private def sheetCell : Cell :=
  ⟨"M", 10, .put (Text.Utf8.encode "DOC") (Text.Utf8.encode "\x7b\"A\":\x7b\"C\":\"1\"\x7d\x7d")⟩

private def statusCell : Cell :=
  ⟨"D", 10, .put (Text.Utf8.encode "SR1") (Text.Utf8.encode "Y")⟩

private def sheetRow (cells : List Cell) : RowFields :=
  RowFields.ofCells sheets.schema [.key "id" "k" .string] cells

theorem status_left_of_sheet :
    sheets.Built ∧ ∃ out w, ofFields sheets (sheetRow [statusCell, sheetCell]) = .ready out ∧
      w ∈ out.records ∧ w.columns.isEmpty = false ∧
      ∃ r, .ok r ∈ candidates sheets.schema (sheetRow [statusCell, sheetCell]) ∧
        sheets.hasOutput r ∧ Leads sheets.documents (r.project sheets.selects) w ∧
        (w.columns.isEmpty ↔ LosesAll sheets.documents (r.project sheets.selects) w) := by
  have hmade : (ofFields sheets (sheetRow [statusCell, sheetCell])).map (·.records) =
      .ready [(sheetRow [statusCell]).base] := by decide +kernel
  obtain ⟨out, hout, hrecords⟩ := Outcome.map_eq_ready.1 hmade
  have hw : (sheetRow [statusCell]).base ∈ out.records := by simp [hrecords]
  exact ⟨sheets_built, out, _, hout, hw, by decide,
    isEmpty_output_iff sheets [.key "id" "k" .string] [statusCell, sheetCell] hout hw⟩

/-- A record whose only column is a sheet without rows is put out without columns. -/
theorem sheet_without_rows_leaves_nothing :
    sheets.Built ∧ ∃ out w, ofFields sheets (sheetRow [sheetCell]) = .ready out ∧
      w ∈ out.records ∧ w.columns.isEmpty := by
  have hmade : (ofFields sheets (sheetRow [sheetCell])).map (·.records) =
      .ready [(sheetRow []).base] := by decide +kernel
  obtain ⟨out, hout, hrecords⟩ := Outcome.map_eq_ready.1 hmade
  exact ⟨sheets_built, out, (sheetRow []).base, hout, by simp [hrecords], by decide⟩

end RowOutput

end WideRow
