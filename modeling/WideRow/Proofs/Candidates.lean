import WideRow.RowOutput
import WideRow.Proofs.Conditions

namespace WideRow

namespace Record

variable {r : Record} {name : ColumnName}

theorem addAll_eq (r : Record) (fs : List Field) :
    r.addAll fs = ⟨r.key, (fs.map fun f => (f.columnName, f)).foldl
      (fun m e => m.insert e.1 e.2) r.columns⟩ := by
  induction fs generalizing r with
  | nil => rfl
  | cons f fs ih => exact ih (r.add f)

theorem key_addAll (r : Record) (fs : List Field) : (r.addAll fs).key = r.key := by
  rw [addAll_eq]

theorem column?_addAll (r : Record) (fs : List Field) (name : ColumnName) :
    (r.addAll fs).column? name =
      ((fs.filter (·.columnName == name)).getLast?).or (r.column? name) := by
  have hfs : ((fs.map fun f => (f.columnName, f)).filter (·.1 = name)).getLast?.map (·.2) =
      (fs.filter (·.columnName == name)).getLast? := by
    rw [List.filter_map, List.getLast?_map, Option.map_map]
    have hp : ((fun e : ColumnName × Field => decide (e.1 = name)) ∘ fun f => (f.columnName, f)) =
        fun f : Field => f.columnName == name := by
      funext f
      rfl
    rw [hp]
    exact Option.map_id'
  rw [addAll_eq, column?, SortedMap.get?_foldl_insert, hfs, column?]

end Record

namespace Plan

variable {plan : Plan} {r r' : Record} {stage : Stage}

def truth (plan : Plan) (r : Record) (stage : Stage) : Truth :=
  plan.predicate.elim .yes (·.truth r stage)

theorem truth_congr (h : ∀ l ∈ plan.leaves, stage.resolves l.origin → l.valueIn r = l.valueIn r') :
    plan.truth r stage = plan.truth r' stage := by
  rw [leaves] at h
  rw [truth, truth]
  cases hp : plan.predicate with
  | none => rfl
  | some p => exact Predicate.truth_congr (by simpa [hp] using h)

theorem truth_full_of_known (h : plan.truth r stage ≠ .unknown) :
    plan.truth r .full = plan.truth r stage := by
  rw [truth] at h
  rw [truth, truth]
  cases hp : plan.predicate with
  | none => rfl
  | some p => exact Predicate.truth_full_of_known (by simpa [hp] using h)

theorem mem_needed_of_selection {name : ColumnName} (h : name ∈ plan.selection) :
    name ∈ plan.needed := by
  rw [needed, SortedSet.mem_members_ofList]
  exact List.mem_append_left _ h

theorem mem_needed_of_leaf {l : Leaf} (hl : l ∈ plan.leaves) {name : ColumnName}
    (h : l.field.column? = some name) : name ∈ plan.needed := by
  rw [needed, SortedSet.mem_members_ofList]
  exact List.mem_append_right _ (List.mem_filterMap.2 ⟨l, hl, h⟩)

/-- The same key, and the same fields in the columns that the plan requires. -/
structure Alike (plan : Plan) (r r' : Record) : Prop where
  key : r.key = r'.key
  column : ∀ name ∈ plan.needed, r.column? name = r'.column? name

theorem Alike.valueIn (h : plan.Alike r r') {l : Leaf} (hl : l ∈ plan.leaves) :
    l.valueIn r = l.valueIn r' := by
  rw [Leaf.valueIn, Leaf.valueIn]
  cases hf : l.field.family with
  | none => rw [Record.lookup?, Record.lookup?, Record.keyField?, Record.keyField?, h.key]
  | some family =>
      have hname : (⟨family, l.field.name⟩ : ColumnName) ∈ plan.needed :=
        mem_needed_of_leaf hl (by rw [FieldName.column?, hf]; rfl)
      rw [Record.lookup?, Record.lookup?, h.column _ hname]

theorem Alike.hasOutput (h : plan.Alike r r') : plan.hasOutput r = plan.hasOutput r' := by
  have hshows : ∀ name ∈ plan.selection, r.shows name = r'.shows name := by
    intro name hname
    rw [Record.shows, Record.shows, h.column name (mem_needed_of_selection hname)]
  rw [Plan.hasOutput, Plan.hasOutput, Bool.eq_iff_iff, List.any_eq_true, List.any_eq_true]
  constructor
  · rintro ⟨name, hname, hs⟩
    exact ⟨name, hname, hshows name hname ▸ hs⟩
  · rintro ⟨name, hname, hs⟩
    exact ⟨name, hname, (hshows name hname).symm ▸ hs⟩

theorem Alike.project (h : plan.Alike r r') : r.project plan.selects = r'.project plan.selects := by
  have hcolumns : r.columns.filter (fun name _ => plan.selects name) =
      r'.columns.filter fun name _ => plan.selects name := by
    refine SortedMap.ext_get? fun name => ?_
    rw [SortedMap.get?_filter, SortedMap.get?_filter]
    by_cases hs : plan.selects name
    · have hname : name ∈ plan.needed :=
        mem_needed_of_selection (by simpa [selects] using hs)
      have hc : r.columns.get? name = r'.columns.get? name := h.column name hname
      rw [hc]
    · simp [hs]
  rw [Record.project, Record.project, h.key, hcolumns]

theorem Alike.spread (h : plan.Alike r r') :
    RowOutput.spread plan r = RowOutput.spread plan r' := by
  rw [RowOutput.spread, RowOutput.spread, h.project]

end Plan

namespace RowOutput

variable {plan : Plan}

def offer (plan : Plan) : Candidate → Except Error (List Record)
  | .error _ => .ok []
  | .ok r => if plan.truth r .full = .yes && plan.hasOutput r then spread plan r else .ok []

def Accepted (plan : Plan) (c : Candidate) : Prop :=
  ∃ r, c = .ok r ∧ plan.truth r .full = .yes ∧ plan.hasOutput r

theorem offer_of_not_accepted {c : Candidate} (h : ¬ Accepted plan c) : offer plan c = .ok [] := by
  cases c with
  | error g => rfl
  | ok r =>
      rw [offer, if_neg]
      intro hr
      simp only [Bool.and_eq_true, decide_eq_true_eq] at hr
      exact h ⟨r, rfl, hr⟩

/-- A document is left alone where the record has no value of it. Else it stops the record, or goes
from it, or makes a record for each of its rows. -/
theorem expand_cases (d : DocumentColumn) (r : Record) :
    (∀ column, r.column? d.columnName = some column → column.value = none) ∧
      expand d r = .ok [r] ∨
    ∃ column text, r.column? d.columnName = some column ∧ column.value = some text ∧
      ((∃ fault, Document.flatten d text = .error fault ∧ expand d r = .error (fault.error d)) ∨
        Document.flatten d text = .ok [] ∧ expand d r = .ok [r.without d.columnName] ∨
        ∃ rows, rows ≠ [] ∧ Document.flatten d text = .ok rows ∧
          expand d r = .ok (rows.map (withRow column (r.without d.columnName)))) := by
  cases hcolumn : r.column? d.columnName with
  | none => exact .inl ⟨nofun, by simp only [expand, hcolumn]⟩
  | some column =>
      cases htext : column.value with
      | none =>
          refine .inl ⟨?_, by simp only [expand, hcolumn, htext]⟩
          rintro _ ⟨⟩
          exact htext
      | some text =>
          refine .inr ⟨column, text, rfl, htext, ?_⟩
          cases hrows : Document.flatten d text with
          | error fault => exact .inl ⟨fault, rfl, by simp only [expand, hcolumn, htext, hrows]⟩
          | ok rows =>
              cases rows with
              | nil => exact .inr (.inl ⟨rfl, by simp [expand, hcolumn, htext, hrows]⟩)
              | cons row rows =>
                  exact .inr (.inr ⟨_, List.cons_ne_nil _ _, rfl, by
                    simp [expand, hcolumn, htext, hrows]⟩)

/-- The records of all candidates in order up to the first error. -/
def offerAll (plan : Plan) : List Candidate → List Record × Option Error
  | [] => ([], none)
  | c :: cs =>
    match offer plan c with
    | .error e => ([], some e)
    | .ok records => (records ++ (offerAll plan cs).1, (offerAll plan cs).2)

theorem offer_of_alike {r r' : Record} (h : plan.Alike r r') :
    offer plan (.ok r) = offer plan (.ok r') := by
  have ht : plan.truth r .full = plan.truth r' .full :=
    Plan.truth_congr fun l hl _ => h.valueIn hl
  rw [offer, offer, ht, h.hasOutput, h.spread]

theorem truthOf_eq_truth {memo : Predicate.Memo} {r : Record}
    (h : Predicate.Remembers plan.leaves r memo) (stage : Stage) :
    (truthOf plan memo r stage).1 = plan.truth r stage ∧
      Predicate.Remembers plan.leaves r (truthOf plan memo r stage).2 := by
  rw [Plan.leaves] at h ⊢
  rw [truthOf, Plan.truth]
  cases hp : plan.predicate with
  | none => exact ⟨rfl, by simpa [hp] using h⟩
  | some p =>
      rw [hp] at h
      exact Predicate.evaluateWith_eq_truth h stage

theorem offerAll_cons_of_ok {c : Candidate} {records : List Record}
    (h : offer plan c = .ok records) (cs : List Candidate) :
    offerAll plan (c :: cs) = (records ++ (offerAll plan cs).1, (offerAll plan cs).2) := by
  rw [offerAll, h]

/-- Draining candidates gives what they give one by one, as long as they share what is not
dynamic. -/
theorem drain_eq_offerAll {base : Record} {memo : Predicate.Memo} {cs : List Candidate}
    (h : Predicate.Remembers plan.leaves base memo)
    (hcs : ∀ r, .ok r ∈ cs → ∀ l ∈ plan.leaves, l.origin ≠ .dynamic →
      l.valueIn base = l.valueIn r) :
    ((drain plan memo cs).records, (drain plan memo cs).error) = offerAll plan cs := by
  induction cs generalizing memo with
  | nil => rfl
  | cons c cs ih =>
      have hrest : ∀ r, .ok r ∈ cs → ∀ l ∈ plan.leaves, l.origin ≠ .dynamic →
          l.valueIn base = l.valueIn r := fun r hr => hcs r (List.mem_cons_of_mem c hr)
      cases c with
      | error g =>
          rw [offerAll_cons_of_ok rfl, ← ih h hrest]
          rfl
      | ok r =>
          have hr := hcs r List.mem_cons_self
          obtain ⟨ht, hmemo⟩ := truthOf_eq_truth (h.congr hr) .full
          have hd := ih (hmemo.congr fun l hl ho => (hr l hl ho).symm) hrest
          rw [drain, offerAll, offer, ← hd]
          simp only [ht]
          split
          next =>
            cases spread plan r with
            | error e => rfl
            | ok records => rfl
          next => rfl

theorem offerAll_eq_nil {cs : List Candidate} (h : ∀ c ∈ cs, offer plan c = .ok []) :
    offerAll plan cs = ([], none) := by
  induction cs with
  | nil => rfl
  | cons c cs ih =>
      rw [offerAll_cons_of_ok (h c List.mem_cons_self),
        ih fun c' hc => h c' (List.mem_cons_of_mem c hc)]
      rfl

theorem offerAll_filter {α : Type} (f : α → Candidate) (p : α → Bool) {xs : List α}
    (h : ∀ x ∈ xs, p x = false → offer plan (f x) = .ok []) :
    offerAll plan ((xs.filter p).map f) = offerAll plan (xs.map f) := by
  induction xs with
  | nil => rfl
  | cons x xs ih =>
      have hxs := ih fun y hy => h y (List.mem_cons_of_mem x hy)
      cases hx : p x with
      | true =>
          rw [List.filter_cons_of_pos hx, List.map_cons, List.map_cons, offerAll, offerAll, hxs]
      | false =>
          rw [List.filter_cons_of_neg (by simp [hx]), List.map_cons,
            offerAll_cons_of_ok (h x List.mem_cons_self hx), hxs]
          rfl

theorem offerAll_congr {α : Type} {f f' : α → Candidate} {xs : List α}
    (h : ∀ x ∈ xs, offer plan (f x) = offer plan (f' x)) :
    offerAll plan (xs.map f) = offerAll plan (xs.map f') := by
  induction xs with
  | nil => rfl
  | cons x xs ih =>
      rw [List.map_cons, List.map_cons, offerAll, offerAll, h x List.mem_cons_self,
        ih fun y hy => h y (List.mem_cons_of_mem x hy)]

theorem exists_offer_of_mem {cs : List Candidate} {r : Record} (h : r ∈ (offerAll plan cs).1) :
    ∃ c ∈ cs, ∃ records, offer plan c = .ok records ∧ r ∈ records := by
  induction cs with
  | nil => cases h
  | cons c cs ih =>
      rw [offerAll] at h
      split at h
      next => cases h
      next records hc =>
        rcases List.mem_append.1 h with h | h
        · exact ⟨c, List.mem_cons_self, records, hc, h⟩
        · obtain ⟨c', hc', hr⟩ := ih h
          exact ⟨c', List.mem_cons_of_mem c hc', hr⟩

theorem mem_of_mem_offer {cs : List Candidate} (hno : (offerAll plan cs).2 = none) {c : Candidate}
    (hc : c ∈ cs) {records : List Record} (ho : offer plan c = .ok records) {r : Record}
    (hr : r ∈ records) : r ∈ (offerAll plan cs).1 := by
  induction cs with
  | nil => cases hc
  | cons c' cs ih =>
      cases ho' : offer plan c' with
      | error e => simp [offerAll, ho'] at hno
      | ok records' =>
          rw [offerAll_cons_of_ok ho'] at hno ⊢
          rcases List.mem_cons.1 hc with rfl | hc
          · rw [ho] at ho'
            cases ho'
            exact List.mem_append_left _ hr
          · exact List.mem_append_right _ (ih hno hc)

end RowOutput

end WideRow
