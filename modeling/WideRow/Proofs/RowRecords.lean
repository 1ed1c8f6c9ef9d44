import WideRow.Proofs.Extensions
import WideRow.Proofs.Fields

namespace WideRow

namespace RowOutput

variable {plan : Plan} {key : List Field} {cells cells' : List Cell} {g : String}
  {name : ColumnName}

def candidateAt (plan : Plan) (key : List Field) (cells : List Cell) (g : String) : Candidate :=
  let row := RowFields.ofCells plan.schema key cells
  ofGroup plan.schema.layout? row.base g (row.groupFields g)

theorem candidates_ofCells (plan : Plan) (key : List Field) (cells : List Cell) :
    candidates plan.schema (RowFields.ofCells plan.schema key cells) =
      if (RowFields.ofCells plan.schema key cells).groups.isEmpty then
        [.ok (RowFields.ofCells plan.schema key cells).base]
      else (RowFields.ofCells plan.schema key cells).groups.keys.map
        (candidateAt plan key cells) := by
  rw [candidates, SortedMap.keys, List.map_map]
  congr 1
  refine List.map_congr_left fun e he => ?_
  simp only [Function.comp_apply, candidateAt, RowFields.groupFields]
  rw [SortedMap.get?_of_mem he]
  rfl

theorem column?_base (plan : Plan) (key : List Field) (cells : List Cell) (name : ColumnName) :
    (RowFields.ofCells plan.schema key cells).base.column? name =
      (RowFields.named plan.schema cells name noGroup).getLast? := by
  rw [RowFields.base, Record.column?_addAll, RowFields.named_static]
  exact Option.or_none

def groupKey? (plan : Plan) (group : String) : Option (List Field) :=
  plan.schema.layout?.bind fun layout => (layout.split? group).map (layout.keyFields group)

theorem candidateAt_of_none (h : groupKey? plan g = none) (key : List Field) (cells : List Cell) :
    candidateAt plan key cells g = .error g := by
  rw [groupKey?] at h
  simp only [candidateAt, ofGroup, h]

theorem candidateAt_of_some {tail : List Field} (h : groupKey? plan g = some tail)
    (key : List Field) (cells : List Cell) :
    candidateAt plan key cells g = .ok
      (((RowFields.ofCells plan.schema key cells).base.extendKey tail).addAll
        ((RowFields.ofCells plan.schema key cells).groupFields g)) := by
  rw [groupKey?] at h
  simp only [candidateAt, ofGroup, h]

theorem column?_candidateAt (hg : g ≠ noGroup) {r : Record}
    (h : candidateAt plan key cells g = .ok r) (name : ColumnName) :
    r.column? name = ((RowFields.named plan.schema cells name g).getLast?).or
      (RowFields.named plan.schema cells name noGroup).getLast? := by
  cases hk : groupKey? plan g with
  | none =>
      rw [candidateAt_of_none hk] at h
      cases h
  | some tail =>
      rw [candidateAt_of_some hk] at h
      cases h
      rw [Record.column?_addAll, RowFields.named_dynamic hg, ← column?_base plan key]
      rfl

theorem candidateAt_alike (hg : g ≠ noGroup) {r r' : Record}
    (hr : candidateAt plan key cells g = .ok r) (hr' : candidateAt plan key cells' g = .ok r')
    (hstatic : ∀ name ∈ plan.needed,
      RowFields.named plan.schema cells name noGroup =
        RowFields.named plan.schema cells' name noGroup)
    (hdynamic : ∀ name ∈ plan.needed,
      RowFields.named plan.schema cells name g = RowFields.named plan.schema cells' name g) :
    plan.Alike r r' where
  key := by
    cases hk : groupKey? plan g with
    | none =>
        rw [candidateAt_of_none hk] at hr
        cases hr
    | some tail =>
        rw [candidateAt_of_some hk] at hr hr'
        cases hr
        cases hr'
        simp only [Record.key_addAll, Record.extendKey, RowFields.base]
        rfl
  column name hname := by
    rw [column?_candidateAt hg hr, column?_candidateAt hg hr', hstatic name hname,
      hdynamic name hname]

theorem offer_candidateAt_congr (hg : g ≠ noGroup)
    (hstatic : ∀ name ∈ plan.needed,
      RowFields.named plan.schema cells name noGroup =
        RowFields.named plan.schema cells' name noGroup)
    (hdynamic : ∀ name ∈ plan.needed,
      RowFields.named plan.schema cells name g = RowFields.named plan.schema cells' name g) :
    offer plan (candidateAt plan key cells g) = offer plan (candidateAt plan key cells' g) := by
  cases hk : groupKey? plan g with
  | none => rw [candidateAt_of_none hk, candidateAt_of_none hk]
  | some tail =>
      have hr := candidateAt_of_some hk key cells
      have hr' := candidateAt_of_some hk key cells'
      rw [hr, hr']
      exact offer_of_alike (candidateAt_alike hg hr hr' hstatic hdynamic)

theorem base_alike
    (hstatic : ∀ name ∈ plan.needed,
      RowFields.named plan.schema cells name noGroup =
        RowFields.named plan.schema cells' name noGroup) :
    plan.Alike (RowFields.ofCells plan.schema key cells).base
      (RowFields.ofCells plan.schema key cells').base where
  key := by
    simp only [RowFields.base, Record.key_addAll]
    rfl
  column name hname := by rw [column?_base, column?_base, hstatic name hname]

theorem offer_base_congr
    (hstatic : ∀ name ∈ plan.needed,
      RowFields.named plan.schema cells name noGroup =
        RowFields.named plan.schema cells' name noGroup) :
    offer plan (.ok (RowFields.ofCells plan.schema key cells).base) =
      offer plan (.ok (RowFields.ofCells plan.schema key cells').base) :=
  offer_of_alike (base_alike hstatic)

theorem named_dynamic_eq_nil (hs : plan.schema.Sound) (h : plan.schema.static? name = none) :
    RowFields.named plan.schema cells name noGroup = [] := by
  refine RowFields.named_eq_nil fun c _ => Bool.eq_false_iff.2 fun hc => ?_
  obtain ⟨t, ht, _⟩ := Schema.static_of_readsAs hs hc
  simp [ht] at h

theorem name_mem_shownNames {layout : Layout} {components : List String} {f : Field}
    (h : f ∈ layout.keyFields g components) : f.name ∈ layout.shownNames := by
  simp only [Layout.keyFields, List.mem_map, List.mem_filter] at h
  obtain ⟨⟨n, value⟩, ⟨hmem, hshown⟩, rfl⟩ := h
  exact List.mem_filter.2 ⟨(List.of_mem_zip hmem).1, hshown⟩

theorem isLater_of_mem_keyFields (hs : plan.schema.Sound) {layout : Layout}
    (hl : plan.schema.layout? = some layout) {components : List String} {f : Field}
    (h : f ∈ layout.keyFields g components) : plan.schema.IsLater .static ⟨none, f.name⟩ := by
  intro origin type hresolve
  simp only [Schema.resolve?, FieldName.column?, Option.map_none,
    hs.shown_apart layout hl _ (name_mem_shownNames h)] at hresolve
  split at hresolve <;> cases hresolve
  rfl

theorem isLater_of_mem_groupFields (hs : plan.schema.Sound) (hg : g ≠ noGroup) {f : Field}
    (h : f ∈ (RowFields.ofCells plan.schema key cells).groupFields g) :
    plan.schema.IsLater .static (.ofColumn f.columnName) := by
  rw [RowFields.groupFields_ofCells hg, List.mem_filter, RowFields.mem_fieldsOf] at h
  obtain ⟨⟨c, _, _, reading, hread, rfl⟩, hgroup⟩ := h
  rw [Reading.group_field] at hgroup
  intro origin type hresolve
  cases reading with
  | static t => exact absurd (eq_of_beq hgroup).symm hg
  | dynamic d g' =>
      obtain ⟨hstatic, hdynamic⟩ :=
        Schema.dynamic?_columnName hs (Schema.dynamic_of_reading? hs hread).1
      have hcolumn : (FieldName.ofColumn d.columnName).column? = some d.columnName := rfl
      rw [Reading.columnName_field, Reading.columnName, Schema.resolve?, hcolumn] at hresolve
      simp only [hstatic, hdynamic] at hresolve
      cases hresolve
      rfl

theorem extends_candidateAt (hs : plan.schema.Sound) (hg : g ≠ noGroup) {r : Record}
    (h : candidateAt plan key cells g = .ok r) :
    Record.Extends plan.schema .static (RowFields.ofCells plan.schema key cells).base r := by
  cases hk : groupKey? plan g with
  | none =>
      rw [candidateAt_of_none hk] at h
      cases h
  | some tail =>
      rw [candidateAt_of_some hk] at h
      obtain ⟨layout, hlayout, hk⟩ := Option.bind_eq_some_iff.1 hk
      obtain ⟨components, _, rfl⟩ := Option.map_eq_some_iff.1 hk
      exact ⟨_, _, (Except.ok.inj h).symm, fun f hf => isLater_of_mem_keyFields hs hlayout hf,
        fun f hf => isLater_of_mem_groupFields hs hg hf⟩

theorem valueIn_candidateAt (hplan : plan.Sound) (hg : g ≠ noGroup) {r : Record}
    (h : candidateAt plan key cells g = .ok r) {l : Leaf} (hl : l ∈ plan.leaves)
    (ho : l.origin ≠ .dynamic) :
    l.valueIn (RowFields.ofCells plan.schema key cells).base = l.valueIn r :=
  (extends_candidateAt hplan.schema hg h).valueIn (hplan.leaves l hl)
    (by simpa [Stage.resolves] using ho)

theorem ne_noGroup_of_mem_keys
    (h : g ∈ (RowFields.ofCells plan.schema key cells).groups.keys) : g ≠ noGroup := by
  rintro rfl
  rw [SortedMap.mem_keys, RowFields.get?_groups] at h
  simp at h

theorem valueIn_candidates (hplan : plan.Sound) {r : Record}
    (hr : .ok r ∈ candidates plan.schema (RowFields.ofCells plan.schema key cells)) {l : Leaf}
    (hl : l ∈ plan.leaves) (ho : l.origin ≠ .dynamic) :
    l.valueIn (RowFields.ofCells plan.schema key cells).base = l.valueIn r := by
  rw [candidates_ofCells] at hr
  split at hr
  next =>
    rw [Except.ok.inj (List.mem_singleton.1 hr)]
  next =>
    obtain ⟨g, hg, hr⟩ := List.mem_map.1 hr
    exact valueIn_candidateAt hplan (ne_noGroup_of_mem_keys hg) hr hl ho

def offered (plan : Plan) (key : List Field) (cells : List Cell) : List Record × Option Error :=
  offerAll plan (candidates plan.schema (RowFields.ofCells plan.schema key cells))

/-- No candidate of a row that fails on its static fields meets the condition. -/
theorem truth_of_rejected (hplan : plan.Sound)
    (h : plan.truth (RowFields.ofCells plan.schema key cells).base .static = .no) {r : Record}
    (hr : .ok r ∈ candidates plan.schema (RowFields.ofCells plan.schema key cells)) :
    plan.truth r .full = .no := by
  have hstatic : plan.truth r .static = .no := by
    rw [← h]
    refine (Plan.truth_congr fun l hl hs => ?_).symm
    exact valueIn_candidates hplan hr hl (by simpa [Stage.resolves] using hs)
  have hknown : plan.truth r .static ≠ .unknown := by simp [hstatic]
  rw [Plan.truth_full_of_known hknown, hstatic]

theorem offered_of_rejected (hplan : plan.Sound)
    (h : plan.truth (RowFields.ofCells plan.schema key cells).base .static = .no) :
    offered plan key cells = ([], none) := by
  refine offerAll_eq_nil fun c hc => ?_
  cases c with
  | error g => rfl
  | ok r => simp [offer, truth_of_rejected hplan h hc]

/-- A row is passed over by its static fields, or put out as its candidates are one by one. -/
theorem ofFields_map (hplan : plan.Sound) (key : List Field) (cells : List Cell) :
    (ofFields plan (RowFields.ofCells plan.schema key cells)).map
        (fun out => (out.records, out.error)) =
      if plan.truth (RowFields.ofCells plan.schema key cells).base .static = .no then
        .skip .rejectedByStatics
      else .ready (offered plan key cells) := by
  obtain ⟨ht, hmemo⟩ := truthOf_eq_truth
    (Predicate.remembers_empty plan.leaves (RowFields.ofCells plan.schema key cells).base) .static
  rw [ofFields, ← ht]
  split
  next heq => simp [heq, Outcome.map]
  next truth memo hno heq =>
    rw [heq] at hmemo ⊢
    rw [if_neg hno]
    refine congrArg Outcome.ready ?_
    exact drain_eq_offerAll hmemo fun r hr l hl ho => valueIn_candidates hplan hr hl ho

theorem ofFields_eq (hplan : plan.Sound) (key : List Field) (cells : List Cell) :
    (ofFields plan (RowFields.ofCells plan.schema key cells) = .skip .rejectedByStatics ∧
      offered plan key cells = ([], none)) ∨
    ∃ out, ofFields plan (RowFields.ofCells plan.schema key cells) = .ready out ∧
      (out.records, out.error) = offered plan key cells := by
  have h := ofFields_map hplan key cells
  cases ho : ofFields plan (RowFields.ofCells plan.schema key cells) with
  | skip reason =>
      rw [ho] at h
      split at h
      next hno =>
        cases h
        exact .inl ⟨rfl, offered_of_rejected hplan hno⟩
      next => cases h
  | ready out =>
      rw [ho] at h
      split at h
      next => cases h
      next => exact .inr ⟨out, rfl, Outcome.ready.inj h⟩

theorem exists_of_mapM_eq_error {α β : Type} {f : α → Except Error β} {xs : List α} {e : Error}
    (h : xs.mapM f = .error e) : ∃ x ∈ xs, f x = .error e := by
  induction xs with
  | nil => cases h
  | cons x xs ih =>
      rw [List.mapM_cons] at h
      rcases bind_eq_error h with hx | ⟨y, _, h⟩
      · exact ⟨x, List.mem_cons_self, hx⟩
      · rcases bind_eq_error h with hxs | ⟨ys, _, he⟩
        · obtain ⟨x', hx', he⟩ := ih hxs
          exact ⟨x', List.mem_cons_of_mem x hx', he⟩
        · cases he

theorem kind_of_expand {d : DocumentColumn} {r : Record} {e : Error} (h : expand d r = .error e) :
    e.kind = .malformedDocument := by
  obtain ⟨_, he⟩ | ⟨_, _, _, _, ⟨fault, _, he⟩ | ⟨_, he⟩ | ⟨_, _, _, he⟩⟩ := expand_cases d r <;>
    cases he.symm.trans h
  rfl

theorem kind_of_expandAll {ds : List DocumentColumn} {rs : List Record} {e : Error}
    (h : expandAll ds rs = .error e) : e.kind = .malformedDocument := by
  induction ds generalizing rs with
  | nil => cases h
  | cons d ds ih =>
      rcases bind_eq_error h with hr | ⟨expanded, _, h⟩
      · obtain ⟨r, _, hr⟩ := exists_of_mapM_eq_error hr
        exact kind_of_expand hr
      · exact ih h

theorem kind_of_offerAll {cs : List Candidate} {e : Error} (h : (offerAll plan cs).2 = some e) :
    e.kind = .malformedDocument := by
  induction cs with
  | nil => cases h
  | cons c cs ih =>
      rw [offerAll] at h
      split at h
      next e' hc =>
        cases h
        cases c with
        | error g => cases hc
        | ok r =>
            rw [offer] at hc
            split at hc
            next => exact kind_of_expandAll hc
            next => cases hc
      next => exact ih h

/-- All records of a row, or why it is passed over. -/
def settled (plan : Plan) (key : List Field) (cells : List Cell) : Outcome (List Record) :=
  match ofFields plan (RowFields.ofCells plan.schema key cells) with
  | .skip reason => .skip reason
  | .ready out => if out.error.isSome then .skip .malformedDocument else .ready out.records

def recordsOf : Outcome (List Record) → List Record
  | .ready records => records
  | .skip _ => []

def putOut (plan : Plan) (key : List Field) (cells : List Cell) : List Record :=
  recordsOf (settled plan key cells)

theorem putOut_eq (hplan : plan.Sound) (key : List Field) (cells : List Cell) :
    putOut plan key cells =
      if (offered plan key cells).2.isSome then [] else (offered plan key cells).1 := by
  rw [putOut, settled]
  rcases ofFields_eq hplan key cells with ⟨hskip, hoff⟩ | ⟨out, hready, hoff⟩
  · rw [hskip, hoff]
    rfl
  · rw [hready, ← hoff]
    dsimp only
    split <;> rfl

theorem offered_congr (h : RowFields.fieldsOf plan.schema cells =
    RowFields.fieldsOf plan.schema cells') :
    offered plan key cells = offered plan key cells' := by
  have hbase : (RowFields.ofCells plan.schema key cells).base =
      (RowFields.ofCells plan.schema key cells').base := by
    rw [RowFields.base, RowFields.base, RowFields.statics_ofCells, RowFields.statics_ofCells, h]
    rfl
  have hgroups : (RowFields.ofCells plan.schema key cells).groups =
      (RowFields.ofCells plan.schema key cells').groups :=
    SortedMap.ext_get? fun g => by rw [RowFields.get?_groups, RowFields.get?_groups, h]
  rw [offered, offered, candidates, candidates, hbase, hgroups]

def Dynamic (plan : Plan) : Prop := ∀ name ∈ plan.selection, plan.schema.static? name = none

theorem dynamic_of_readsHiddenStatic (h : plan.readsHiddenStatic) : Dynamic plan := by
  intro name hname
  simp only [Plan.readsHiddenStatic, Bool.and_eq_true, List.all_eq_true, beq_iff_eq] at h
  have ho := h.1 name hname
  rw [Schema.origin?] at ho
  cases hs : plan.schema.static? name with
  | none => rfl
  | some t => simp [hs] at ho

theorem offer_of_no_output {r : Record} (h : plan.hasOutput r = false) :
    offer plan (.ok r) = .ok [] := by
  simp [offer, h]

theorem putOut_of_no_fields (hplan : plan.Sound)
    (h : RowFields.fieldsOf plan.schema cells = []) : putOut plan key cells = [] := by
  have hgroups : (RowFields.ofCells plan.schema key cells).groups.isEmpty := by
    rw [SortedMap.isEmpty_iff]
    intro g
    simp [RowFields.get?_groups, h]
  have hbase : offer plan (.ok (RowFields.ofCells plan.schema key cells).base) = .ok [] := by
    refine offer_of_no_output (Bool.eq_false_iff.2 fun hout => ?_)
    obtain ⟨name, _, hshows⟩ := List.any_eq_true.1 hout
    rw [Record.shows, column?_base, RowFields.named, h] at hshows
    cases hshows
  rw [putOut_eq hplan, offered, candidates_ofCells, if_pos hgroups, offerAll_cons_of_ok hbase]
  rfl

/-- Groups that give nothing may be left out, and so may columns that are not required. A row that
is left without groups then gives nothing either. -/
theorem offered_of_groups
    (hsub : ∀ g ∈ (RowFields.ofCells plan.schema key cells).groups.keys,
      g ∈ (RowFields.ofCells plan.schema key cells').groups.keys)
    (hnamed : ∀ name ∈ plan.needed, ∀ g,
      RowFields.named plan.schema cells name g = RowFields.named plan.schema cells' name g)
    (hleft : ∀ g ∈ (RowFields.ofCells plan.schema key cells').groups.keys,
      g ∉ (RowFields.ofCells plan.schema key cells).groups.keys →
        offer plan (candidateAt plan key cells' g) = .ok [])
    (hbase : (RowFields.ofCells plan.schema key cells).groups.isEmpty →
      (RowFields.ofCells plan.schema key cells').groups.isEmpty = false →
        offer plan (.ok (RowFields.ofCells plan.schema key cells').base) = .ok []) :
    offered plan key cells = offered plan key cells' := by
  have hstatic : offer plan (.ok (RowFields.ofCells plan.schema key cells).base) =
      offer plan (.ok (RowFields.ofCells plan.schema key cells').base) :=
    offer_base_congr fun name hname => hnamed name hname noGroup
  rw [offered, offered, candidates_ofCells, candidates_ofCells]
  cases hcells : (RowFields.ofCells plan.schema key cells).groups.isEmpty with
  | true =>
      cases hcells' : (RowFields.ofCells plan.schema key cells').groups.isEmpty with
      | true =>
          simp only [if_true, offerAll]
          rw [hstatic]
      | false =>
          have hnil : offerAll plan ((RowFields.ofCells plan.schema key cells').groups.keys.map
              (candidateAt plan key cells')) = ([], none) := by
            refine offerAll_eq_nil fun c hc => ?_
            obtain ⟨g, hg, rfl⟩ := List.mem_map.1 hc
            exact hleft g hg (RowFields.isEmpty_groups_iff.1 hcells g)
          simp only [if_true, Bool.false_eq_true, if_false]
          rw [hnil, offerAll_cons_of_ok (hstatic.trans (hbase hcells hcells'))]
          rfl
  | false =>
      have hcells' : (RowFields.ofCells plan.schema key cells').groups.isEmpty = false := by
        refine Bool.eq_false_iff.2 fun h => ?_
        rw [← Bool.not_eq_true, RowFields.isEmpty_groups_iff] at hcells
        exact hcells fun g hg => RowFields.isEmpty_groups_iff.1 h g (hsub g hg)
      have hkeys : (RowFields.ofCells plan.schema key cells).groups.keys =
          (RowFields.ofCells plan.schema key cells').groups.keys.filter
            fun g => (RowFields.ofCells plan.schema key cells).groups.keys.contains g := by
        refine eq_of_ascending id (SortedMap.keys_ascending _)
          ((SortedMap.keys_ascending _).filter _) fun g => ?_
        rw [List.mem_filter, List.contains_iff_mem]
        exact ⟨fun hg => ⟨hsub g hg, hg⟩, And.right⟩
      rw [hcells', if_neg Bool.false_ne_true, if_neg Bool.false_ne_true]
      calc offerAll plan ((RowFields.ofCells plan.schema key cells).groups.keys.map
            (candidateAt plan key cells))
          = offerAll plan ((RowFields.ofCells plan.schema key cells).groups.keys.map
            (candidateAt plan key cells')) := by
              refine offerAll_congr fun g hg => ?_
              exact offer_candidateAt_congr (ne_noGroup_of_mem_keys hg)
                (fun name hname => hnamed name hname noGroup) fun name hname => hnamed name hname g
        _ = offerAll plan ((RowFields.ofCells plan.schema key cells').groups.keys.map
            (candidateAt plan key cells')) := by
              rw [hkeys]
              refine offerAll_filter _ _ fun g hg habsent => ?_
              exact hleft g hg (by simpa using habsent)

end RowOutput

end WideRow
