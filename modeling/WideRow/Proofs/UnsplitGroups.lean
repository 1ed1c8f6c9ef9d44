import WideRow.Proofs.PlainOutput

namespace WideRow

namespace RowFields

variable {schema : Schema} {key : List Field} {cells : List Cell} {g : String}

/-- The cells of a row but for those that stand in a group whose id does not split. -/
def withoutUnsplit (schema : Schema) (cells : List Cell) : List Cell :=
  cells.filter fun c => (schema.place c.address).unsplit?.isNone

theorem mem_withoutUnsplit {c : Cell} : c ∈ withoutUnsplit schema cells ↔ c ∈ cells ∧
    ∀ r, schema.reading? c.address = some r → r.group = noGroup ∨ schema.splits r.group := by
  rw [withoutUnsplit, List.mem_filter, and_congr_right_iff, Schema.place]
  intro _
  cases schema.reading? c.address with
  | none => simp [Placement.unsplit?]
  | some r =>
      by_cases hg : r.group = noGroup <;> cases hs : schema.splits r.group <;>
        simp [Placement.unsplit?, hg, hs]

theorem inGroups_withoutUnsplit (schema : Schema) (cells : List Cell) :
    ChangeSet.inGroups schema (withoutUnsplit schema cells) = ChangeSet.inGroups schema cells := by
  rw [ChangeSet.inGroups, ChangeSet.inGroups, withoutUnsplit, List.filterMap_filter]
  congr 1
  funext c
  cases schema.place c.address <;> rfl

theorem fieldsOf_withoutUnsplit (schema : Schema) (cells : List Cell) :
    fieldsOf schema (withoutUnsplit schema cells) =
      (fieldsOf schema cells).filter fun f => f.group == noGroup || schema.splits f.group := by
  simp only [fieldsOf, withoutUnsplit, List.filter_filterMap, List.filterMap_filter,
    List.filter_filter]
  congr 1
  funext c
  cases hr : schema.reading? c.address with
  | none => simp [field?, hr]
  | some r =>
      by_cases hg : r.group = noGroup <;> cases hs : schema.splits r.group <;>
        cases hp : c.isPut <;>
        simp [field?, Schema.place, Placement.unsplit?, hr, hg, hs, Reading.group_field,
          Option.filter_some]

theorem base_withoutUnsplit (schema : Schema) (key : List Field) (cells : List Cell) :
    (ofCells schema key (withoutUnsplit schema cells)).base = (ofCells schema key cells).base := by
  have hstatics : (ofCells schema key (withoutUnsplit schema cells)).statics =
      (ofCells schema key cells).statics := by
    rw [statics_ofCells, statics_ofCells, fieldsOf_withoutUnsplit, List.filter_filter]
    refine List.filter_congr fun f _ => ?_
    by_cases hf : f.group = noGroup <;> simp [hf]
  rw [base, base, hstatics]
  rfl

theorem groupFields_withoutUnsplit (hg : g ≠ noGroup) (hs : schema.splits g) :
    (ofCells schema key (withoutUnsplit schema cells)).groupFields g =
      (ofCells schema key cells).groupFields g := by
  rw [groupFields_ofCells hg, groupFields_ofCells hg, fieldsOf_withoutUnsplit, List.filter_filter]
  refine List.filter_congr fun f _ => ?_
  by_cases hf : f.group = g <;> simp [hf, hs]

theorem keys_withoutUnsplit (schema : Schema) (key : List Field) (cells : List Cell) :
    (ofCells schema key (withoutUnsplit schema cells)).groups.keys =
      (ofCells schema key cells).groups.keys.filter schema.splits := by
  refine eq_of_ascending id (SortedMap.keys_ascending _) ((SortedMap.keys_ascending _).filter _)
    fun g => ?_
  rw [List.mem_filter, mem_keys_groups_iff, mem_keys_groups_iff, and_assoc, and_congr_right_iff]
  intro hg
  constructor
  · rintro ⟨c, hc, hput, r, hr, rfl⟩
    obtain ⟨hc, hsplits⟩ := mem_withoutUnsplit.1 hc
    exact ⟨⟨c, hc, hput, r, hr, rfl⟩, (hsplits r hr).resolve_left hg⟩
  · rintro ⟨⟨c, hc, hput, r, hr, rfl⟩, hs⟩
    refine ⟨c, mem_withoutUnsplit.2 ⟨hc, fun r' hr' => ?_⟩, hput, r, hr, rfl⟩
    cases hr.symm.trans hr'
    exact .inr hs

/-- A row with groups, none of which has an id that splits. -/
def IsStray (schema : Schema) (row : RowFields) : Prop :=
  row.groups.keys ≠ [] ∧ ∀ g ∈ row.groups.keys, schema.splits g = false

instance (schema : Schema) (row : RowFields) : Decidable (IsStray schema row) :=
  inferInstanceAs (Decidable (_ ∧ _))

end RowFields

namespace RowOutput

variable {plan : Plan} {key : List Field} {cells : List Cell} {g : String}

theorem groupKey?_eq_none (h : plan.schema.splits g = false) : groupKey? plan g = none := by
  rw [groupKey?]
  rw [Schema.splits] at h
  cases hl : plan.schema.layout? with
  | none => rfl
  | some layout =>
      cases hc : layout.split? g with
      | none => simp [hc]
      | some components => simp [hl, hc] at h

theorem offer_of_unsplit (h : plan.schema.splits g = false) (key : List Field)
    (cells : List Cell) : offer plan (candidateAt plan key cells g) = .ok [] := by
  rw [candidateAt_of_none (groupKey?_eq_none h)]
  rfl

theorem candidateAt_withoutUnsplit (hg : g ≠ noGroup) (hs : plan.schema.splits g) :
    candidateAt plan key (RowFields.withoutUnsplit plan.schema cells) g =
      candidateAt plan key cells g := by
  simp only [candidateAt, RowFields.base_withoutUnsplit,
    RowFields.groupFields_withoutUnsplit hg hs]

theorem isEmpty_groups_iff_keys (schema : Schema) (key : List Field) (cells : List Cell) :
    (RowFields.ofCells schema key cells).groups.isEmpty ↔
      (RowFields.ofCells schema key cells).groups.keys = [] := by
  rw [RowFields.isEmpty_groups_iff, List.eq_nil_iff_forall_not_mem]

theorem offered_of_keys_eq_nil
    (h : (RowFields.ofCells plan.schema key cells).groups.keys = []) :
    offered plan key cells =
      offerAll plan [.ok (RowFields.ofCells plan.schema key cells).base] := by
  rw [offered, candidates_ofCells, if_pos ((isEmpty_groups_iff_keys _ _ _).2 h)]

theorem offered_of_keys_ne_nil
    (h : (RowFields.ofCells plan.schema key cells).groups.keys ≠ []) :
    offered plan key cells = offerAll plan
      ((RowFields.ofCells plan.schema key cells).groups.keys.map (candidateAt plan key cells)) := by
  rw [offered, candidates_ofCells,
    if_neg fun hempty => h ((isEmpty_groups_iff_keys _ _ _).1 hempty)]

theorem offered_of_stray
    (h : RowFields.IsStray plan.schema (RowFields.ofCells plan.schema key cells)) :
    offered plan key cells = ([], none) := by
  rw [offered_of_keys_ne_nil h.1]
  refine offerAll_eq_nil fun c hc => ?_
  obtain ⟨g, hg, rfl⟩ := List.mem_map.1 hc
  exact offer_of_unsplit (h.2 g hg) key cells

theorem offered_withoutUnsplit_of_stray
    (h : RowFields.IsStray plan.schema (RowFields.ofCells plan.schema key cells)) :
    offered plan key (RowFields.withoutUnsplit plan.schema cells) =
      offerAll plan [.ok (RowFields.ofCells plan.schema key cells).base] := by
  have hkeys : (RowFields.ofCells plan.schema key
      (RowFields.withoutUnsplit plan.schema cells)).groups.keys = [] := by
    rw [RowFields.keys_withoutUnsplit, List.filter_eq_nil_iff]
    intro g hg
    simp [h.2 g hg]
  rw [offered_of_keys_eq_nil hkeys, RowFields.base_withoutUnsplit]

theorem offered_withoutUnsplit
    (h : ¬ RowFields.IsStray plan.schema (RowFields.ofCells plan.schema key cells)) :
    offered plan key (RowFields.withoutUnsplit plan.schema cells) = offered plan key cells := by
  by_cases hnone : (RowFields.ofCells plan.schema key cells).groups.keys = []
  · have hkeys : (RowFields.ofCells plan.schema key
        (RowFields.withoutUnsplit plan.schema cells)).groups.keys = [] := by
      rw [RowFields.keys_withoutUnsplit, hnone, List.filter_nil]
    rw [offered_of_keys_eq_nil hnone, offered_of_keys_eq_nil hkeys, RowFields.base_withoutUnsplit]
  · -- one of the groups splits, so that no row stands for itself
    have hkeys : (RowFields.ofCells plan.schema key
        (RowFields.withoutUnsplit plan.schema cells)).groups.keys ≠ [] := by
      rw [RowFields.keys_withoutUnsplit]
      intro hnil
      rw [List.filter_eq_nil_iff] at hnil
      exact h ⟨hnone, fun g hg => by simpa using hnil g hg⟩
    rw [offered_of_keys_ne_nil hnone, offered_of_keys_ne_nil hkeys,
      RowFields.keys_withoutUnsplit]
    calc offerAll plan (((RowFields.ofCells plan.schema key cells).groups.keys.filter
          plan.schema.splits).map
          (candidateAt plan key (RowFields.withoutUnsplit plan.schema cells)))
        = offerAll plan (((RowFields.ofCells plan.schema key cells).groups.keys.filter
          plan.schema.splits).map (candidateAt plan key cells)) := by
            refine offerAll_congr fun g hg => ?_
            obtain ⟨hg, hs⟩ := List.mem_filter.1 hg
            rw [candidateAt_withoutUnsplit (ne_noGroup_of_mem_keys hg) hs]
      _ = offerAll plan ((RowFields.ofCells plan.schema key cells).groups.keys.map
          (candidateAt plan key cells)) :=
            offerAll_filter _ _ fun g _ hs => offer_of_unsplit hs key cells

def made (plan : Plan) (key : List Field) (cells : List Cell) :
    Outcome (List Record × Option Error) :=
  (ofFields plan (RowFields.ofCells plan.schema key cells)).map fun out => (out.records, out.error)

theorem made_eq (hplan : plan.Sound) (key : List Field) (cells : List Cell) :
    made plan key cells =
      if plan.truth (RowFields.ofCells plan.schema key cells).base .static = .no then
        .skip .rejectedByStatics
      else .ready (offered plan key cells) :=
  ofFields_map hplan key cells

theorem offerAll_singleton (plan : Plan) (r : Record) :
    offerAll plan [.ok r] = spreadAll plan ([r].filter plan.keeps) :=
  offerAll_eq_spreadAll plan [.ok r]

theorem truth_static_of_keeps {r : Record} (h : plan.keeps r) : plan.truth r .static ≠ .no := by
  intro hno
  have hknown : plan.truth r .static ≠ .unknown := by simp [hno]
  have hfull := Plan.truth_full_of_known hknown
  rw [Plan.keeps, hfull, hno] at h
  simp at h

theorem made_withoutUnsplit_of_stray (hplan : plan.Sound)
    (h : RowFields.IsStray plan.schema (RowFields.ofCells plan.schema key cells))
    (hkeeps : plan.keeps (RowFields.ofCells plan.schema key cells).base) :
    made plan key cells = .ready ([], none) ∧
      made plan key (RowFields.withoutUnsplit plan.schema cells) =
        .ready (spreadAll plan [(RowFields.ofCells plan.schema key cells).base]) := by
  rw [made_eq hplan, made_eq hplan, RowFields.base_withoutUnsplit,
    if_neg (truth_static_of_keeps hkeeps), if_neg (truth_static_of_keeps hkeeps),
    offered_of_stray h, offered_withoutUnsplit_of_stray h, offerAll_singleton,
    List.filter_cons_of_pos hkeeps]
  exact ⟨rfl, rfl⟩

theorem made_withoutUnsplit_of_not_kept (hplan : plan.Sound)
    (h : ¬(RowFields.IsStray plan.schema (RowFields.ofCells plan.schema key cells) ∧
      plan.keeps (RowFields.ofCells plan.schema key cells).base)) :
    made plan key (RowFields.withoutUnsplit plan.schema cells) = made plan key cells := by
  have hoffered : offered plan key (RowFields.withoutUnsplit plan.schema cells) =
      offered plan key cells := by
    by_cases hstray : RowFields.IsStray plan.schema (RowFields.ofCells plan.schema key cells)
    · have hkeeps : plan.keeps (RowFields.ofCells plan.schema key cells).base = false := by
        simpa [hstray] using h
      rw [offered_of_stray hstray, offered_withoutUnsplit_of_stray hstray, offerAll_singleton,
        List.filter_cons_of_neg (by simp [hkeeps])]
      rfl
    · exact offered_withoutUnsplit hstray
  rw [made_eq hplan, made_eq hplan, RowFields.base_withoutUnsplit, hoffered]

/-- Cells of groups whose ids do not split can go, as they do when changes are placed in groups.
Whether the row is passed over, its records and its error stay as they are, unless nothing but such
groups is there and the static fields make a record that the plan keeps: then it is put out without
those cells, and with them nothing is. -/
theorem made_withoutUnsplit (hplan : plan.Built) (key : List Field) (cells : List Cell) :
    (∀ c, c ∈ RowFields.withoutUnsplit plan.schema cells ↔ c ∈ cells ∧
      ∀ d g, plan.schema.reading? c.address = some (.dynamic d g) → plan.schema.splits g) ∧
    ChangeSet.inGroups plan.schema (RowFields.withoutUnsplit plan.schema cells) =
      ChangeSet.inGroups plan.schema cells ∧
    (made plan key (RowFields.withoutUnsplit plan.schema cells)).reason? =
      (made plan key cells).reason? ∧
    if RowFields.IsStray plan.schema (RowFields.ofCells plan.schema key cells) ∧
        plan.keeps (RowFields.ofCells plan.schema key cells).base then
      made plan key cells = .ready ([], none) ∧
        made plan key (RowFields.withoutUnsplit plan.schema cells) =
          .ready (spreadAll plan [(RowFields.ofCells plan.schema key cells).base])
    else made plan key (RowFields.withoutUnsplit plan.schema cells) = made plan key cells := by
  refine ⟨fun c => ?_, RowFields.inGroups_withoutUnsplit _ _, ?_, ?_⟩
  · rw [RowFields.mem_withoutUnsplit, and_congr_right_iff]
    intro _
    constructor
    · intro hsplits d g hr
      exact (hsplits _ hr).resolve_left (Schema.dynamic_of_reading? hplan.sound.schema hr).2.2
    · intro hsplits r hr
      cases r with
      | static t => exact .inl rfl
      | dynamic d g => exact .inr (hsplits d g hr)
  · rw [made_eq hplan.sound, made_eq hplan.sound, RowFields.base_withoutUnsplit]
    split <;> rfl
  · split
    next h => exact made_withoutUnsplit_of_stray hplan.sound h.1 h.2
    next h => exact made_withoutUnsplit_of_not_kept hplan.sound h

private def parted : Plan where
  schema := ⟨⟨"|", [⟨"id", .plain, .string⟩]⟩,
    [⟨"D", Text.Utf8.encode "SR1", "SR1", .string⟩],
    [⟨"D", "RC", "RC", "", ⟨["line", "part"], some "|"⟩, .string⟩]⟩
  selection := [⟨"D", "SR1"⟩, ⟨"D", "RC"⟩]
  predicate := none
  documents := []

private theorem parted_built : parted.Built where
  rowKey := rfl
  schema := rfl
  plan := ⟨[.ofColumn ⟨"D", "SR1"⟩, .ofColumn ⟨"D", "RC"⟩], none, [], rfl⟩

private def partedCells (qualifiers : List String) : List Cell :=
  ⟨"D", 10, .put (Text.Utf8.encode "SR1") (Text.Utf8.encode "Y")⟩ ::
    qualifiers.map fun q => ⟨"D", 10, .put (Text.Utf8.encode q) (Text.Utf8.encode "a")⟩

theorem parted_invoice_alike :
    parted.Built ∧
      RowFields.withoutUnsplit parted.schema (partedCells ["RCx", "RCx|y"]) =
        partedCells ["RCx|y"] ∧
      (∃ r, made parted [.key "id" "k" .string] (partedCells ["RCx", "RCx|y"]) =
        .ready ([r], none)) ∧
      made parted [.key "id" "k" .string]
          (RowFields.withoutUnsplit parted.schema (partedCells ["RCx", "RCx|y"])) =
        made parted [.key "id" "k" .string] (partedCells ["RCx", "RCx|y"]) := by
  refine ⟨parted_built, by decide, ⟨_, rfl⟩, ?_⟩
  have h := (made_withoutUnsplit parted_built [.key "id" "k" .string]
    (partedCells ["RCx", "RCx|y"])).2.2.2
  rwa [if_neg (by decide)] at h

/-- A line whose id does not split keeps an invoice from being put out that would be put out
without it. -/
theorem parted_invoice_withheld :
    parted.Built ∧
      RowFields.withoutUnsplit parted.schema (partedCells ["RCx"]) = partedCells [] ∧
      made parted [.key "id" "k" .string] (partedCells ["RCx"]) = .ready ([], none) ∧
      (∃ r, made parted [.key "id" "k" .string]
          (RowFields.withoutUnsplit parted.schema (partedCells ["RCx"])) = .ready ([r], none)) ∧
      made parted [.key "id" "k" .string]
          (RowFields.withoutUnsplit parted.schema (partedCells ["RCx"])) ≠
        made parted [.key "id" "k" .string] (partedCells ["RCx"]) := by
  have hmade : ∃ r, made parted [.key "id" "k" .string]
      (RowFields.withoutUnsplit parted.schema (partedCells ["RCx"])) = .ready ([r], none) :=
    ⟨_, rfl⟩
  refine ⟨parted_built, by decide, rfl, hmade, ?_⟩
  obtain ⟨r, hr⟩ := hmade
  rw [hr]
  exact nofun

end RowOutput

end WideRow
