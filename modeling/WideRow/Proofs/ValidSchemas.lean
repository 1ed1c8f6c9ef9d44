import Mathlib.Data.List.Nodup
import Mathlib.Data.List.Pairwise
import WideRow.Schema.Build

namespace WideRow.Schema

structure Valid (rowKey : RowKey.Spec) (statics : List StaticColumn)
    (dynamics : List DynamicColumn) : Prop where
  statics_named : ∀ c ∈ statics, c.family ≠ "" ∧ c.name ≠ ""
  dynamics_named : ∀ d ∈ dynamics, d.family ≠ "" ∧ d.name ≠ ""
  /-- No two static columns of a family have the same qualifier. -/
  addresses_apart : (statics.map (·.address)).Nodup
  /-- No two columns of a family have the same name. -/
  names_apart : (statics.map (·.columnName) ++ dynamics.map (·.columnName)).Nodup
  one_fixed_part : ∀ d ∈ dynamics, d.lead = "" ∨ d.trail = ""
  /-- One dynamic column of a family at most is without a fixed part. -/
  one_open : ((dynamics.filter (·.isOpen)).map (·.family)).Nodup
  one_layout : ∀ d ∈ dynamics, ∀ e ∈ dynamics, d.layout = e.layout
  has_parts : ∀ d ∈ dynamics, d.layout.parts ≠ []
  has_separator : ∀ d ∈ dynamics, 1 < d.layout.parts.length → d.layout.separatorText ≠ ""
  shown_apart : ∀ d ∈ dynamics, ∀ name ∈ d.layout.parts, name ≠ Layout.skipped →
    ∀ p ∈ rowKey.parts, p.isSalt = false → p.name ≠ name

variable {rowKey : RowKey.Spec} {statics : List StaticColumn} {dynamics : List DynamicColumn}

theorem Valid.perm {statics' : List StaticColumn} {dynamics' : List DynamicColumn}
    (h : Valid rowKey statics dynamics) (hs : statics.Perm statics')
    (hd : dynamics.Perm dynamics') : Valid rowKey statics' dynamics' where
  statics_named c hc := h.statics_named c (hs.mem_iff.2 hc)
  dynamics_named d he := h.dynamics_named d (hd.mem_iff.2 he)
  addresses_apart := (hs.map _).nodup_iff.1 h.addresses_apart
  names_apart := ((hs.map _).append (hd.map _)).nodup_iff.1 h.names_apart
  one_fixed_part d he := h.one_fixed_part d (hd.mem_iff.2 he)
  one_open := ((hd.filter _).map _).nodup_iff.1 h.one_open
  one_layout d he e he' := h.one_layout d (hd.mem_iff.2 he) e (hd.mem_iff.2 he')
  has_parts d he := h.has_parts d (hd.mem_iff.2 he)
  has_separator d he := h.has_separator d (hd.mem_iff.2 he)
  shown_apart d he := h.shown_apart d (hd.mem_iff.2 he)

theorem nodup_map_concat {α β : Type} {f : α → β} {xs : List α} {x : α} :
    ((xs ++ [x]).map f).Nodup ↔ (xs.map f).Nodup ∧ f x ∉ xs.map f := by
  rw [List.map_append, List.map_singleton, ← List.concat_eq_append, List.nodup_concat, and_comm]

theorem staticFault?_eq_none_iff {before : List StaticColumn} {c : StaticColumn} :
    staticFault? before c = none ↔ (c.family ≠ "" ∧ c.name ≠ "") ∧
      c.address ∉ before.map (·.address) ∧ c.columnName ∉ before.map (·.columnName) := by
  simp only [staticFault?, String.isEmpty_iff, List.any_eq_true, beq_iff_eq, List.mem_map]
  split_ifs with hnamed ha hn
  · exact iff_of_false nofun fun h => hnamed.elim h.1.1 h.1.2
  · exact iff_of_false nofun fun h => h.2.1 ha
  · exact iff_of_false nofun fun h => h.2.2 hn
  · exact iff_of_true rfl ⟨not_or.1 hnamed, ha, hn⟩

theorem staticsFault?_cons {before cs : List StaticColumn} {c : StaticColumn} :
    staticsFault? before (c :: cs) = none ↔
      staticFault? before c = none ∧ staticsFault? (before ++ [c]) cs = none := by
  rw [staticsFault?]
  cases staticFault? before c <;> simp

/-- Columns found good next to those that were told apart already. -/
theorem staticsFault?_eq_none_iff {before cs : List StaticColumn}
    (ha : (before.map (·.address)).Nodup) (hn : (before.map (·.columnName)).Nodup) :
    staticsFault? before cs = none ↔ (∀ c ∈ cs, c.family ≠ "" ∧ c.name ≠ "") ∧
      ((before ++ cs).map (·.address)).Nodup ∧ ((before ++ cs).map (·.columnName)).Nodup := by
  induction cs generalizing before with
  | nil => simp [staticsFault?, ha, hn]
  | cons c cs ih =>
      rw [List.append_cons, List.forall_mem_cons, staticsFault?_cons, staticFault?_eq_none_iff]
      constructor
      · rintro ⟨⟨hnamed, hca, hcn⟩, hcs⟩
        rw [ih (nodup_map_concat.2 ⟨ha, hca⟩) (nodup_map_concat.2 ⟨hn, hcn⟩)] at hcs
        exact ⟨⟨hnamed, hcs.1⟩, hcs.2⟩
      · rintro ⟨⟨hnamed, hcs⟩, has, hns⟩
        have hca := (List.map_append ▸ has).of_append_left
        have hcn := (List.map_append ▸ hns).of_append_left
        exact ⟨⟨hnamed, (nodup_map_concat.1 hca).2, (nodup_map_concat.1 hcn).2⟩,
          (ih hca hcn).2 ⟨hcs, has, hns⟩⟩

structure OwnValid (d : DynamicColumn) : Prop where
  named : d.family ≠ "" ∧ d.name ≠ ""
  one_fixed_part : d.lead = "" ∨ d.trail = ""
  has_parts : d.layout.parts ≠ []
  has_separator : 1 < d.layout.parts.length → d.layout.separatorText ≠ ""

theorem ownFault?_eq_none_iff {d : DynamicColumn} : ownFault? d = none ↔ OwnValid d := by
  simp only [ownFault?, Bool.not_eq_true', String.isEmpty_iff, List.isEmpty_iff]
  split_ifs with hnamed hfixed hparts hseparator
  · exact iff_of_false nofun fun h => hnamed.elim h.named.1 h.named.2
  · refine iff_of_false nofun fun h => ?_
    rcases h.one_fixed_part with hlead | htrail
    · simp [hlead] at hfixed
    · simp [htrail] at hfixed
  · exact iff_of_false nofun fun h => h.has_parts hparts
  · exact iff_of_false nofun fun h => h.has_separator hseparator.1 hseparator.2
  · refine iff_of_true rfl ⟨not_or.1 hnamed, ?_, hparts, fun hlen => not_and.1 hseparator hlen⟩
    by_cases hlead : d.lead = ""
    · exact .inl hlead
    · refine .inr ?_
      simpa [hlead] using hfixed

theorem dynamicFault?_eq_none_iff {before : List DynamicColumn} {d : DynamicColumn} :
    dynamicFault? statics before d = none ↔ OwnValid d ∧ (∀ e ∈ before, e.layout = d.layout) ∧
      d.columnName ∉ statics.map (·.columnName) ++ before.map (·.columnName) ∧
      (d.isOpen → d.family ∉ (before.filter (·.isOpen)).map (·.family)) := by
  rw [dynamicFault?]
  cases hown : ownFault? d with
  | some f =>
      refine iff_of_false nofun fun h => ?_
      rw [ownFault?_eq_none_iff.2 h.1] at hown
      cases hown
  | none =>
      simp only [List.any_eq_true, beq_iff_eq, bne_iff_ne, List.mem_append, List.mem_map,
        List.mem_filter, Bool.and_eq_true]
      split_ifs with hlayout hname hopen
      · obtain ⟨e, he, hne⟩ := hlayout
        exact iff_of_false nofun fun h => hne (h.2.1 e he)
      · exact iff_of_false nofun fun h => h.2.2.1 hname
      · obtain ⟨hd, e, he, hfamily, heopen⟩ := hopen
        exact iff_of_false nofun fun h => h.2.2.2 hd ⟨e, ⟨he, heopen⟩, hfamily⟩
      · refine iff_of_true rfl ⟨ownFault?_eq_none_iff.1 hown, ?_, hname, ?_⟩
        · intro e he
          by_contra hne
          exact hlayout ⟨e, he, hne⟩
        · rintro hd ⟨e, ⟨he, heopen⟩, hfamily⟩
          exact hopen ⟨hd, e, he, hfamily, heopen⟩

theorem dynamicsFault?_cons {before ds : List DynamicColumn} {d : DynamicColumn} :
    dynamicsFault? statics before (d :: ds) = none ↔
      dynamicFault? statics before d = none ∧ dynamicsFault? statics (before ++ [d]) ds = none := by
  rw [dynamicsFault?]
  cases dynamicFault? statics before d <;> simp

theorem nodup_open_concat {before : List DynamicColumn} {d : DynamicColumn} :
    (((before ++ [d]).filter (·.isOpen)).map (·.family)).Nodup ↔
      ((before.filter (·.isOpen)).map (·.family)).Nodup ∧
        (d.isOpen → d.family ∉ (before.filter (·.isOpen)).map (·.family)) := by
  rw [List.filter_append, List.filter_singleton]
  by_cases hd : d.isOpen
  · rw [hd, cond_true, nodup_map_concat, forall_prop_of_true rfl]
  · rw [Bool.eq_false_iff.2 hd, cond_false, List.append_nil]
    exact (and_iff_left nofun).symm

/-- Dynamic columns that are told apart, from the static ones too, and go together. -/
structure Apart (statics : List StaticColumn) (ds : List DynamicColumn) : Prop where
  names : (statics.map (·.columnName) ++ ds.map (·.columnName)).Nodup
  open_families : ((ds.filter (·.isOpen)).map (·.family)).Nodup
  layouts : ds.Pairwise fun e d => e.layout = d.layout

theorem apart_concat {before : List DynamicColumn} {d : DynamicColumn} :
    Apart statics (before ++ [d]) ↔ Apart statics before ∧ (∀ e ∈ before, e.layout = d.layout) ∧
      d.columnName ∉ statics.map (·.columnName) ++ before.map (·.columnName) ∧
      (d.isOpen → d.family ∉ (before.filter (·.isOpen)).map (·.family)) := by
  have hnames : (statics.map (·.columnName) ++ (before ++ [d]).map (·.columnName)).Nodup ↔
      (statics.map (·.columnName) ++ before.map (·.columnName)).Nodup ∧
        d.columnName ∉ statics.map (·.columnName) ++ before.map (·.columnName) := by
    rw [List.map_append, List.map_singleton, ← List.append_assoc, ← List.concat_eq_append,
      List.nodup_concat, and_comm]
  constructor
  · rintro ⟨hn, ho, hl⟩
    rw [hnames] at hn
    rw [nodup_open_concat] at ho
    rw [List.pairwise_append] at hl
    exact ⟨⟨hn.1, ho.1, hl.1⟩, fun e he => hl.2.2 e he d (List.mem_singleton.2 rfl), hn.2, ho.2⟩
  · rintro ⟨⟨hn, ho, hl⟩, hlayout, hname, hopen⟩
    refine ⟨hnames.2 ⟨hn, hname⟩, nodup_open_concat.2 ⟨ho, hopen⟩, ?_⟩
    refine List.pairwise_append.2 ⟨hl, List.pairwise_singleton _ _, ?_⟩
    intro e he d' hd'
    rw [List.mem_singleton.1 hd']
    exact hlayout e he

theorem Apart.of_append {before ds : List DynamicColumn} (h : Apart statics (before ++ ds)) :
    Apart statics before where
  names := (List.append_assoc .. ▸ List.map_append ▸ h.names).of_append_left
  open_families := (List.map_append ▸ List.filter_append .. ▸ h.open_families).of_append_left
  layouts := (List.pairwise_append.1 h.layouts).1

theorem dynamicsFault?_eq_none_iff {before ds : List DynamicColumn} (h : Apart statics before) :
    dynamicsFault? statics before ds = none ↔
      (∀ d ∈ ds, OwnValid d) ∧ Apart statics (before ++ ds) := by
  induction ds generalizing before with
  | nil => simpa [dynamicsFault?] using h
  | cons d ds ih =>
      have hd : dynamicFault? statics before d = none ↔
          OwnValid d ∧ Apart statics (before ++ [d]) := by
        rw [dynamicFault?_eq_none_iff, apart_concat, and_iff_right h]
      rw [List.append_cons, List.forall_mem_cons, dynamicsFault?_cons, hd]
      constructor
      · rintro ⟨⟨hown, hfirst⟩, hds⟩
        exact ⟨⟨hown, ((ih hfirst).1 hds).1⟩, ((ih hfirst).1 hds).2⟩
      · rintro ⟨⟨hown, hds⟩, hall⟩
        exact ⟨⟨hown, hall.of_append⟩, (ih hall.of_append).2 ⟨hds, hall⟩⟩

theorem component?_eq_none_iff {name : String} :
    rowKey.component? name = none ↔ ∀ p ∈ rowKey.parts, p.isSalt = false → p.name ≠ name := by
  simp [RowKey.Spec.component?, RowKey.Spec.components]

theorem layoutFault?_eq_none_iff {layout : Layout} :
    layoutFault? rowKey layout = none ↔ ∀ name ∈ layout.parts, name ≠ Layout.skipped →
      ∀ p ∈ rowKey.parts, p.isSalt = false → p.name ≠ name := by
  simp [layoutFault?, Layout.shownNames, component?_eq_none_iff]

theorem layoutFault?_of_first (schema : Schema) :
    schema.layout?.bind (layoutFault? schema.rowKey) = none ↔
      ∀ d, schema.dynamics.head? = some d → layoutFault? schema.rowKey d.layout = none := by
  cases h : schema.dynamics <;> simp [layout?, h]

theorem fault?_eq_none_iff :
    fault? ⟨rowKey, statics, dynamics⟩ = none ↔ Valid rowKey statics dynamics := by
  have hsteps : fault? ⟨rowKey, statics, dynamics⟩ = none ↔ staticsFault? [] statics = none ∧
      dynamicsFault? statics [] dynamics = none ∧
        ∀ d, dynamics.head? = some d → layoutFault? rowKey d.layout = none := by
    rw [fault?, ← layoutFault?_of_first ⟨rowKey, statics, dynamics⟩]
    cases staticsFault? [] statics <;> cases dynamicsFault? statics [] dynamics <;> simp
  have hstart (hn : (statics.map (·.columnName)).Nodup) : Apart statics [] :=
    ⟨by simpa using hn, List.nodup_nil, .nil⟩
  have hstatics : staticsFault? [] statics = none ↔ (∀ c ∈ statics, c.family ≠ "" ∧ c.name ≠ "") ∧
      (statics.map (·.address)).Nodup ∧ (statics.map (·.columnName)).Nodup :=
    staticsFault?_eq_none_iff List.nodup_nil List.nodup_nil
  rw [hsteps, hstatics]
  constructor
  · rintro ⟨⟨hnamed, haddresses, hnames⟩, hd, hlayout⟩
    obtain ⟨hown, happart⟩ := (dynamicsFault?_eq_none_iff (hstart hnames)).1 hd
    have hsymm : Std.Symm fun e d : DynamicColumn => e.layout = d.layout :=
      ⟨fun _ _ h => h.symm⟩
    have hone : ∀ d ∈ dynamics, ∀ e ∈ dynamics, d.layout = e.layout :=
      happart.layouts.forall_of_forall fun _ _ => rfl
    refine ⟨hnamed, fun d hd => (hown d hd).named, haddresses, happart.names,
      fun d hd => (hown d hd).one_fixed_part, happart.open_families, hone,
      fun d hd => (hown d hd).has_parts, fun d hd => (hown d hd).has_separator, ?_⟩
    intro d hd
    obtain ⟨e, es, rfl⟩ := List.exists_cons_of_ne_nil (List.ne_nil_of_mem hd)
    rw [hone d hd e List.mem_cons_self]
    exact layoutFault?_eq_none_iff.1 (hlayout e rfl)
  · intro h
    have hnames := h.names_apart.of_append_left
    refine ⟨⟨h.statics_named, h.addresses_apart, hnames⟩,
      (dynamicsFault?_eq_none_iff (hstart hnames)).2 ⟨?_, ?_⟩, ?_⟩
    · intro d hd
      exact ⟨h.dynamics_named d hd, h.one_fixed_part d hd, h.has_parts d hd, h.has_separator d hd⟩
    · exact ⟨h.names_apart, h.one_open, List.pairwise_of_forall_mem_list h.one_layout⟩
    · intro d hd
      exact layoutFault?_eq_none_iff.2 (h.shown_apart d (List.mem_of_mem_head? hd))

theorem make_eq_ok_iff {schema : Schema} :
    make rowKey statics dynamics = .ok schema ↔
      schema = ⟨rowKey, statics, dynamics⟩ ∧ Valid rowKey statics dynamics := by
  rw [make, ← fault?_eq_none_iff]
  cases fault? ⟨rowKey, statics, dynamics⟩ with
  | some f => exact iff_of_false nofun fun h => nomatch h.2
  | none => simp [eq_comm]

/-- Which columns make a schema. Columns that do not are refused by a fault of validation, and the
order in which static or dynamic columns are added has no part in it. -/
theorem make_of_valid (rowKey : RowKey.Spec) (statics : List StaticColumn)
    (dynamics : List DynamicColumn) :
    ((∃ schema, make rowKey statics dynamics = .ok schema) ↔ Valid rowKey statics dynamics) ∧
      (∀ f, make rowKey statics dynamics = .error f → f.error.kind = .validation) ∧
        ∀ statics' dynamics', statics.Perm statics' → dynamics.Perm dynamics' →
          ((∃ schema, make rowKey statics dynamics = .ok schema) ↔
            ∃ schema, make rowKey statics' dynamics' = .ok schema) := by
  have hvalid (statics : List StaticColumn) (dynamics : List DynamicColumn) :
      (∃ schema, make rowKey statics dynamics = .ok schema) ↔ Valid rowKey statics dynamics := by
    simp only [make_eq_ok_iff, exists_eq_left]
  refine ⟨hvalid statics dynamics, fun f _ => rfl, ?_⟩
  intro statics' dynamics' hs hd
  rw [hvalid, hvalid]
  exact ⟨fun h => h.perm hs hd, fun h => h.perm hs.symm hd.symm⟩

private def accountKey : RowKey.Spec := ⟨"|", [⟨"id", .plain, .string⟩]⟩

private def accountColumn (name : String) : StaticColumn :=
  ⟨"D", Text.Utf8.encode name, name, .string⟩

private def accountLines (lead : String) : DynamicColumn :=
  ⟨"D", lead, lead, "", ⟨["line"], none⟩, .string⟩

theorem reversed_columns_made :
    (∃ schema, make accountKey [accountColumn "SR1", accountColumn "SR2"]
      [accountLines "RC", accountLines "RD"] = .ok schema) ∧
    ∃ schema, make accountKey [accountColumn "SR2", accountColumn "SR1"]
      [accountLines "RD", accountLines "RC"] = .ok schema := by
  have hmade : ∃ schema, make accountKey [accountColumn "SR1", accountColumn "SR2"]
      [accountLines "RC", accountLines "RD"] = .ok schema := ⟨_, rfl⟩
  obtain ⟨_, _, hperm⟩ := make_of_valid accountKey [accountColumn "SR1", accountColumn "SR2"]
    [accountLines "RC", accountLines "RD"]
  exact ⟨hmade, (hperm _ _ (.swap ..) (.swap ..)).1 hmade⟩

end WideRow.Schema
