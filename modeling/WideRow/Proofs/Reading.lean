import WideRow.ChangeSet
import WideRow.Proofs.BuiltPlan
import WideRow.Proofs.Utf8

namespace WideRow

def Reading.columnName : Reading → ColumnName
  | static c => c.columnName
  | dynamic d _ => d.columnName

namespace DynamicColumn

variable {d : DynamicColumn} {q : Bytes}

theorem fixed_groupPart_of_reads (hd : d.lead.isEmpty ∨ d.trail.isEmpty) (h : d.reads q) :
    d.leadBytes ++ d.groupPart q ++ d.trailBytes = q := by
  simp only [reads, Bool.and_eq_true, decide_eq_true_eq] at h
  obtain ⟨hlen, h⟩ := h
  have empty (s : String) (hs : s.isEmpty) : Text.Utf8.encode s = [] := by
    rw [String.isEmpty_iff.1 hs]
    rfl
  by_cases hl : d.lead.isEmpty
  · have hlead : d.leadBytes = [] := empty _ hl
    by_cases ht : d.trail.isEmpty
    · simp [groupPart, hl, hlead, trailBytes, empty _ ht]
    · obtain ⟨front, rfl⟩ : d.trailBytes <:+ q := by simpa [isTrailing, ht] using h
      simp [groupPart, hl, hlead]
  · have ht : d.trail.isEmpty := hd.resolve_left hl
    have htrail : d.trailBytes = [] := empty _ ht
    obtain ⟨rest, rfl⟩ : d.leadBytes <+: q := by simpa [isTrailing, ht] using h
    simp [groupPart, hl, htrail]

theorem groupPart_ne_nil (hd : d.lead.isEmpty ∨ d.trail.isEmpty) (h : d.reads q) :
    d.groupPart q ≠ [] := by
  intro hnil
  have hq := fixed_groupPart_of_reads hd h
  have hlen : d.fixedLength < q.length := by
    simp only [reads, Bool.and_eq_true, decide_eq_true_eq] at h
    exact h.1
  have empty (s : String) (hs : s.isEmpty) : (Text.Utf8.encode s).length = 0 := by
    rw [String.isEmpty_iff.1 hs]
    rfl
  have hle : q.length ≤ d.fixedLength := by
    rw [← hq, hnil, List.append_nil, List.length_append, fixedLength]
    by_cases ht : d.trail.isEmpty
    · simp [isTrailing, ht, trailBytes, empty _ ht]
    · simp [isTrailing, ht, leadBytes, empty _ (hd.resolve_right ht)]
  omega

/-- The groups of a column have qualifiers of their own. -/
theorem addressOf_inj {g g' : String} (h : d.addressOf g = d.addressOf g') : g = g' := by
  have hq : d.leadBytes ++ Text.Utf8.encode g ++ d.trailBytes =
      d.leadBytes ++ Text.Utf8.encode g' ++ d.trailBytes := congrArg Address.qualifier h
  exact Text.Utf8.encode_inj (List.append_cancel_left (List.append_cancel_right hq))

theorem reads_append {part : Bytes} (h : part ≠ []) :
    d.reads (d.leadBytes ++ part ++ d.trailBytes) := by
  have hlen := List.length_pos_iff.2 h
  simp only [reads, fixedLength, Bool.and_eq_true, decide_eq_true_eq, List.length_append]
  cases d.isTrailing with
  | true =>
      simp only [if_true, List.isSuffixOf_iff_suffix]
      exact ⟨by omega, List.suffix_append _ _⟩
  | false =>
      simp only [Bool.false_eq_true, if_false, List.isPrefixOf_iff_prefix, List.append_assoc]
      exact ⟨by omega, List.prefix_append _ _⟩

theorem reads_qualifierOf {g : String} (hg : g ≠ noGroup) : d.reads (d.qualifierOf g) :=
  reads_append fun hnil => hg (Text.Utf8.encode_inj (hnil.trans rfl))

end DynamicColumn

namespace Schema

variable {schema : Schema} {a : Address}

theorem longest_cons_ne_none (d : DynamicColumn) (ds : List DynamicColumn) :
    longest (d :: ds) ≠ none := by
  rw [longest]
  split
  next => split <;> exact nofun
  next => exact nofun

theorem exists_of_longest {ds : List DynamicColumn} {d : DynamicColumn} (h : longest ds = some d) :
    ∃ before after, ds = before ++ d :: after ∧
      (∀ e ∈ before, e.fixedLength < d.fixedLength) ∧
        ∀ e ∈ after, e.fixedLength ≤ d.fixedLength := by
  induction ds generalizing d with
  | nil => cases h
  | cons e es ih =>
      rw [longest] at h
      cases hes : longest es with
      | none =>
          cases es with
          | nil =>
              rw [hes] at h
              cases h
              exact ⟨[], [], rfl, nofun, nofun⟩
          | cons f fs => exact absurd hes (longest_cons_ne_none f fs)
      | some f =>
          obtain ⟨before, after, rfl, hbefore, hafter⟩ := ih hes
          simp only [hes] at h
          split at h
          next hlt =>
            cases h
            exact ⟨e :: before, after, rfl, List.forall_mem_cons.2 ⟨hlt, hbefore⟩, hafter⟩
          next hle =>
            cases h
            refine ⟨[], before ++ f :: after, rfl, nofun, ?_⟩
            intro x hx
            have hxf : x.fixedLength ≤ f.fixedLength := by
              rcases List.mem_append.1 hx with hx | hx
              · exact Nat.le_of_lt (hbefore x hx)
              · rcases List.mem_cons.1 hx with rfl | hx
                · exact Nat.le_refl _
                · exact hafter x hx
            omega

theorem mem_of_longest {ds : List DynamicColumn} {d : DynamicColumn} (h : longest ds = some d) :
    d ∈ ds := by
  obtain ⟨before, after, rfl, _, _⟩ := exists_of_longest h
  exact List.mem_append_right before List.mem_cons_self

theorem fixedLength_le_of_longest {ds : List DynamicColumn} {d e : DynamicColumn}
    (h : longest ds = some e) (hd : d ∈ ds) : d.fixedLength ≤ e.fixedLength := by
  obtain ⟨before, after, rfl, hbefore, hafter⟩ := exists_of_longest h
  rcases List.mem_append.1 hd with hd | hd
  · exact Nat.le_of_lt (hbefore d hd)
  · rcases List.mem_cons.1 hd with rfl | hd
    · exact Nat.le_refl _
    · exact hafter d hd

theorem mem_readers {d : DynamicColumn} :
    d ∈ schema.readers a ↔ d ∈ schema.dynamics ∧ d.family = a.family ∧ d.reads a.qualifier := by
  simp only [readers, List.mem_append, List.mem_filter, Bool.and_eq_true, beq_iff_eq]
  cases d.isTrailing <;> simp

theorem static_of_reading? {c : StaticColumn} (h : schema.reading? a = some (.static c)) :
    c ∈ schema.statics ∧ c.address = a := by
  rw [reading?] at h
  split at h
  next c' hc =>
    cases h
    exact ⟨List.mem_of_find?_eq_some hc, by simpa using List.find?_some hc⟩
  next =>
    obtain ⟨d, _, h⟩ := Option.bind_eq_some_iff.1 h
    obtain ⟨g, _, h⟩ := Option.bind_eq_some_iff.1 h
    cases h

theorem reading?_address {c : StaticColumn} (h : c ∈ schema.statics) :
    ∃ t, schema.reading? c.address = some (.static t) := by
  obtain ⟨t, ht⟩ : ∃ t, schema.statics.find? (·.address == c.address) = some t := by
    rw [← Option.isSome_iff_exists, List.find?_isSome]
    exact ⟨c, h, beq_self_eq_true _⟩
  exact ⟨t, by rw [reading?, ht]⟩

theorem dynamic_of_reading? (hs : schema.Sound) {d : DynamicColumn} {g : String}
    (h : schema.reading? a = some (.dynamic d g)) :
    d ∈ schema.dynamics ∧ d.addressOf g = a ∧ g ≠ noGroup := by
  rw [reading?] at h
  split at h
  next => cases h
  next =>
    obtain ⟨e, he, h⟩ := Option.bind_eq_some_iff.1 h
    obtain ⟨g', hg, h⟩ := Option.bind_eq_some_iff.1 h
    cases h
    obtain ⟨hmem, hfamily, hreads⟩ := mem_readers.1 (mem_of_longest he)
    have hfixed := hs.one_fixed_part d hmem
    have hpart := Text.Utf8.encode_of_decode? hg
    refine ⟨hmem, ?_, fun hempty => ?_⟩
    · rw [DynamicColumn.addressOf, DynamicColumn.qualifierOf, hpart,
        DynamicColumn.fixed_groupPart_of_reads hfixed hreads, hfamily]
    · subst hempty
      exact DynamicColumn.groupPart_ne_nil hfixed hreads hpart.symm

/-- A column of a group reads as another column only where that one has no shorter fixed part. -/
theorem fixedLength_le_of_reading? {d e : DynamicColumn} {g g' : String} (hd : d ∈ schema.dynamics)
    (hg : g ≠ noGroup) (h : schema.reading? (d.addressOf g) = some (.dynamic e g')) :
    d.fixedLength ≤ e.fixedLength := by
  rw [reading?] at h
  split at h
  next => cases h
  next =>
    obtain ⟨f, hf, h⟩ := Option.bind_eq_some_iff.1 h
    obtain ⟨_, _, h⟩ := Option.bind_eq_some_iff.1 h
    cases h
    exact fixedLength_le_of_longest hf (mem_readers.2 ⟨hd, rfl, DynamicColumn.reads_qualifierOf hg⟩)

theorem place_eq_inGroup_iff {g : String} :
    schema.place a = .inGroup g ↔
      ∃ r, schema.reading? a = some r ∧ r.group = g ∧ (g = noGroup ∨ schema.splits g) := by
  rw [place]
  cases schema.reading? a with
  | none => simp
  | some r =>
      simp only [Option.some.injEq, exists_eq_left']
      split
      next h =>
        have h : r.group = noGroup ∨ schema.splits r.group := by simpa using h
        rw [Placement.inGroup.injEq]
        exact ⟨fun e => ⟨e, e ▸ h⟩, And.left⟩
      next h =>
        have h : ¬(r.group = noGroup ∨ schema.splits r.group) := by simpa using h
        refine ⟨nofun, ?_⟩
        rintro ⟨rfl, h'⟩
        exact absurd h' h

theorem exists_place_of_reading? (h : (schema.reading? a).isSome)
    (hsplits : ∀ g, schema.place a ≠ .unsplit g) : ∃ g, schema.place a = .inGroup g := by
  obtain ⟨r, hr⟩ := Option.isSome_iff_exists.1 h
  simp only [place, hr] at hsplits ⊢
  split
  next => exact ⟨_, rfl⟩
  next hno => exact absurd (if_neg hno) (hsplits r.group)

theorem static?_columnName (hs : schema.Sound) {c : StaticColumn} (hc : c ∈ schema.statics) :
    schema.static? c.columnName = some c := by
  cases hf : schema.static? c.columnName with
  | none => simpa using List.find?_eq_none.1 hf c hc
  | some c' =>
      obtain ⟨hc', hname⟩ := mem_of_static? hf
      rw [hs.static_name c' hc' c hc hname]

theorem dynamic?_columnName (hs : schema.Sound) {d : DynamicColumn} (hd : d ∈ schema.dynamics) :
    schema.static? d.columnName = none ∧ schema.dynamic? d.columnName = some d := by
  constructor
  · cases hf : schema.static? d.columnName with
    | none => rfl
    | some c =>
        obtain ⟨hc, hname⟩ := mem_of_static? hf
        exact absurd hname (hs.name_apart c hc d hd)
  · cases hf : schema.dynamic? d.columnName with
    | none => simpa using List.find?_eq_none.1 hf d hd
    | some d' =>
        obtain ⟨hd', hname⟩ := mem_of_dynamic? hf
        rw [hs.dynamic_name d' hd' d hd hname]

def readsAs (schema : Schema) (name : ColumnName) (group : String) (a : Address) : Bool :=
  (schema.reading? a).any fun r => r.columnName == name && r.group == group

variable {name : ColumnName} {g : String}

theorem readsAs_iff :
    schema.readsAs name g a ↔
      ∃ r, schema.reading? a = some r ∧ r.columnName = name ∧ r.group = g := by
  simp only [readsAs, Option.any_eq_true, Bool.and_eq_true, beq_iff_eq]

theorem static_of_readsAs (hs : schema.Sound) (h : schema.readsAs name noGroup a) :
    ∃ c, schema.static? name = some c ∧ c.address = a := by
  obtain ⟨r, hr, rfl, hg⟩ := readsAs_iff.1 h
  cases r with
  | static c =>
      obtain ⟨hc, ha⟩ := static_of_reading? hr
      exact ⟨c, static?_columnName hs hc, ha⟩
  | dynamic d g => exact absurd hg (dynamic_of_reading? hs hr).2.2

theorem dynamic_of_readsAs (hs : schema.Sound) (hg : g ≠ noGroup) (h : schema.readsAs name g a) :
    ∃ d, schema.static? name = none ∧ schema.dynamic? name = some d ∧ d.addressOf g = a := by
  obtain ⟨r, hr, rfl, rfl⟩ := readsAs_iff.1 h
  cases r with
  | static c => exact absurd rfl hg
  | dynamic d g =>
      obtain ⟨hd, ha, _⟩ := dynamic_of_reading? hs hr
      obtain ⟨hstatic, hdynamic⟩ := dynamic?_columnName hs hd
      exact ⟨d, hstatic, hdynamic, ha⟩

theorem family_of_readsAs (hs : schema.Sound) (h : schema.readsAs name g a) :
    a.family = name.family := by
  obtain ⟨r, hr, rfl, rfl⟩ := readsAs_iff.1 h
  cases r with
  | static c => exact (static_of_reading? hr).2 ▸ rfl
  | dynamic d g => exact (dynamic_of_reading? hs hr).2.1 ▸ rfl

end Schema

end WideRow
