import WideRow.Proofs.Reading
import WideRow.Proofs.WrittenText

namespace WideRow

namespace DynamicColumn

variable {d : DynamicColumn} {q part : Bytes}

def Fits (d : DynamicColumn) (q : Bytes) : Prop :=
  ∃ part, part ≠ [] ∧ d.leadBytes ++ part ++ d.trailBytes = q

theorem fits_iff (hd : d.lead.isEmpty ∨ d.trail.isEmpty) : d.Fits q ↔ d.reads q := by
  constructor
  · rintro ⟨part, hpart, rfl⟩
    exact reads_append hpart
  · intro h
    exact ⟨d.groupPart q, groupPart_ne_nil hd h, fixed_groupPart_of_reads hd h⟩

theorem fits_qualifierOf {g : String} (hg : g ≠ noGroup) : d.Fits (d.qualifierOf g) :=
  ⟨Text.Utf8.encode g, fun hnil => hg (Text.Utf8.encode_eq_nil_iff.1 hnil), rfl⟩

theorem isText_fixed_iff :
    Text.Utf8.IsText (d.leadBytes ++ part ++ d.trailBytes) ↔ Text.Utf8.IsText part := by
  have hlead : Text.Utf8.IsText d.leadBytes := Text.Utf8.isText_encode d.lead
  have htrail : Text.Utf8.IsText d.trailBytes := Text.Utf8.isText_encode d.trail
  constructor
  · intro h
    exact hlead.of_append_right (htrail.of_append_left h)
  · intro h
    exact (hlead.append h).append htrail

end DynamicColumn

namespace Schema

def Before (schema : Schema) (d e : DynamicColumn) : Prop :=
  (d.isTrailing = false ∧ e.isTrailing = true) ∨
    (d.isTrailing = e.isTrailing ∧ [d, e].Sublist schema.dynamics)

/-- No column that fits has a longer fixed part, and of those with one as long this is the first. -/
structure Unsurpassed (schema : Schema) (a : Address) (d : DynamicColumn) : Prop where
  longest : ∀ e ∈ schema.dynamics, e.family = a.family → e.Fits a.qualifier →
    e.fixedLength ≤ d.fixedLength
  first : ∀ e ∈ schema.dynamics, e.family = a.family → e.Fits a.qualifier →
    e.fixedLength = d.fixedLength → e = d ∨ schema.Before d e

structure Prevails (schema : Schema) (a : Address) (d : DynamicColumn) : Prop where
  declared : d ∈ schema.dynamics
  family : d.family = a.family
  fits : d.Fits a.qualifier
  unsurpassed : schema.Unsurpassed a d

variable {schema : Schema} {a : Address} {d e : DynamicColumn}

theorem mem_readers_iff_fits (hs : schema.Sound) :
    d ∈ schema.readers a ↔ d ∈ schema.dynamics ∧ d.family = a.family ∧ d.Fits a.qualifier := by
  rw [mem_readers]
  constructor
  · rintro ⟨hd, hf, hreads⟩
    exact ⟨hd, hf, (DynamicColumn.fits_iff (hs.one_fixed_part d hd)).2 hreads⟩
  · rintro ⟨hd, hf, hfits⟩
    exact ⟨hd, hf, (DynamicColumn.fits_iff (hs.one_fixed_part d hd)).1 hfits⟩

theorem pairwise_before (schema : Schema) (a : Address) :
    (schema.readers a).Pairwise schema.Before := by
  have hdeclared : schema.dynamics.Pairwise fun d e => [d, e].Sublist schema.dynamics :=
    List.pairwise_iff_forall_sublist.2 id
  have hfound := hdeclared.filter fun d => d.family == a.family && d.reads a.qualifier
  rw [readers, List.pairwise_append]
  refine ⟨(hfound.filter _).imp_of_mem ?_, (hfound.filter _).imp_of_mem ?_, ?_⟩
  · intro d e hd he h
    have hd : d.isTrailing = false := by simpa using (List.mem_filter.1 hd).2
    have he : e.isTrailing = false := by simpa using (List.mem_filter.1 he).2
    exact .inr ⟨hd.trans he.symm, h⟩
  · intro d e hd he h
    have hd : d.isTrailing = true := (List.mem_filter.1 hd).2
    have he : e.isTrailing = true := (List.mem_filter.1 he).2
    exact .inr ⟨hd.trans he.symm, h⟩
  · intro d hd e he
    have hd : d.isTrailing = false := by simpa using (List.mem_filter.1 hd).2
    exact .inl ⟨hd, (List.mem_filter.1 he).2⟩

theorem not_sublist_swap {ds : List DynamicColumn} (h : ds.Nodup) (hde : [d, e].Sublist ds) :
    ¬ [e, d].Sublist ds := by
  induction ds with
  | nil => cases hde
  | cons x xs ih =>
      obtain ⟨hx, hxs⟩ := List.nodup_cons.1 h
      intro hed
      cases hde with
      | cons _ hde =>
          cases hed with
          | cons _ hed => exact ih hxs hde hed
          | cons_cons _ hed => exact hx (hde.subset (List.mem_cons_of_mem d List.mem_cons_self))
      | cons_cons _ hde =>
          cases hed with
          | cons _ hed => exact hx (hed.subset (List.mem_cons_of_mem e List.mem_cons_self))
          | cons_cons _ hed => exact hx (hed.subset List.mem_cons_self)

theorem Before.asymm (hn : schema.dynamics.Nodup) (h : schema.Before d e) :
    ¬ schema.Before e d := by
  rintro (⟨he, hd⟩ | ⟨hed, hback⟩)
  · rcases h with ⟨hd', _⟩ | ⟨hde, _⟩
    · exact Bool.false_ne_true (hd'.symm.trans hd)
    · exact Bool.false_ne_true (he.symm.trans (hde.symm.trans hd))
  · rcases h with ⟨hd, he⟩ | ⟨_, hforth⟩
    · exact Bool.false_ne_true (hd.symm.trans (hed.symm.trans he))
    · exact not_sublist_swap hn hforth hback

theorem prevails_of_longest (hs : schema.Sound) (h : longest (schema.readers a) = some d) :
    schema.Prevails a d := by
  have hmem {e : DynamicColumn} := mem_readers_iff_fits (a := a) (d := e) hs
  obtain ⟨hd, hfamily, hfits⟩ := hmem.1 (mem_of_longest h)
  refine ⟨hd, hfamily, hfits, ?_, ?_⟩
  · intro e he hf hfits
    exact fixedLength_le_of_longest h (hmem.2 ⟨he, hf, hfits⟩)
  · intro e he hf hfits hlen
    have hread := hmem.2 ⟨he, hf, hfits⟩
    obtain ⟨before, after, hsplit, hshorter, _⟩ := exists_of_longest h
    have hordered := pairwise_before schema a
    rw [hsplit] at hread hordered
    rcases List.mem_append.1 hread with hread | hread
    · have hlt := hshorter e hread
      omega
    · rcases List.mem_cons.1 hread with rfl | hread
      · exact .inl rfl
      · exact .inr ((List.pairwise_cons.1 (List.pairwise_append.1 hordered).2.1).1 e hread)

theorem Prevails.unique (hn : schema.dynamics.Nodup) (hd : schema.Prevails a d)
    (he : schema.Prevails a e) : d = e := by
  have hde := hd.unsurpassed.longest e he.declared he.family he.fits
  have hed := he.unsurpassed.longest d hd.declared hd.family hd.fits
  have hlen : e.fixedLength = d.fixedLength := Nat.le_antisymm hde hed
  rcases hd.unsurpassed.first e he.declared he.family he.fits hlen with heq | hbefore
  · exact heq.symm
  · rcases he.unsurpassed.first d hd.declared hd.family hd.fits hlen.symm with heq | hafter
    · exact heq
    · exact absurd hafter (hbefore.asymm hn)

theorem exists_longest (hs : schema.Sound) (hd : d ∈ schema.dynamics) (hf : d.family = a.family)
    (hfits : d.Fits a.qualifier) : ∃ e, longest (schema.readers a) = some e := by
  have hread := (mem_readers_iff_fits hs).2 ⟨hd, hf, hfits⟩
  obtain ⟨e, es, hes⟩ := List.exists_cons_of_ne_nil (List.ne_nil_of_mem hread)
  rw [hes]
  exact Option.ne_none_iff_exists'.1 (longest_cons_ne_none e es)

theorem longest_iff_prevails (hs : schema.Sound) (hn : schema.dynamics.Nodup) :
    longest (schema.readers a) = some d ↔ schema.Prevails a d := by
  refine ⟨prevails_of_longest hs, ?_⟩
  intro h
  obtain ⟨e, he⟩ := exists_longest hs h.declared h.family h.fits
  rw [he, (prevails_of_longest hs he).unique hn h]

theorem static_iff (hs : schema.Sound) {c : StaticColumn} :
    schema.reading? a = some (.static c) ↔ c ∈ schema.statics ∧ c.address = a := by
  refine ⟨static_of_reading?, ?_⟩
  rintro ⟨hc, rfl⟩
  obtain ⟨t, ht⟩ := reading?_address hc
  obtain ⟨hmem, haddress⟩ := static_of_reading? ht
  rw [ht, hs.static_address t hmem c hc haddress]

theorem reading?_of_no_static (h : ∀ c ∈ schema.statics, c.address ≠ a) :
    schema.reading? a = (longest (schema.readers a)).bind fun d =>
      (Text.Utf8.decode? (d.groupPart a.qualifier)).bind fun g => some (.dynamic d g) := by
  have hnone : schema.statics.find? (·.address == a) = none := by simpa using h
  rw [reading?, hnone]
  rfl

theorem dynamic_iff (hs : schema.Sound) (hn : schema.dynamics.Nodup) {g : String} :
    schema.reading? a = some (.dynamic d g) ↔
      (∀ c ∈ schema.statics, c.address ≠ a) ∧ schema.Prevails a d ∧
        g ≠ noGroup ∧ d.qualifierOf g = a.qualifier := by
  constructor
  · intro h
    have hno : ∀ c ∈ schema.statics, c.address ≠ a := by
      intro c hc ha
      cases h.symm.trans ((static_iff hs).2 ⟨hc, ha⟩)
    obtain ⟨_, haddress, hg⟩ := dynamic_of_reading? hs h
    rw [reading?_of_no_static hno] at h
    obtain ⟨e, he, h⟩ := Option.bind_eq_some_iff.1 h
    obtain ⟨g', _, h⟩ := Option.bind_eq_some_iff.1 h
    cases h
    exact ⟨hno, prevails_of_longest hs he, hg, congrArg Address.qualifier haddress⟩
  · rintro ⟨hno, hd, hg, hq⟩
    have hreads := (mem_readers.1 (mem_of_longest ((longest_iff_prevails hs hn).2 hd))).2.2
    have hpart := DynamicColumn.fixed_groupPart_of_reads (hs.one_fixed_part d hd.declared) hreads
    rw [← hq, DynamicColumn.qualifierOf] at hpart
    have hgroup : Text.Utf8.encode g = d.groupPart a.qualifier := by
      rw [← hq]
      exact (List.append_cancel_left (List.append_cancel_right hpart)).symm
    rw [reading?_of_no_static hno, (longest_iff_prevails hs hn).2 hd, Option.bind_some,
      Text.Utf8.decode?_eq_some_iff.2 hgroup, Option.bind_some]

theorem exists_dynamic_iff (hs : schema.Sound) (hn : schema.dynamics.Nodup)
    (hno : ∀ c ∈ schema.statics, c.address ≠ a) :
    (∃ g, schema.reading? a = some (.dynamic d g)) ↔
      Text.Utf8.IsText a.qualifier ∧ schema.Prevails a d := by
  simp only [dynamic_iff hs hn]
  constructor
  · rintro ⟨g, _, hd, _, hq⟩
    rw [← hq]
    exact ⟨DynamicColumn.isText_fixed_iff.2 (Text.Utf8.isText_encode g), hd⟩
  · rintro ⟨htext, hd⟩
    obtain ⟨part, hpart, hq⟩ := hd.fits
    rw [← hq] at htext
    obtain ⟨g, rfl⟩ := DynamicColumn.isText_fixed_iff.1 htext
    refine ⟨g, hno, hd, ?_, hq⟩
    rintro rfl
    exact hpart rfl

/-- What a schema reads a stored column as: the static column that stands there; else the column
that prevails, if the qualifier is a text; else nothing. -/
theorem reading?_iff {rowKey : RowKey.Spec} {statics : List StaticColumn}
    {dynamics : List DynamicColumn} (h : make rowKey statics dynamics = .ok schema) (a : Address) :
    (∀ c, schema.reading? a = some (.static c) ↔
      c ∈ schema.statics ∧ c.family = a.family ∧ c.qualifier = a.qualifier) ∧
    ((∀ c ∈ schema.statics, ¬ (c.family = a.family ∧ c.qualifier = a.qualifier)) →
      (∀ d, (∃ g, schema.reading? a = some (.dynamic d g)) ↔
        Text.Utf8.IsText a.qualifier ∧ schema.Prevails a d) ∧
      (schema.reading? a = none ↔
        (∀ d ∈ schema.dynamics, d.family = a.family → ¬ d.Fits a.qualifier) ∨
          ¬ Text.Utf8.IsText a.qualifier)) := by
  have hs := sound_of_make h
  have hn := nodup_dynamics_of_make h
  have haddress (c : StaticColumn) :
      c.address = a ↔ c.family = a.family ∧ c.qualifier = a.qualifier := by
    cases a
    exact Address.mk.injEq _ _ _ _ ▸ Iff.rfl
  simp only [← haddress]
  refine ⟨fun c => static_iff hs, fun hno => ⟨fun d => exists_dynamic_iff hs hn hno, ?_⟩⟩
  constructor
  · intro hnone
    by_cases htext : Text.Utf8.IsText a.qualifier
    · left
      intro d hd hf hfits
      obtain ⟨e, he⟩ := exists_longest hs hd hf hfits
      obtain ⟨g, hg⟩ := (exists_dynamic_iff hs hn hno).2 ⟨htext, prevails_of_longest hs he⟩
      cases hnone.symm.trans hg
    · exact .inr htext
  · intro hnone
    cases hr : schema.reading? a with
    | none => rfl
    | some r =>
        cases r with
        | static c => exact absurd ((static_iff hs).1 hr).2 (hno c ((static_iff hs).1 hr).1)
        | dynamic d g =>
            obtain ⟨htext, hd⟩ := (exists_dynamic_iff hs hn hno).1 ⟨g, hr⟩
            rcases hnone with hnone | hnone
            · exact absurd hd.fits (hnone d hd.declared hd.family)
            · exact absurd htext hnone

private def ledBy (name lead : String) : DynamicColumn :=
  ⟨"D", name, lead, "", ⟨["line"], none⟩, .string⟩

private def trailedBy (name trail : String) : DynamicColumn :=
  ⟨"D", name, "", trail, ⟨["line"], none⟩, .string⟩

private def overlapping : Schema :=
  ⟨⟨"|", [⟨"id", .plain, .string⟩]⟩, [⟨"D", Text.Utf8.encode "ABZ", "SR1", .string⟩],
    [trailedBy "SUF" "YZ", ledBy "ANY" "", ledBy "PRE" "AB", trailedBy "LONG" "XYZ"]⟩

private theorem overlapping_made :
    make overlapping.rowKey overlapping.statics overlapping.dynamics = .ok overlapping := rfl

/-- Of fixed parts of the same length the one in front counts, though declared later. -/
theorem tie_goes_to_lead :
    make overlapping.rowKey overlapping.statics overlapping.dynamics = .ok overlapping ∧
      overlapping.reading? ⟨"D", Text.Utf8.encode "ABmidYZ"⟩ =
        some (.dynamic (ledBy "PRE" "AB") "midYZ") ∧
      overlapping.Prevails ⟨"D", Text.Utf8.encode "ABmidYZ"⟩ (ledBy "PRE" "AB") ∧
      overlapping.reading? ⟨"D", [0x41, 0x42, 0xFF]⟩ = none ∧
      ((∀ d ∈ overlapping.dynamics, d.family = "D" → ¬ d.Fits [0x41, 0x42, 0xFF]) ∨
        ¬ Text.Utf8.IsText [0x41, 0x42, 0xFF]) := by
  have hread : overlapping.reading? ⟨"D", Text.Utf8.encode "ABmidYZ"⟩ =
      some (.dynamic (ledBy "PRE" "AB") "midYZ") := by decide
  have hnone : overlapping.reading? ⟨"D", [0x41, 0x42, 0xFF]⟩ = none := by decide
  have hlead := ((reading?_iff overlapping_made ⟨"D", Text.Utf8.encode "ABmidYZ"⟩).2 (by decide)).1
  have hbytes := ((reading?_iff overlapping_made ⟨"D", [0x41, 0x42, 0xFF]⟩).2 (by decide)).2
  exact ⟨overlapping_made, hread, ((hlead _).1 ⟨_, hread⟩).2, hnone, hbytes.1 hnone⟩

/-- A column makes the qualifier of a group that it is read in, and what it makes is read in that
group unless another column surpasses it there. -/
theorem reading?_qualifierOf {rowKey : RowKey.Spec} {statics : List StaticColumn}
    {dynamics : List DynamicColumn} (h : make rowKey statics dynamics = .ok schema) :
    (∀ a d g, schema.reading? a = some (.dynamic d g) →
      d ∈ schema.dynamics ∧ d.family = a.family ∧ g ≠ noGroup ∧ d.qualifierOf g = a.qualifier) ∧
    ∀ d ∈ schema.dynamics, ∀ g, g ≠ noGroup →
      (∀ c ∈ schema.statics, ¬ (c.family = d.family ∧ c.qualifier = d.qualifierOf g)) →
        schema.Unsurpassed (d.addressOf g) d →
          schema.reading? ⟨d.family, d.qualifierOf g⟩ = some (.dynamic d g) := by
  have hs := sound_of_make h
  have hn := nodup_dynamics_of_make h
  constructor
  · intro a d g hread
    obtain ⟨_, hd, hg, hq⟩ := (dynamic_iff hs hn).1 hread
    exact ⟨hd.declared, hd.family, hg, hq⟩
  · intro d hd g hg hno hunsurpassed
    refine (dynamic_iff hs hn).2 ⟨?_, ⟨hd, rfl, ?_, hunsurpassed⟩, hg, rfl⟩
    · intro c hc haddress
      exact hno c hc ⟨congrArg Address.family haddress, congrArg Address.qualifier haddress⟩
    · exact DynamicColumn.fits_qualifierOf hg

theorem repeated_lead_read_back :
    make overlapping.rowKey overlapping.statics overlapping.dynamics = .ok overlapping ∧
      overlapping.Unsurpassed ⟨"D", Text.Utf8.encode "ABABx"⟩ (ledBy "PRE" "AB") ∧
      overlapping.reading? ⟨"D", Text.Utf8.encode "ABABx"⟩ =
        some (.dynamic (ledBy "PRE" "AB") "ABx") ∧
      (ledBy "PRE" "AB").qualifierOf "ABx" = Text.Utf8.encode "ABABx" := by
  obtain ⟨hback, hforth⟩ := reading?_qualifierOf overlapping_made
  have hlongest : longest (overlapping.readers ⟨"D", Text.Utf8.encode "ABABx"⟩) =
      some (ledBy "PRE" "AB") := by decide
  have hprevails := prevails_of_longest (sound_of_make overlapping_made) hlongest
  have hread := hforth (ledBy "PRE" "AB") hprevails.declared "ABx" (by decide) (by decide)
    hprevails.unsurpassed
  exact ⟨overlapping_made, hprevails.unsurpassed, hread, (hback _ _ _ hread).2.2.2⟩

end Schema

end WideRow
