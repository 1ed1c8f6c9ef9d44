import WideRow.Proofs.GroupIds
import WideRow.Proofs.Prevailing

namespace WideRow

section Lists

variable {α : Type} {c : α} {xs ys zs sep : List α}

theorem isSuffix_of_append_cons (hc : c ∉ xs) (h : xs <:+ ys ++ c :: zs) : xs <:+ zs := by
  apply List.reverse_prefix.1
  have hrev : xs.reverse <+: zs.reverse ++ c :: ys.reverse := by
    simpa using List.reverse_prefix.2 h
  exact Text.isPrefix_of_append_cons (List.mem_reverse.not.2 hc) hrev

theorem isInfix_of_replicate_append (hsep : sep ≠ []) (hc : c ∉ sep) {n : Nat}
    (h : sep <:+: List.replicate n c ++ ys) : sep <:+: ys := by
  induction n with
  | zero => exact h
  | succ n ih =>
      rcases List.infix_cons_iff.1 h with h | h
      · obtain ⟨s, ss, rfl⟩ := List.exists_cons_of_ne_nil hsep
        obtain ⟨rfl, _⟩ := List.cons_prefix_cons.1 h
        exact absurd List.mem_cons_self hc
      · exact ih h

theorem clear_replicate (hsep : sep ≠ []) (hc : c ∉ sep) (n : Nat) :
    Text.Clear sep (List.replicate n c) := by
  intro h
  have hle := (isInfix_of_replicate_append hsep hc h).length_le
  have hlen := List.length_pos_iff.2 hsep
  rw [List.length_dropLast] at hle
  omega

theorem eq_or_sublist {a b : α} (ha : a ∈ xs) (hb : b ∈ xs) :
    a = b ∨ [a, b].Sublist xs ∨ [b, a].Sublist xs := by
  induction xs with
  | nil => cases ha
  | cons x xs ih =>
      rcases List.mem_cons.1 ha with rfl | ha'
      · rcases List.mem_cons.1 hb with rfl | hb'
        · exact .inl rfl
        · exact .inr (.inl ((List.singleton_sublist.2 hb').cons_cons _))
      · rcases List.mem_cons.1 hb with rfl | hb'
        · exact .inr (.inr ((List.singleton_sublist.2 ha').cons_cons _))
        · exact (ih ha' hb').imp_right (Or.imp (·.cons _) (·.cons _))

end Lists

namespace Layout

variable {layout : Layout} {c : Char}

/-- The id of as many components as the layout has parts, each of them a run of one character. -/
def runs (layout : Layout) (c : Char) (n : Nat) : String :=
  layout.join (List.replicate layout.parts.length (String.ofList (List.replicate n c)))

theorem split?_runs (hparts : layout.parts ≠ [])
    (hsep : 1 < layout.parts.length → layout.separatorText ≠ "")
    (hc : c ∉ layout.separatorText.toList) (n : Nat) :
    (layout.split? (layout.runs c n)).isSome := by
  rw [isSome_split?_iff]
  by_cases hempty : layout.separatorText = ""
  · have hpos := List.length_pos_iff.2 hparts
    have hone := mt hsep (not_not.2 hempty)
    rw [hempty, Text.split_without_separator, List.length_singleton]
    omega
  · have hne : layout.separatorText.toList ≠ [] := by simpa using hempty
    have hclear : Text.Clear layout.separatorText.toList (List.replicate n c) :=
      clear_replicate hne hc n
    rw [runs, join, (Text.split_join_iff hempty ?_ ?_).2 ?_, List.length_replicate]
    · simpa using hparts
    · intro v hv
      rw [List.eq_of_mem_replicate hv, Bool.eq_false_iff, ne_eq, Text.holds_iff,
        String.toList_ofList]
      exact fun h => hclear.not_isInfix h.2
    · intro v hv
      rw [List.eq_of_mem_replicate (List.dropLast_subset _ hv), String.toList_ofList]
      exact hclear

theorem toList_runs (layout : Layout) (c : Char) (n : Nat) :
    (layout.runs c n).toList = layout.separatorText.toList.intercalate
      (List.replicate layout.parts.length (List.replicate n c)) := by
  rw [runs, join, Text.toList_join, List.map_replicate, String.toList_ofList]

theorem isPrefix_intercalate {α : Type} (sep x : List α) (xs : List (List α)) :
    x <+: sep.intercalate (x :: xs) := by
  by_cases hxs : xs = []
  · simp [hxs]
  · rw [List.intercalate_cons_of_ne_nil hxs, List.append_assoc]
    exact List.prefix_append x _

theorem isSuffix_intercalate {α : Type} (sep x : List α) (xs : List (List α)) :
    x <:+ sep.intercalate (xs ++ [x]) := by
  induction xs with
  | nil => simp
  | cons y xs ih =>
      rw [List.cons_append, List.intercalate_cons_of_ne_nil (by simp)]
      exact ih.trans (List.suffix_append _ _)

theorem runs_within (hparts : layout.parts ≠ []) (n : Nat) :
    List.replicate n c <+: (layout.runs c n).toList ∧
      List.replicate n c <:+ (layout.runs c n).toList := by
  obtain ⟨m, hm⟩ := Nat.exists_eq_add_one_of_ne_zero (mt List.length_eq_zero_iff.1 hparts)
  rw [toList_runs, hm]
  constructor
  · rw [List.replicate_succ]
    exact isPrefix_intercalate _ _ _
  · rw [List.replicate_succ']
    exact isSuffix_intercalate _ _ _

end Layout

namespace DynamicColumn

variable {d e : DynamicColumn} {c : Char} {g : String}

def Lacks (d : DynamicColumn) (c : Char) : Prop := c ∉ d.lead.toList ∧ c ∉ d.trail.toList

instance : Decidable (d.Lacks c) :=
  inferInstanceAs (Decidable (c ∉ d.lead.toList ∧ c ∉ d.trail.toList))

/-- The fixed parts of the column are the front and the end of those of another one. -/
def Within (e d : DynamicColumn) : Prop := (∃ s, e.lead ++ s = d.lead) ∧ ∃ s, s ++ e.trail = d.trail

theorem fixedLength_eq (hd : d.lead.isEmpty ∨ d.trail.isEmpty) :
    d.fixedLength = d.leadBytes.length + d.trailBytes.length := by
  by_cases ht : d.trail = ""
  · simp [fixedLength, isTrailing, trailBytes, ht, Text.Utf8.encode]
  · have hl : d.lead = "" := by simpa [ht] using hd
    simp [fixedLength, isTrailing, leadBytes, ht, hl, Text.Utf8.encode]

/-- A column that fits what another one makes of a group that begins and ends with a character that
the column lacks is within the other one. -/
theorem within_of_fits (he : e.Lacks c) (hpre : [c] <+: g.toList) (hsuf : [c] <:+ g.toList)
    (hfits : e.Fits (d.qualifierOf g)) : e.Within d := by
  obtain ⟨part, _, hq⟩ := hfits
  have hmade : d.qualifierOf g = Text.Utf8.encode (d.lead ++ g ++ d.trail) := by
    rw [Text.Utf8.encode_append, Text.Utf8.encode_append]
    rfl
  obtain ⟨x, rfl⟩ := isText_fixed_iff.1 (hq ▸ hmade ▸ Text.Utf8.isText_encode _)
  have hchars : e.lead.toList ++ x.toList ++ e.trail.toList =
      d.lead.toList ++ g.toList ++ d.trail.toList := by
    rw [← String.toList_append, ← String.toList_append, ← String.toList_append,
      ← String.toList_append]
    congr 1
    apply Text.Utf8.encode_inj
    rw [Text.Utf8.encode_append, Text.Utf8.encode_append, ← hmade]
    exact hq
  constructor
  · obtain ⟨rest, hrest⟩ := hpre
    have hlead : e.lead.toList <+: d.lead.toList := by
      have hfront : e.lead.toList <+: d.lead.toList ++ c :: (rest ++ d.trail.toList) := by
        refine ⟨x.toList ++ e.trail.toList, ?_⟩
        rw [← List.append_assoc, hchars, ← hrest]
        simp
      exact Text.isPrefix_of_append_cons he.1 hfront
    obtain ⟨s, hs⟩ := hlead
    exact ⟨String.ofList s, String.toList_inj.1 (by simpa using hs)⟩
  · obtain ⟨front, hfront⟩ := hsuf
    have htrail : e.trail.toList <:+ d.trail.toList := by
      have hend : e.trail.toList <:+ d.lead.toList ++ front ++ c :: d.trail.toList := by
        refine ⟨e.lead.toList ++ x.toList, ?_⟩
        rw [hchars, ← hfront]
        simp
      exact isSuffix_of_append_cons he.2 hend
    obtain ⟨s, hs⟩ := htrail
    exact ⟨String.ofList s, String.toList_inj.1 (by simpa using hs)⟩

theorem Within.fixedLength (h : e.Within d) (hd : d.lead.isEmpty ∨ d.trail.isEmpty)
    (he : e.lead.isEmpty ∨ e.trail.isEmpty) :
    e.fixedLength ≤ d.fixedLength ∧
      (e.fixedLength = d.fixedLength → e.lead = d.lead ∧ e.trail = d.trail) := by
  obtain ⟨⟨s, hs⟩, t, ht⟩ := h
  have hlead : d.leadBytes.length = e.leadBytes.length + (Text.Utf8.encode s).length := by
    rw [leadBytes, ← hs, Text.Utf8.encode_append, List.length_append]
    rfl
  have htrail : d.trailBytes.length = (Text.Utf8.encode t).length + e.trailBytes.length := by
    rw [trailBytes, ← ht, Text.Utf8.encode_append, List.length_append]
    rfl
  rw [fixedLength_eq hd, fixedLength_eq he, hlead, htrail]
  refine ⟨by omega, ?_⟩
  intro hlen
  have hnil {u : String} (hu : (Text.Utf8.encode u).length = 0) : u = "" :=
    Text.Utf8.encode_eq_nil_iff.1 (List.length_eq_zero_iff.1 hu)
  rw [hnil (u := s) (by omega), String.append_empty] at hs
  rw [hnil (u := t) (by omega), String.empty_append] at ht
  exact ⟨hs, ht⟩

end DynamicColumn

namespace Schema

variable {schema : Schema} {d e : DynamicColumn} {c : Char} {g : String}

structure Shadows (schema : Schema) (e d : DynamicColumn) : Prop where
  before : [e, d].Sublist schema.dynamics
  family : e.family = d.family
  lead : e.lead = d.lead
  trail : e.trail = d.trail

theorem shadows_iff : schema.Shadows e d ↔ [e, d].Sublist schema.dynamics ∧
    e.family = d.family ∧ e.lead = d.lead ∧ e.trail = d.trail :=
  ⟨fun h => ⟨h.before, h.family, h.lead, h.trail⟩, fun ⟨hb, hf, hl, ht⟩ => ⟨hb, hf, hl, ht⟩⟩

instance : Decidable (schema.Shadows e d) := decidable_of_iff _ shadows_iff.symm

theorem Shadows.declared (h : schema.Shadows e d) : e ∈ schema.dynamics :=
  h.before.subset List.mem_cons_self

theorem not_unsurpassed_of_shadows (hn : schema.dynamics.Nodup) (h : schema.Shadows e d)
    (hg : g ≠ noGroup) : ¬ schema.Unsurpassed (d.addressOf g) d := by
  intro hd
  have hfits : e.Fits (d.qualifierOf g) := by
    have hsame : e.qualifierOf g = d.qualifierOf g := by
      rw [DynamicColumn.qualifierOf, DynamicColumn.leadBytes, DynamicColumn.trailBytes, h.lead,
        h.trail]
      rfl
    exact hsame ▸ DynamicColumn.fits_qualifierOf hg
  have htrailing : e.isTrailing = d.isTrailing := by
    rw [DynamicColumn.isTrailing, DynamicColumn.isTrailing, h.trail]
  have hlen : e.fixedLength = d.fixedLength := by
    rw [DynamicColumn.fixedLength, DynamicColumn.fixedLength, htrailing,
      DynamicColumn.leadBytes, DynamicColumn.leadBytes, DynamicColumn.trailBytes,
      DynamicColumn.trailBytes, h.lead, h.trail]
  rcases hd.first e h.declared h.family hfits hlen with rfl | hbefore
  · exact List.not_nodup_pair _ (h.before.nodup hn)
  · exact hbefore.asymm hn (.inr ⟨htrailing, h.before⟩)

theorem unsurpassed_of_lacks (hs : schema.Sound) (hd : d ∈ schema.dynamics)
    (hfirst : ∀ e, ¬ schema.Shadows e d)
    (hlacks : ∀ e ∈ schema.dynamics, e.family = d.family → e.Lacks c)
    (hpre : [c] <+: g.toList) (hsuf : [c] <:+ g.toList) :
    schema.Unsurpassed (d.addressOf g) d := by
  have hwithin (e : DynamicColumn) (he : e ∈ schema.dynamics) (hf : e.family = d.family)
      (hfits : e.Fits (d.qualifierOf g)) :=
    (DynamicColumn.within_of_fits (hlacks e he hf) hpre hsuf hfits).fixedLength
      (hs.one_fixed_part d hd) (hs.one_fixed_part e he)
  constructor
  · intro e he hf hfits
    exact (hwithin e he hf hfits).1
  · intro e he hf hfits hlen
    obtain ⟨hlead, htrail⟩ := (hwithin e he hf hfits).2 hlen
    rcases eq_or_sublist hd he with rfl | hde | hed
    · exact .inl rfl
    · refine .inr (.inr ⟨?_, hde⟩)
      rw [DynamicColumn.isTrailing, DynamicColumn.isTrailing, htrail]
    · exact absurd ⟨hed, hf, hlead, htrail⟩ (hfirst e)

theorem exists_length_lt (statics : List StaticColumn) :
    ∃ n, ∀ c ∈ statics, c.qualifier.length < n := by
  induction statics with
  | nil => exact ⟨0, nofun⟩
  | cons c cs ih =>
      obtain ⟨n, hn⟩ := ih
      refine ⟨max n (c.qualifier.length + 1), ?_⟩
      intro b hb
      rcases List.mem_cons.1 hb with rfl | hb
      · omega
      · have hlt := hn b hb
        omega

theorem length_le_encode (cs : List Char) :
    cs.length ≤ (cs.flatMap String.utf8EncodeChar).length := by
  induction cs with
  | nil => exact Nat.le_refl 0
  | cons c cs ih =>
      have hpos := List.length_pos_iff.2 (String.utf8EncodeChar_ne_nil (c := c))
      rw [List.flatMap_cons, List.length_append, List.length_cons]
      omega

theorem length_le_qualifierOf {n : Nat} (h : List.replicate n c <+: g.toList) :
    n ≤ (d.qualifierOf g).length := by
  have hn := h.length_le
  have hg := length_le_encode g.toList
  rw [List.length_replicate] at hn
  rw [DynamicColumn.qualifierOf, List.length_append, List.length_append, Text.Utf8.encode]
  omega

/-- Which dynamic columns a value can reach. None reaches a column in the shadow of another one.
Every other column has a group of its own, if there is a character left that is in no fixed part of
its family and not in the separator. -/
theorem reached_unless_shadowed {rowKey : RowKey.Spec} {statics : List StaticColumn}
    {dynamics : List DynamicColumn} (h : make rowKey statics dynamics = .ok schema)
    (hd : d ∈ schema.dynamics) :
    ((∃ e, schema.Shadows e d) → ∀ g, schema.reading? (d.addressOf g) ≠ some (.dynamic d g)) ∧
      ((∀ e, ¬ schema.Shadows e d) →
        (∃ c, c ∉ d.layout.separatorText.toList ∧
          ∀ e ∈ schema.dynamics, e.family = d.family → e.Lacks c) →
        ∃ g, g ≠ noGroup ∧ (d.layout.split? g).isSome ∧
          schema.reading? (d.addressOf g) = some (.dynamic d g)) := by
  have hs := sound_of_make h
  have hn := nodup_dynamics_of_make h
  have hvalid := valid_of_make h
  constructor
  · rintro ⟨e, he⟩ g hread
    obtain ⟨_, hprevails, hg, _⟩ := (dynamic_iff hs hn).1 hread
    exact not_unsurpassed_of_shadows hn he hg hprevails.unsurpassed
  · rintro hfirst ⟨c, hsep, hlacks⟩
    have hparts := hvalid.has_parts d hd
    obtain ⟨n, hshort⟩ := exists_length_lt schema.statics
    obtain ⟨hpre, hsuf⟩ := Layout.runs_within (c := c) hparts (n + 1)
    have hbegins : [c] <+: (d.layout.runs c (n + 1)).toList :=
      .trans (List.prefix_append [c] _) (List.replicate_succ (n := n) ▸ hpre)
    have hends : [c] <:+ (d.layout.runs c (n + 1)).toList :=
      .trans (List.suffix_append _ [c]) (List.replicate_succ' (n := n) ▸ hsuf)
    have hg : d.layout.runs c (n + 1) ≠ noGroup := by
      intro hnil
      rw [hnil] at hbegins
      exact absurd (List.prefix_nil.1 hbegins) (List.cons_ne_nil _ _)
    refine ⟨d.layout.runs c (n + 1), hg,
      Layout.split?_runs hparts (hvalid.has_separator d hd) hsep _, ?_⟩
    refine (dynamic_iff hs hn).2 ⟨?_, ⟨hd, rfl, DynamicColumn.fits_qualifierOf hg, ?_⟩, hg, rfl⟩
    · intro a ha haddress
      have hlong := length_le_qualifierOf (d := d) hpre
      have hlen := hshort a ha
      have hq : a.qualifier = d.qualifierOf (d.layout.runs c (n + 1)) :=
        congrArg Address.qualifier haddress
      rw [hq] at hlen
      omega
    · exact unsurpassed_of_lacks hs hd hfirst hlacks hbegins hends

private def measures (name lead trail : String) : DynamicColumn :=
  ⟨"D", name, lead, trail, ⟨["line", "part"], some "--"⟩, .string⟩

private def rival : Schema :=
  ⟨⟨"|", [⟨"id", .plain, .string⟩]⟩, [⟨"D", Text.Utf8.encode "Rx--x", "SR1", .string⟩],
    [measures "ANY" "" "", measures "RC" "RC" "", measures "R" "R" "", measures "END" "" "1",
      measures "AGAIN" "R" ""]⟩

private theorem rival_made :
    make rival.rowKey rival.statics rival.dynamics = .ok rival := rfl

theorem short_lead_reached :
    make rival.rowKey rival.statics rival.dynamics = .ok rival ∧
      measures "R" "R" "" ∈ rival.dynamics ∧
      ∃ g, g ≠ noGroup ∧ ((measures "R" "R" "").layout.split? g).isSome ∧
        rival.reading? ((measures "R" "R" "").addressOf g) =
          some (.dynamic (measures "R" "R" "") g) := by
  have hmem : measures "R" "R" "" ∈ rival.dynamics := by decide
  have hshadows : ∀ e ∈ rival.dynamics, ¬ rival.Shadows e (measures "R" "R" "") := by decide
  have hlacks : ∀ e ∈ rival.dynamics, e.family = "D" → e.Lacks 'x' := by decide
  obtain ⟨_, hreached⟩ := reached_unless_shadowed rival_made hmem
  exact ⟨rival_made, hmem,
    hreached (fun e he => hshadows e he.declared he) ⟨'x', by decide, hlacks⟩⟩

/-- An accepted column that no value reaches, since another one has the same fixed part. -/
theorem repeated_lead_unreached :
    make rival.rowKey rival.statics rival.dynamics = .ok rival ∧
      measures "AGAIN" "R" "" ∈ rival.dynamics ∧
      ¬ ∃ g, g ≠ noGroup ∧ ((measures "AGAIN" "R" "").layout.split? g).isSome ∧
        rival.reading? ((measures "AGAIN" "R" "").addressOf g) =
          some (.dynamic (measures "AGAIN" "R" "") g) := by
  refine ⟨rival_made, by decide, ?_⟩
  rintro ⟨g, hg, _, hread⟩
  have hn := nodup_dynamics_of_make rival_made
  have hshadows : rival.Shadows (measures "R" "R" "") (measures "AGAIN" "R" "") := by decide
  have hprevails := ((dynamic_iff (sound_of_make rival_made) hn).1 hread).2.1
  exact not_unsurpassed_of_shadows hn hshadows hg hprevails.unsurpassed

end Schema

end WideRow
