import Mathlib.Data.List.Nodup
import WideRow.Proofs.Completion
import WideRow.Proofs.GroupIds
import WideRow.Proofs.KeptColumns
import WideRow.Proofs.RowKeys
import WideRow.Proofs.RowRecords

namespace WideRow

namespace Json

variable {ms : List (String × Json)} {name : String}

def get? (name : String) : Json → Option Json
  | object ms => ms.lookup name
  | _ => none

theorem lookup_entries (m : SortedMap String Json) (name : String) :
    m.entries.lookup name = m.get? name := by
  obtain ⟨es, hes⟩ := m
  simp only [SortedMap.get?]
  clear hes
  induction es with
  | nil => rfl
  | cons e es ih =>
      rw [List.lookup_cons, List.findSome?_cons, ih]
      by_cases h : name = e.1
      · simp [h, Std.ReflOrd.compare_self]
      · simp [h, beq_eq_false_iff_ne.2 h]

theorem get?_members (ms : List (String × Json)) (name : String) :
    (members ms).get? name = (SortedMap.ofList ms).get? name :=
  lookup_entries _ name

end Json

theorem Record.get?_json (r : Record) : r.json.get? "key" = some (keyJson r.key) := by
  rw [Record.json, Json.get?_members, SortedMap.get?_ofList]
  rfl

theorem DeleteOrder.get?_json (d : DeleteOrder) :
    (d.json.get? "delete").bind (·.get? "key") = some (Record.keyJson (d.key ++ d.keyTail)) := by
  rw [DeleteOrder.json, Json.get?_members, SortedMap.get?_ofList]
  change (Json.members _).get? "key" = _
  rw [Json.get?_members, SortedMap.get?_ofList]
  rfl

namespace RowOutput

variable {plan : Plan} {key : List Field} {cells cells' : List Cell} {g g' : String}
  {ds : List DocumentColumn} {r w w' : Record}

def candidateOf (plan : Plan) (key : List Field) (cells : List Cell) (g : String) : Candidate :=
  if g = noGroup then .ok (RowFields.ofCells plan.schema key cells).base
  else candidateAt plan key cells g

/-- Records that a group makes of a row: its candidate and all that documents make of it, whether
the candidate meets the condition or not. -/
inductive MadeFor (plan : Plan) (key : List Field) (cells : List Cell) (g : String) : Record → Prop
  | candidate {r : Record} (h : candidateOf plan key cells g = .ok r) : MadeFor plan key cells g r
  | spread {r w : Record} {vs : List Record} (h : candidateOf plan key cells g = .ok r)
      (hspread : spread plan r = .ok vs) (hw : w ∈ vs) : MadeFor plan key cells g w

theorem exists_madeFor {out : RowOutput}
    (h : ofFields plan (RowFields.ofCells plan.schema key cells) = .ready out)
    (hw : w ∈ out.records) :
    ∃ g, MadeFor plan key cells g w ∧
      if (RowFields.ofCells plan.schema key cells).groups.isEmpty then g = noGroup
      else g ∈ (RowFields.ofCells plan.schema key cells).groups.keys := by
  rw [ofFields] at h
  split at h
  next => cases h
  next =>
    cases h
    obtain ⟨r, vs, hr, _, hspread, hmem⟩ := exists_spread_of_drain hw
    rw [candidates_ofCells] at hr
    split at hr
    next hempty =>
      refine ⟨noGroup, .spread ?_ hspread hmem, if_pos hempty ▸ rfl⟩
      rw [candidateOf, if_pos rfl, List.mem_singleton.1 hr]
    next hsome =>
      obtain ⟨g, hg, hr⟩ := List.mem_map.1 hr
      refine ⟨g, .spread ?_ hspread hmem, if_neg hsome ▸ hg⟩
      rw [candidateOf, if_neg (ne_noGroup_of_mem_keys hg), hr]

theorem key_of_leads (h : Leads ds r w) : w.key = r.key := by
  induction h with
  | refl => rfl
  | @step d _ r v _ vs hexpand hv _ ih =>
      rw [ih]
      obtain ⟨_, he⟩ | ⟨f, _, _, _, ⟨_, _, he⟩ | ⟨_, he⟩ | ⟨rows, _, _, he⟩⟩ := expand_cases d r <;>
        cases he.symm.trans hexpand
      · rw [List.mem_singleton.1 hv]
      · rw [List.mem_singleton.1 hv]
        rfl
      · obtain ⟨row, _, rfl⟩ := List.mem_map.1 hv
        exact Record.key_addAll _ _

def keyTail? (plan : Plan) (g : String) : Option (List Field) :=
  if g = noGroup then some [] else groupKey? plan g

theorem key_of_candidateOf (h : candidateOf plan key cells g = .ok r) :
    ∃ tail, keyTail? plan g = some tail ∧ r.key = key ++ tail := by
  rw [candidateOf] at h
  rw [keyTail?]
  split at h
  next hg =>
    cases h
    refine ⟨[], if_pos hg, ?_⟩
    rw [RowFields.base, Record.key_addAll, List.append_nil]
    rfl
  next hg =>
    rw [if_neg hg]
    cases hk : groupKey? plan g with
    | none =>
        rw [candidateAt_of_none hk] at h
        cases h
    | some tail =>
        rw [candidateAt_of_some hk] at h
        cases h
        refine ⟨tail, rfl, ?_⟩
        rw [Record.key_addAll, Record.extendKey, RowFields.base, Record.key_addAll]
        rfl

theorem MadeFor.key_eq (h : MadeFor plan key cells g w) :
    ∃ tail, keyTail? plan g = some tail ∧ w.key = key ++ tail := by
  cases h with
  | candidate h => exact key_of_candidateOf h
  | @spread r _ vs h hspread hw =>
      obtain ⟨r', hr', hleads⟩ := exists_leads_of_expandAll hspread hw
      obtain rfl := List.mem_singleton.1 hr'
      obtain ⟨tail, htail, hkey⟩ := key_of_candidateOf h
      exact ⟨tail, htail, (key_of_leads hleads).trans hkey⟩

end RowOutput

section Components

variable {layout : Layout} {key : List Field} {components : List String} {name value g : String}

theorem Record.get?_keyJson_eq_none {fs : List Field} (h : ∀ f ∈ fs, f.name ≠ name) :
    (keyJson fs).get? name = none := by
  have hnone : (fs.map fun f => (f.name, f.json)).filter (·.1 = name) = [] := by
    rw [List.filter_eq_nil_iff]
    rintro _ he
    obtain ⟨f, hf, rfl⟩ := List.mem_map.1 he
    simpa using h f hf
  rw [keyJson, Json.get?_members, SortedMap.get?_ofList, hnone]
  rfl

namespace Layout

theorem keyFields_of_shown (h : skipped ∉ layout.parts) :
    layout.keyFields g components =
      (layout.parts.zip components).map fun e => (Field.key e.1 e.2 .string).grouped g := by
  rw [keyFields, List.filter_eq_self.2]
  rintro ⟨name, value⟩ he
  have hname : name ≠ skipped := fun hskip => h (hskip ▸ (List.of_mem_zip he).1)
  simpa using hname

/-- What stands in an object under the names of the components. -/
def readOff (layout : Layout) (object : Json) : List (Option Json) :=
  layout.parts.map fun name => object.get? name

theorem exists_component (hskip : skipped ∉ layout.parts)
    (hapart : ∀ f ∈ key, f.name ∉ layout.parts) {f : Field}
    (hf : f ∈ key ++ layout.keyFields g components) (hname : f.name ∈ layout.parts) :
    ∃ value, (f.name, value) ∈ layout.parts.zip components ∧ f.json = .text value := by
  rcases List.mem_append.1 hf with hf | hf
  · exact absurd hname (hapart f hf)
  · rw [keyFields_of_shown hskip] at hf
    obtain ⟨⟨name, value⟩, hzip, rfl⟩ := List.mem_map.1 hf
    exact ⟨value, hzip, rfl⟩

theorem get?_keyJson (hskip : skipped ∉ layout.parts) (hnodup : layout.parts.Nodup)
    (hapart : ∀ f ∈ key, f.name ∉ layout.parts)
    (hlength : components.length = layout.parts.length)
    (h : (name, value) ∈ layout.parts.zip components) :
    (Record.keyJson (key ++ layout.keyFields g components)).get? name = some (.text value) := by
  have hname := (List.of_mem_zip h).1
  have hfst := List.map_fst_zip (Nat.le_of_eq hlength.symm)
  rw [Record.keyJson, Json.get?_members, SortedMap.get?_ofList_eq_some_iff]
  · refine List.mem_map.2 ⟨(Field.key name value .string).grouped g, ?_, rfl⟩
    rw [keyFields_of_shown hskip]
    exact List.mem_append_right _ (List.mem_map.2 ⟨_, h, rfl⟩)
  · intro u v hu hv
    obtain ⟨f, hf, he⟩ := List.mem_map.1 hu
    obtain ⟨f', hf', he'⟩ := List.mem_map.1 hv
    obtain ⟨rfl, rfl⟩ := Prod.mk.inj he
    obtain ⟨hsame, rfl⟩ := Prod.mk.inj he'
    obtain ⟨x, hx, hjson⟩ := exists_component hskip hapart hf hname
    obtain ⟨y, hy, hjson'⟩ := exists_component hskip hapart hf' (hsame ▸ hname)
    have hxy := List.inj_on_of_nodup_map (hfst.symm ▸ hnodup) hx hy hsame.symm
    rw [hjson, hjson', (Prod.mk.inj hxy).2]

/-- The components are read off the key object, where each has a name of its own. -/
theorem readOff_keyJson (hskip : skipped ∉ layout.parts) (hnodup : layout.parts.Nodup)
    (hapart : ∀ f ∈ key, f.name ∉ layout.parts)
    (hlength : components.length = layout.parts.length) :
    layout.readOff (Record.keyJson (key ++ layout.keyFields g components)) =
      components.map fun value => some (.text value) := by
  have hget : ∀ e ∈ layout.parts.zip components,
      (Record.keyJson (key ++ layout.keyFields g components)).get? e.1 = some (.text e.2) :=
    fun _ he => get?_keyJson hskip hnodup hapart hlength he
  have hparts : layout.parts = (layout.parts.zip components).map (·.1) :=
    (List.map_fst_zip (Nat.le_of_eq hlength.symm)).symm
  have hvalues : components = (layout.parts.zip components).map (·.2) :=
    (List.map_snd_zip (Nat.le_of_eq hlength)).symm
  calc layout.readOff (Record.keyJson (key ++ layout.keyFields g components))
      = (layout.parts.zip components).map fun e =>
        (Record.keyJson (key ++ layout.keyFields g components)).get? e.1 := by
          conv_lhs => rw [readOff, hparts, List.map_map]
          rfl
    _ = (layout.parts.zip components).map fun e => some (.text e.2) := List.map_congr_left hget
    _ = components.map fun value => some (.text value) := by
          conv_rhs => rw [hvalues, List.map_map]
          rfl

theorem readOff_of_apart (hapart : ∀ f ∈ key, f.name ∉ layout.parts) :
    layout.readOff (Record.keyJson key) = layout.parts.map fun _ => none := by
  refine List.map_congr_left fun name hname => ?_
  exact Record.get?_keyJson_eq_none fun f hf he => hapart f hf (he ▸ hname)

theorem shownNames_eq_parts (h : skipped ∉ layout.parts) : layout.shownNames = layout.parts := by
  rw [shownNames, List.filter_eq_self]
  intro name hname
  have hne : name ≠ skipped := fun hskip => h (hskip ▸ hname)
  simpa using hne

end Layout

end Components

namespace RowOutput

variable {plan : Plan} {key : List Field} {cells cells' : List Cell} {g g' : String}
  {w w' : Record}

theorem name_ne_of_parse {layout : Layout} (hs : plan.schema.Sound)
    (hl : plan.schema.layout? = some layout) {rowKey : Bytes}
    (hkey : plan.schema.rowKey.parse rowKey = .ready key) :
    ∀ f ∈ key, f.name ∉ layout.shownNames := by
  intro f hf hname
  obtain ⟨values, htakes, _, _, _, rfl⟩ := RowKey.Spec.parse_eq_ready_iff.1 hkey
  have hnames := (RowKey.map_fieldsOf htakes.length).2
  have hmem : f.name ∈ plan.schema.rowKey.components.map (·.name) := by
    rw [← hnames]
    exact List.mem_map_of_mem hf
  obtain ⟨p, hp, hpname⟩ := List.mem_map.1 hmem
  have hnone := hs.shown_apart layout hl _ hname
  rw [RowKey.Spec.component?, List.find?_eq_none] at hnone
  exact hnone p hp (by simpa using hpname)

/-- What a group adds to the key can be read off the key object, and nothing where there is no
group. -/
theorem MadeFor.readOff {layout : Layout} (hs : plan.schema.Sound)
    (hl : plan.schema.layout? = some layout) (hskip : Layout.skipped ∉ layout.parts)
    (hnodup : layout.parts.Nodup) {rowKey : Bytes}
    (hkey : plan.schema.rowKey.parse rowKey = .ready key) (h : MadeFor plan key cells g w) :
    (g = noGroup ∧ layout.readOff (Record.keyJson w.key) = layout.parts.map fun _ => none) ∨
      ∃ components, layout.split? g = some components ∧
        layout.readOff (Record.keyJson w.key) = components.map fun value => some (.text value) := by
  have hapart := name_ne_of_parse hs hl hkey
  rw [Layout.shownNames_eq_parts hskip] at hapart
  obtain ⟨tail, htail, hw⟩ := h.key_eq
  rw [keyTail?] at htail
  split at htail
  next hg =>
    cases htail
    rw [hw, List.append_nil]
    exact .inl ⟨hg, Layout.readOff_of_apart hapart⟩
  next =>
    rw [groupKey?, hl, Option.bind_some, Option.map_eq_some_iff] at htail
    obtain ⟨components, hsplit, rfl⟩ := htail
    rw [hw]
    exact .inr ⟨components, hsplit,
      Layout.readOff_keyJson hskip hnodup hapart (Layout.join_of_split? hsplit).1⟩

theorem readOff_ne_none {layout : Layout} {components : List String}
    (hsplit : layout.split? g = some components) :
    (components.map fun value => some (Json.text value)) ≠ layout.parts.map fun _ => none := by
  have hlength := (Layout.join_of_split? hsplit).1
  obtain ⟨part, parts, hparts⟩ := List.exists_cons_of_ne_nil (Layout.parts_ne_nil hsplit)
  cases components with
  | nil => simp [hparts] at hlength
  | cons value values => simp [hparts]

/-- Different groups of rows with the same key are put out under different keys, where the names of
the components are pairwise distinct and none of them is passed over. So is a row without groups. -/
theorem key_ne_of_groups (hplan : plan.Built) {layout : Layout}
    (hl : plan.schema.layout? = some layout) (hskip : Layout.skipped ∉ layout.parts)
    (hnodup : layout.parts.Nodup) {rowKey : Bytes}
    (hkey : plan.schema.rowKey.parse rowKey = .ready key) (hne : g ≠ g')
    (hw : MadeFor plan key cells g w) (hw' : MadeFor plan key cells' g' w') :
    w.json.get? "key" ≠ w'.json.get? "key" := by
  have hs := hplan.sound.schema
  rw [Record.get?_json, Record.get?_json, ne_eq, Option.some_inj]
  intro heq
  have hread := hw.readOff hs hl hskip hnodup hkey
  have hread' := hw'.readOff hs hl hskip hnodup hkey
  rw [← heq] at hread'
  rcases hread with ⟨rfl, hnone⟩ | ⟨components, hsplit, hcomponents⟩
  · rcases hread' with ⟨rfl, _⟩ | ⟨components', hsplit', hcomponents'⟩
    · exact hne rfl
    · exact readOff_ne_none hsplit' (hcomponents'.symm.trans hnone)
  · rcases hread' with ⟨_, hnone⟩ | ⟨components', hsplit', hcomponents'⟩
    · exact readOff_ne_none hsplit (hcomponents.symm.trans hnone)
    · have hsame : components = components' := by
        refine (List.map_inj_right fun x y hxy => ?_).1 (hcomponents.symm.trans hcomponents')
        exact Json.text.inj (Option.some.inj hxy)
      rw [← (Layout.join_of_split? hsplit).2, ← (Layout.join_of_split? hsplit').2, hsame] at hne
      exact hne rfl

private def lots (names : List String) : Plan where
  schema := ⟨⟨"|", [⟨"id", .plain, .string⟩]⟩,
    [⟨"D", Text.Utf8.encode "SR1", "SR1", .string⟩],
    [⟨"D", "RC", "RC", "", ⟨names, some "|"⟩, .string⟩]⟩
  selection := [⟨"D", "RC"⟩]
  predicate := none
  documents := []

private theorem lots_built : (lots ["line", "lot"]).Built where
  rowKey := rfl
  schema := rfl
  plan := ⟨[.ofColumn ⟨"D", "RC"⟩], none, [], rfl⟩

private def lotCells : List Cell :=
  [⟨"D", 20, .put (Text.Utf8.encode "RCx|z") (Text.Utf8.encode "b")⟩,
    ⟨"D", 20, .put (Text.Utf8.encode "RCy|z") (Text.Utf8.encode "c")⟩]

private def Lines (plan : Plan) (w w' : Record) : Prop :=
  MadeFor plan [.key "id" "k" .string] lotCells "x|z" w ∧
    MadeFor plan [.key "id" "k" .string] lotCells "y|z" w' ∧
    ∃ out, ofFields plan (.ofCells plan.schema [.key "id" "k" .string] lotCells) = .ready out ∧
      out.records = [w, w']

theorem key_of_lots :
    (lots ["line", "lot"]).Built ∧
      (lots ["line", "lot"]).schema.rowKey.parse [107] = .ready [.key "id" "k" .string] ∧
      ∃ w w', Lines (lots ["line", "lot"]) w w' ∧ w.json.get? "key" ≠ w'.json.get? "key" := by
  have hkey : (lots ["line", "lot"]).schema.rowKey.parse [107] =
      .ready [.key "id" "k" .string] := rfl
  obtain ⟨w, w', hlines⟩ : ∃ w w', Lines (lots ["line", "lot"]) w w' :=
    ⟨_, _, .spread rfl rfl List.mem_cons_self, .spread rfl rfl List.mem_cons_self, _, rfl, rfl⟩
  refine ⟨lots_built, hkey, w, w', hlines, ?_⟩
  exact key_ne_of_groups lots_built rfl (by decide) (by decide) hkey (by decide) hlines.1 hlines.2.1

/-- Where both components have the same name, the second takes the place of the first, and lines of
the same lot are put out under one key. -/
theorem repeated_component_lost :
    (lots ["line", "line"]).Built ∧ Layout.skipped ∉ ["line", "line"] ∧
      (lots ["line", "line"]).schema.layout? = some ⟨["line", "line"], some "|"⟩ ∧
      (lots ["line", "line"]).schema.rowKey.parse [107] = .ready [.key "id" "k" .string] ∧
      ∃ w w', Lines (lots ["line", "line"]) w w' ∧ w.json.get? "key" = w'.json.get? "key" := by
  refine ⟨⟨rfl, rfl, [.ofColumn ⟨"D", "RC"⟩], none, [], rfl⟩, by decide, rfl, rfl, _, _,
    ⟨.spread rfl rfl List.mem_cons_self, .spread rfl rfl List.mem_cons_self, _, rfl, rfl⟩, ?_⟩
  rw [Record.get?_json, Record.get?_json]
  rfl

end RowOutput

namespace Deletion

variable {plan : Plan} {d : Deletion} {g : String}

theorem keyTail_of_keyTail? {tail : List Field} (hg : d.reach = .group g)
    (h : RowOutput.keyTail? plan g = some tail) : keyTail plan.schema d.reach = .ok tail := by
  rw [RowOutput.keyTail?] at h
  rw [hg, keyTail]
  cases hl : plan.schema.layout? with
  | none =>
      split at h
      next =>
        cases h
        rfl
      next => simp [RowOutput.groupKey?, hl] at h
  | some layout =>
      dsimp only
      split at h
      next hempty =>
        cases h
        rw [if_pos hempty]
      next hne =>
        rw [RowOutput.groupKey?, hl, Option.bind_some, Option.map_eq_some_iff] at h
        obtain ⟨components, hsplit, rfl⟩ := h
        simp only [if_neg hne, Layout.components, hsplit, Except.map]

end Deletion

namespace ChangeSet

variable {plan : Plan} {window : Window} {row : RowCells} {c : ChangeSet} {d : Deletion}
  {g : String}

/-- The delete of a group is made, and addresses all records that the group makes of a row with the
same key. -/
theorem key_of_deletion (h : ofRow plan window row = .ready c) (hd : d ∈ c.deletions)
    (hg : d.reach = .group g) (key : List Field) :
    ∃ order object, d.row plan.schema row.key key = .ok order ∧
      (order.json.get? "delete").bind (·.get? "key") = some object ∧
      ∀ cells w, RowOutput.MadeFor plan key cells g w → w.json.get? "key" = some object := by
  obtain ⟨tail, htail⟩ : ∃ tail, RowOutput.keyTail? plan g = some tail := by
    rw [RowOutput.keyTail?]
    split
    next => exact ⟨[], rfl⟩
    next hne =>
      have hs := (reach_of_mem_deletions h hd hg).resolve_left hne
      obtain ⟨layout, hl, hsplit⟩ := (Option.any_eq_true _ _).1 hs
      obtain ⟨components, hsplit⟩ := Option.isSome_iff_exists.1 hsplit
      refine ⟨layout.keyFields g components, ?_⟩
      rw [RowOutput.groupKey?, hl, Option.bind_some, hsplit, Option.map_some]
  have hrow : d.row plan.schema row.key key = .ok ⟨row.key, key, d.reach, tail, d.timestamp⟩ := by
    rw [Deletion.row, Deletion.keyTail_of_keyTail? hg htail]
  refine ⟨_, _, hrow, DeleteOrder.get?_json _, fun cells w hw => ?_⟩
  obtain ⟨tail', htail', hkey⟩ := hw.key_eq
  cases htail.symm.trans htail'
  rw [Record.get?_json, hkey]

private def sheetLines : Plan where
  schema := ⟨⟨"|", [⟨"id", .plain, .string⟩]⟩, [],
    [⟨"M", "DOC", "DOC", "", ⟨["line"], none⟩, .document⟩]⟩
  selection := [⟨"M", "DOC"⟩]
  predicate := none
  documents := [⟨"M", "DOC", .ofList ["A>B"]⟩]

private def markedSheet : RowCells := ⟨[107], [⟨"M", 70, .delete (Text.Utf8.encode "DOC1")⟩]⟩

private def sheetLine : RowFields :=
  .ofCells sheetLines.schema [.key "id" "k" .string]
    [⟨"M", 60, .put (Text.Utf8.encode "DOC1")
      (Text.Utf8.encode "\x7b\"A\":[\x7b\"B\":\"1\"\x7d,\x7b\"B\":\"2\"\x7d]\x7d")⟩]

private def sheetRecord (value : String) : Record :=
  (Record.ofKey [.key "id" "k" .string, (Field.key "line" "1" .string).grouped "1"]).add
    ((Field.column "M" "A_B" (some value) .string).grouped "1")

theorem deleted_sheet_addressed :
    ∃ c, ofRow sheetLines ⟨50, 200⟩ markedSheet = .ready c ∧ ⟨.group "1", 70⟩ ∈ c.deletions ∧
      ∃ order object,
        Deletion.row sheetLines.schema [107] [.key "id" "k" .string] ⟨.group "1", 70⟩ = .ok order ∧
        (order.json.get? "delete").bind (·.get? "key") = some object ∧
        ∃ out, RowOutput.ofFields sheetLines sheetLine = .ready out ∧
          out.records = [sheetRecord "1", sheetRecord "2"] ∧
          ∀ w ∈ out.records, w.json.get? "key" = some object := by
  obtain ⟨c, hready, hmem⟩ : ∃ c, ofRow sheetLines ⟨50, 200⟩ markedSheet = .ready c ∧
      ⟨.group "1", 70⟩ ∈ c.deletions := ⟨_, rfl, by decide⟩
  obtain ⟨order, object, hrow, hobject, hkeys⟩ :=
    key_of_deletion hready hmem rfl [.key "id" "k" .string]
  have hmade : (RowOutput.ofFields sheetLines sheetLine).map (·.records) =
      .ready [sheetRecord "1", sheetRecord "2"] := by decide +kernel
  obtain ⟨out, hout, hrecords⟩ := Outcome.map_eq_ready.1 hmade
  refine ⟨c, hready, hmem, order, object, hrow, hobject, out, hout, hrecords, fun w hw => ?_⟩
  obtain ⟨g, hw, hg⟩ := RowOutput.exists_madeFor hout hw
  obtain rfl : g = "1" := List.mem_singleton.1 hg
  exact hkeys _ w hw

end ChangeSet

end WideRow
