import WideRow.Plan
import WideRow.Proofs.Maps
import WideRow.Proofs.ValidSchemas

namespace WideRow

theorem exists_of_mapM_eq_ok {α β ε : Type} {f : α → Except ε β} {xs : List α} {ys : List β}
    {y : β} (h : xs.mapM f = .ok ys) (hy : y ∈ ys) : ∃ x ∈ xs, f x = .ok y := by
  induction xs generalizing ys with
  | nil =>
      cases h
      cases hy
  | cons x xs ih =>
      rw [List.mapM_cons] at h
      obtain ⟨z, hx, h⟩ := bind_eq_ok h
      obtain ⟨zs, hxs, he⟩ := bind_eq_ok h
      cases he
      rcases List.mem_cons.1 hy with rfl | hy
      · exact ⟨x, List.mem_cons_self, hx⟩
      · obtain ⟨x', hx', he⟩ := ih hxs hy
        exact ⟨x', List.mem_cons_of_mem x hx', he⟩

namespace Schema

structure Sound (schema : Schema) : Prop where
  static_address : ∀ a ∈ schema.statics, ∀ b ∈ schema.statics, a.address = b.address → a = b
  static_name : ∀ a ∈ schema.statics, ∀ b ∈ schema.statics, a.columnName = b.columnName → a = b
  dynamic_name : ∀ d ∈ schema.dynamics, ∀ e ∈ schema.dynamics, d.columnName = e.columnName → d = e
  name_apart : ∀ a ∈ schema.statics, ∀ d ∈ schema.dynamics, a.columnName ≠ d.columnName
  one_fixed_part : ∀ d ∈ schema.dynamics, d.lead.isEmpty ∨ d.trail.isEmpty
  shown_apart : ∀ layout, schema.layout? = some layout →
    ∀ name ∈ layout.shownNames, schema.rowKey.component? name = none

theorem valid_of_make {rowKey : RowKey.Spec} {statics : List StaticColumn}
    {dynamics : List DynamicColumn} {schema : Schema}
    (h : make rowKey statics dynamics = .ok schema) :
    Valid schema.rowKey schema.statics schema.dynamics := by
  obtain ⟨rfl, hvalid⟩ := make_eq_ok_iff.1 h
  exact hvalid

theorem sound_of_make {rowKey : RowKey.Spec} {statics : List StaticColumn}
    {dynamics : List DynamicColumn} {schema : Schema}
    (h : make rowKey statics dynamics = .ok schema) : schema.Sound := by
  have hvalid := valid_of_make h
  obtain ⟨hstatics, hdynamics, happart⟩ := List.nodup_append.1 hvalid.names_apart
  exact {
    static_address := fun a ha b hb => List.inj_on_of_nodup_map hvalid.addresses_apart ha hb
    static_name := fun a ha b hb => List.inj_on_of_nodup_map hstatics ha hb
    dynamic_name := fun d hd e he => List.inj_on_of_nodup_map hdynamics hd he
    name_apart := fun a ha d hd =>
      happart _ (List.mem_map_of_mem ha) _ (List.mem_map_of_mem hd)
    one_fixed_part := by simpa using hvalid.one_fixed_part
    shown_apart := by
      intro layout hl name hname
      obtain ⟨d, hd, rfl⟩ := Option.map_eq_some_iff.1 hl
      obtain ⟨hparts, hshown⟩ := List.mem_filter.1 hname
      exact component?_eq_none_iff.2
        (hvalid.shown_apart d (List.mem_of_mem_head? hd) name hparts (by simpa using hshown)) }

theorem nodup_dynamics_of_make {rowKey : RowKey.Spec} {statics : List StaticColumn}
    {dynamics : List DynamicColumn} {schema : Schema}
    (h : make rowKey statics dynamics = .ok schema) : schema.dynamics.Nodup :=
  (valid_of_make h).names_apart.of_append_right.of_map _

variable {schema : Schema}

theorem mem_of_static? {name : ColumnName} {c : StaticColumn} (h : schema.static? name = some c) :
    c ∈ schema.statics ∧ c.columnName = name :=
  ⟨List.mem_of_find?_eq_some h, by simpa using List.find?_some h⟩

theorem mem_of_dynamic? {name : ColumnName} {d : DynamicColumn}
    (h : schema.dynamic? name = some d) : d ∈ schema.dynamics ∧ d.columnName = name :=
  ⟨List.mem_of_find?_eq_some h, by simpa using List.find?_some h⟩

end Schema

def Leaf.Resolved (schema : Schema) (l : Leaf) : Prop :=
  schema.resolve? l.field = some (l.origin, l.type)

theorem Condition.resolved_of_resolveFrom {schema : Schema} {c : Condition} {next n : Nat}
    {t : Predicate.Tree} (h : c.resolveFrom schema next = .ok (t, n)) :
    ∀ l ∈ t.leaves, l.Resolved schema := by
  induction c generalizing next n t with
  | leaf field op literal =>
      obtain ⟨l, hl, rfl, rfl⟩ := resolveFrom_leaf_eq_ok h
      obtain ⟨origin, type, matcher, horigin, rfl⟩ := Leaf.resolve_eq_ok hl
      intro l hl
      cases List.mem_singleton.1 hl
      exact horigin
  | and left right ihl ihr | or left right ihl ihr =>
      obtain ⟨left, m, right, hleft, hright, rfl⟩ := resolveFrom_both_eq_ok h
      intro l hl
      rcases List.mem_append.1 hl with hl | hl
      · exact ihl hleft l hl
      · exact ihr hright l hl

theorem Condition.resolved_of_resolve {schema : Schema} {c : Condition} {p : Predicate}
    (h : c.resolve schema = .ok p) : ∀ l ∈ p.leaves, l.Resolved schema := by
  obtain ⟨n, hfrom⟩ := resolve_eq_ok_iff.1 h
  exact resolved_of_resolveFrom hfrom

namespace Plan

structure Sound (plan : Plan) : Prop where
  schema : plan.schema.Sound
  selection : ∀ name ∈ plan.selection, (plan.schema.origin? name).isSome
  leaves : ∀ l ∈ plan.leaves, l.Resolved plan.schema

theorem origin?_of_selectedColumn {schema : Schema} {field : FieldName} {name : ColumnName}
    (h : selectedColumn schema field = .ok name) : (schema.origin? name).isSome := by
  rw [selectedColumn] at h
  split at h
  next => cases h
  next =>
    split at h
    next ho =>
      cases h
      exact ho
    next => cases h

theorem origin?_of_mapM {schema : Schema} {selected : List FieldName} {columns : List ColumnName}
    (h : selected.mapM (selectedColumn schema) = .ok columns) :
    ∀ name ∈ columns, (schema.origin? name).isSome := by
  intro name hname
  obtain ⟨field, _, hfield⟩ := exists_of_mapM_eq_ok h hname
  exact origin?_of_selectedColumn hfield

theorem make_eq_ok {schema : Schema} {selected : List FieldName} {condition : Option Condition}
    {documents : List DocumentColumn} {plan : Plan}
    (h : make schema selected condition documents = .ok plan) :
    ∃ columns predicate, selected.mapM (selectedColumn schema) = .ok columns ∧
      resolveCondition schema condition = .ok predicate ∧
      documents.findSome? (documentFault? schema) = none ∧
      plan = ⟨schema, columns.eraseDups, predicate, documents⟩ := by
  rw [make] at h
  split at h
  next => cases h
  next =>
    obtain ⟨columns, hcolumns, h⟩ := bind_eq_ok h
    obtain ⟨predicate, hpredicate, h⟩ := bind_eq_ok h
    split at h
    next => cases h
    next hdocuments =>
      cases h
      exact ⟨columns, predicate, hcolumns, hpredicate, hdocuments, rfl⟩

theorem sound_of_make {schema : Schema} {selected : List FieldName} {condition : Option Condition}
    {documents : List DocumentColumn} {plan : Plan} (hs : schema.Sound)
    (h : make schema selected condition documents = .ok plan) : plan.Sound := by
  obtain ⟨columns, predicate, hcolumns, hpredicate, _, rfl⟩ := make_eq_ok h
  refine ⟨hs, fun name hn => ?_, fun l hl => ?_⟩
  · exact origin?_of_mapM hcolumns name (List.mem_eraseDups.1 hn)
  cases condition with
  | none =>
      cases hpredicate
      cases hl
  | some condition =>
      obtain ⟨p, hp, rfl⟩ := map_eq_ok hpredicate
      exact Condition.resolved_of_resolve (eq_ok_of_mapError hp) l hl

theorem needed_cases {plan : Plan} {name : ColumnName} (h : name ∈ plan.needed) :
    name ∈ plan.selection ∨ ∃ l ∈ plan.leaves, l.field.column? = some name := by
  rw [needed, SortedSet.mem_members_ofList, List.mem_append, List.mem_filterMap] at h
  exact h

theorem Sound.readsHiddenStatic {plan : Plan} (h : plan.Sound)
    (hdyn : ∀ name ∈ plan.selection, plan.schema.static? name = none) {name : ColumnName}
    (hname : name ∈ plan.needed) {t : StaticColumn} (ht : plan.schema.static? name = some t) :
    plan.readsHiddenStatic := by
  rw [Plan.readsHiddenStatic, Bool.and_eq_true, List.all_eq_true, List.any_eq_true]
  constructor
  · intro n hn
    have ho := h.selection n hn
    rw [Schema.origin?, hdyn n hn] at ho ⊢
    cases hd : plan.schema.dynamic? n with
    | none => simp [hd] at ho
    | some d => simp
  · rcases needed_cases hname with hs | ⟨l, hl, hcolumn⟩
    · rw [hdyn name hs] at ht
      cases ht
    · have hr := h.leaves l hl
      rw [Leaf.Resolved, Schema.resolve?, hcolumn] at hr
      simp only [ht, Option.some.injEq, Prod.mk.injEq] at hr
      refine ⟨l, hl, ?_⟩
      have hnot : plan.selects name = false := by
        refine Bool.eq_false_iff.2 fun hs => ?_
        rw [hdyn name (by simpa [selects] using hs)] at ht
        cases ht
      simp [← hr.1, hcolumn, hnot]

/-- A plan that passed the checks of its row key, of its schema and its own. -/
structure Built (plan : Plan) : Prop where
  rowKey : RowKey.Spec.make plan.schema.rowKey.separator plan.schema.rowKey.parts =
    .ok plan.schema.rowKey
  schema : Schema.make plan.schema.rowKey plan.schema.statics plan.schema.dynamics = .ok plan.schema
  plan : ∃ selected condition documents,
    Plan.make plan.schema selected condition documents = .ok plan

theorem Built.sound {plan : Plan} (h : plan.Built) : plan.Sound := by
  obtain ⟨_, _, _, hp⟩ := h.plan
  exact sound_of_make (Schema.sound_of_make h.schema) hp

/-- Invoices with a status and numbered lines, all of it put out. -/
def invoices : Plan where
  schema := ⟨⟨"|", [⟨"id", .plain, .string⟩]⟩,
    [⟨"D", Text.Utf8.encode "SR1", "SR1", .string⟩],
    [⟨"D", "RC", "RC", "", ⟨["line"], none⟩, .string⟩]⟩
  selection := [⟨"D", "SR1"⟩, ⟨"D", "RC"⟩]
  predicate := none
  documents := []

theorem invoices_built : invoices.Built where
  rowKey := rfl
  schema := rfl
  plan := ⟨[.ofColumn ⟨"D", "SR1"⟩, .ofColumn ⟨"D", "RC"⟩], none, [], rfl⟩

def paid : Condition :=
  .and (.leaf ⟨none, "id"⟩ .eq "k")
    (.and (.leaf (.ofColumn ⟨"D", "SR1"⟩) .eq "Y") (.leaf (.ofColumn ⟨"D", "RC"⟩) .ne "x"))

def isPaid : Predicate where
  tree :=
    .and (.leaf ⟨0, ⟨none, "id"⟩, .rowKey, .string, .eq, "k", .value (.text "k")⟩)
      (.and (.leaf ⟨1, ⟨"D", "SR1"⟩, .static, .string, .eq, "Y", .value (.text "Y")⟩)
        (.leaf ⟨2, ⟨"D", "RC"⟩, .dynamic, .string, .ne, "x", .value (.text "x")⟩))
  numbered := rfl

theorem resolve_paid : paid.resolve invoices.schema = .ok isPaid := rfl

def paidInvoices : Plan := { invoices with predicate := isPaid }

end Plan

end WideRow
