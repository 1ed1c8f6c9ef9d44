import Mathlib.Logic.ExistsUnique
import WideRow.Proofs.Conditions

namespace WideRow

instance : Std.TransCmp Binary64.order :=
  inferInstanceAs (Std.TransCmp (compareOn Binary64.key))

instance : Std.TransCmp Date.order :=
  inferInstanceAs (Std.TransCmp (compareLex (compareOn Date.year)
    (compareLex (compareOn Date.month) (compareOn Date.day))))

instance : Std.TransCmp Instant.order :=
  inferInstanceAs (Std.TransCmp (compareOn Instant.nanos))

inductive Value.OfType : FieldType → Value → Prop where
  | int (n : Int) : OfType .int (.integer n)
  | long (n : Int) : OfType .long (.integer n)
  | double (x : Binary64) : OfType .double (.double x)
  | date (d : Date) : OfType .date (.date d)
  | timestamp (t : Instant) : OfType .timestamp (.instant t)

namespace FieldType

variable {t : FieldType} {raw : String} {v : Value}

theorem exists_of_integerWithin? {bits : Nat} {cs : List Char}
    (h : integerWithin? bits cs = some v) : ∃ n, v = .integer n := by
  obtain ⟨n, _, h⟩ := Option.bind_eq_some_iff.1 h
  obtain ⟨_, h⟩ := Option.ite_none_right_eq_some.1 h
  exact ⟨n, (Option.some.inj h).symm⟩

theorem ofType_of_parse? (ht : t.hasOrder) (h : t.parse? raw = some v) : v.OfType t := by
  cases t with
  | string | boolean | document => cases ht
  | int =>
      obtain ⟨n, rfl⟩ := exists_of_integerWithin? h
      exact .int n
  | long =>
      obtain ⟨n, rfl⟩ := exists_of_integerWithin? h
      exact .long n
  | double =>
      obtain ⟨x, _, rfl⟩ := Option.map_eq_some_iff.1 h
      exact .double x
  | date =>
      obtain ⟨d, _, rfl⟩ := Option.map_eq_some_iff.1 h
      exact .date d
  | timestamp =>
      obtain ⟨i, _, rfl⟩ := Option.map_eq_some_iff.1 h
      exact .timestamp i

end FieldType

namespace Value

variable {t : FieldType} {u v w : Value}

theorem exists_order? (hv : v.OfType t) (hw : w.OfType t) : ∃ o, v.order? w = some o := by
  cases hv <;> cases hw <;> exact ⟨_, rfl⟩

theorem order?_trans (hu : u.OfType t) (hv : v.OfType t) (hw : w.OfType t)
    (huv : u.order? v = some .lt) (hvw : v.order? w = some .lt) : u.order? w = some .lt := by
  cases hu <;> cases hv <;> cases hw <;> simp only [order?, Option.some.injEq] at huv hvw ⊢ <;>
    exact Std.TransCmp.lt_trans huv hvw

end Value

namespace Operator

/-- How operators that compare a value with a literal stand to each other. -/
structure Coherent (holds : Operator → Prop) : Prop where
  one : ∃! op, op ∈ [lt, eq, gt] ∧ holds op
  le_iff : holds le ↔ holds lt ∨ holds eq
  ge_iff : holds ge ↔ holds gt ∨ holds eq
  ne_iff : holds ne ↔ ¬ holds eq

def relations : List Operator := [eq, ne, lt, gt, le, ge]

theorem coherent_accepts (o : Ordering) : Coherent fun op => op.accepts o where
  one := by
    cases o with
    | lt => exact ⟨lt, by decide, by simp [accepts]⟩
    | eq => exact ⟨eq, by decide, by simp [accepts]⟩
    | gt => exact ⟨gt, by decide, by simp [accepts]⟩
  le_iff := by cases o <;> decide
  ge_iff := by cases o <;> decide
  ne_iff := by cases o <;> decide

theorem takesPattern_of_mem {op : Operator} (h : op ∈ relations) : op.takesPattern = false := by
  simp only [relations, List.mem_cons, List.not_mem_nil, or_false] at h
  rcases h with rfl | rfl | rfl | rfl | rfl | rfl <;> rfl

/-- Only what is said of the six operators counts. -/
theorem Coherent.congr {p q : Operator → Prop} (h : Coherent p)
    (hpq : ∀ op ∈ relations, p op ↔ q op) : Coherent q := by
  have hlt := hpq lt (by decide)
  have heq := hpq eq (by decide)
  have hgt := hpq gt (by decide)
  constructor
  · have hsub : ∀ op ∈ [lt, eq, gt], op ∈ relations := by decide
    obtain ⟨op, ⟨hmem, hp⟩, hunique⟩ := h.one
    refine ⟨op, ⟨hmem, (hpq op (hsub op hmem)).1 hp⟩, ?_⟩
    rintro op' ⟨hmem', hq⟩
    exact hunique op' ⟨hmem', (hpq op' (hsub op' hmem')).2 hq⟩
  · rw [← hpq le (by decide), ← hlt, ← heq]
    exact h.le_iff
  · rw [← hpq ge (by decide), ← hgt, ← heq]
    exact h.ge_iff
  · rw [← hpq ne (by decide), ← heq]
    exact h.ne_iff

end Operator

def Schema.relation (schema : Schema) (field : FieldName) (literal : String) (record : Record)
    (op : Operator) : Except LeafFault Truth :=
  ((Condition.leaf field op literal).resolve schema).map (·.evaluate record .full)

def FieldName.valueIn (field : FieldName) (record : Record) : Option String :=
  (record.lookup? field.family field.name).bind (·.value)

namespace Schema

variable {schema : Schema} {field : FieldName} {origin : Origin} {type : FieldType}
  {literal : String} {v : Value} {record : Record} {op : Operator}

/-- A literal that its type can read makes a leaf, whose truth is how the value stands to it. -/
theorem relation_eq (hfield : schema.resolve? field = some (origin, type)) (ht : type.hasOrder)
    (hnull : Leaf.isNull literal = false) (hv : type.parse? literal = some v)
    (hop : op ∈ Operator.relations) :
    schema.relation field literal record op =
      .ok (.ofBool ((field.valueIn record).any fun raw =>
        ((type.parse? raw).bind (·.order? v)).any op.accepts)) := by
  have hmatcher : Leaf.matcher? field op literal type = .ok (.value v) := by
    simp [Leaf.matcher?, Operator.takesPattern_of_mem hop, ht, hnull, hv]
  have hresolve : (Condition.leaf field op literal).resolve schema =
      .ok (.ofLeaf field origin type op literal (.value v)) := by
    rw [Condition.resolve_leaf, hfield]
    simp only [hmatcher, Except.map]
  rw [relation, hresolve, Except.map, Predicate.evaluate_eq_truth, Predicate.truth_ofLeaf,
    Leaf.truth, if_pos (Stage.resolves_full _)]
  have hholds (value : Option String) :
      Leaf.holdsFor ⟨0, field, origin, type, op, literal, .value v⟩ value =
        value.any fun raw => ((type.parse? raw).bind (·.order? v)).any op.accepts := by
    cases value <;> rfl
  rw [hholds]
  rfl

theorem relation_of_value (hfield : schema.resolve? field = some (origin, type))
    (ht : type.hasOrder) (hnull : Leaf.isNull literal = false)
    (hv : type.parse? literal = some v) {raw : String} {w : Value} {o : Ordering}
    (hraw : field.valueIn record = some raw) (hw : type.parse? raw = some w)
    (ho : w.order? v = some o) (hop : op ∈ Operator.relations) :
    schema.relation field literal record op = .ok .yes ↔ op.accepts o := by
  rw [relation_eq hfield ht hnull hv hop, hraw, Option.any_some, hw, Option.bind_some, ho,
    Option.any_some]
  cases op.accepts o <;> simp [Truth.ofBool]

theorem relation_of_no_value (hfield : schema.resolve? field = some (origin, type))
    (ht : type.hasOrder) (hnull : Leaf.isNull literal = false)
    (hv : type.parse? literal = some v)
    (hno : ∀ raw, field.valueIn record = some raw → type.parse? raw = none)
    (hop : op ∈ Operator.relations) : schema.relation field literal record op = .ok .no := by
  rw [relation_eq hfield ht hnull hv hop]
  cases hraw : field.valueIn record with
  | none => rfl
  | some raw =>
      rw [Option.any_some, hno raw hraw]
      rfl

theorem exists_of_less (hfield : schema.resolve? field = some (origin, type)) (ht : type.hasOrder)
    (hnull : Leaf.isNull literal = false) (hv : type.parse? literal = some v)
    (h : schema.relation field literal record .lt = .ok .yes) :
    ∃ raw w, field.valueIn record = some raw ∧ type.parse? raw = some w ∧
      w.order? v = some .lt := by
  by_cases hno : ∀ raw, field.valueIn record = some raw → type.parse? raw = none
  · rw [relation_of_no_value hfield ht hnull hv hno (by decide)] at h
    cases h
  · simp only [Classical.not_forall] at hno
    obtain ⟨raw, hraw, hread⟩ := hno
    obtain ⟨w, hw⟩ := Option.ne_none_iff_exists'.1 hread
    obtain ⟨o, ho⟩ := Value.exists_order? (FieldType.ofType_of_parse? ht hw)
      (FieldType.ofType_of_parse? ht hv)
    have haccepts := (relation_of_value hfield ht hnull hv hraw hw ho (by decide)).1 h
    refine ⟨raw, w, hraw, hw, ?_⟩
    cases o with
    | lt => exact ho
    | eq | gt => cases haccepts

/-- Relations of a field of an orderable type with literals that its type can read. They are decided
on every record and go together as in an order; none of them holds where the field has no value that
can be read; and what is less than a literal is less than every greater one. -/
theorem relations_ordered (hfield : schema.resolve? field = some (origin, type))
    (ht : type.hasOrder) :
    (∀ literal, Leaf.isNull literal = false → (type.parse? literal).isSome → ∀ record,
      (∀ op ∈ Operator.relations, schema.relation field literal record op = .ok .yes ∨
        schema.relation field literal record op = .ok .no) ∧
      (∀ raw, field.valueIn record = some raw → (type.parse? raw).isSome →
        Operator.Coherent fun op => schema.relation field literal record op = .ok .yes) ∧
      ((∀ raw, field.valueIn record = some raw → type.parse? raw = none) →
        ∀ op ∈ Operator.relations, schema.relation field literal record op = .ok .no)) ∧
    ∀ a b v w, Leaf.isNull a = false → Leaf.isNull b = false → type.parse? a = some v →
      type.parse? b = some w → v.order? w = some .lt → ∀ record,
        schema.relation field a record .lt = .ok .yes →
          schema.relation field b record .lt = .ok .yes := by
  constructor
  · intro literal hnull hread record
    obtain ⟨v, hv⟩ := Option.isSome_iff_exists.1 hread
    refine ⟨?_, ?_, fun hno op hop => relation_of_no_value hfield ht hnull hv hno hop⟩
    · intro op hop
      rw [relation_eq hfield ht hnull hv hop]
      cases (field.valueIn record).any _ with
      | true => exact .inl rfl
      | false => exact .inr rfl
    · intro raw hraw hread
      obtain ⟨w, hw⟩ := Option.isSome_iff_exists.1 hread
      obtain ⟨o, ho⟩ := Value.exists_order? (FieldType.ofType_of_parse? ht hw)
        (FieldType.ofType_of_parse? ht hv)
      have hiff (op : Operator) (hop : op ∈ Operator.relations) :=
        relation_of_value hfield ht hnull hv hraw hw ho hop
      exact (Operator.coherent_accepts o).congr fun op hop => (hiff op hop).symm
  · intro a b v w hanull hbnull hv hw hless record h
    obtain ⟨raw, x, hraw, hx, hxv⟩ := exists_of_less hfield ht hanull hv h
    have htype {s : String} {y : Value} : type.parse? s = some y → y.OfType type :=
      FieldType.ofType_of_parse? ht
    have hxw := Value.order?_trans (htype hx) (htype hv) (htype hw) hxv hless
    exact (relation_of_value hfield ht hbnull hw hraw hx hxw (by decide)).2 rfl

private def dated : Schema :=
  ⟨⟨"|", [⟨"id", .plain, .string⟩]⟩, [⟨"D", Text.Utf8.encode "PAID", "PAID", .timestamp⟩], []⟩

private def paidAt (raw : String) : Record :=
  (Record.ofKey [.key "id" "k" .string]).add (.column "D" "PAID" raw .timestamp)

theorem paid_before_noon :
    dated.resolve? ⟨"D", "PAID"⟩ = some (.static, .timestamp) ∧
      Operator.Coherent (fun op => dated.relation ⟨"D", "PAID"⟩ "2017-01-31T10:00:00Z"
        (paidAt "2017-01-31T12:00:00+02:00") op = .ok .yes) ∧
      (∀ op ∈ Operator.relations, dated.relation ⟨"D", "PAID"⟩ "2017-01-31T10:00:00Z"
        (paidAt "2017-02-30") op = .ok .no) ∧
      dated.relation ⟨"D", "PAID"⟩ "2017-01-31T12:00:00Z"
        (paidAt "2017-01-31T11:00:00+02:00") .lt = .ok .yes := by
  have hfield : dated.resolve? ⟨"D", "PAID"⟩ = some (.static, .timestamp) := by decide
  obtain ⟨hcoherent, hless⟩ := relations_ordered hfield rfl
  obtain ⟨_, hread, _⟩ := hcoherent "2017-01-31T10:00:00Z" (by decide) (by decide)
    (paidAt "2017-01-31T12:00:00+02:00")
  obtain ⟨_, _, hunread⟩ := hcoherent "2017-01-31T10:00:00Z" (by decide) (by decide)
    (paidAt "2017-02-30")
  refine ⟨hfield, hread "2017-01-31T12:00:00+02:00" rfl (by decide), hunread ?_, ?_⟩
  · intro raw hraw
    have hvalue : FieldName.valueIn ⟨"D", "PAID"⟩ (paidAt "2017-02-30") = some "2017-02-30" := rfl
    cases hvalue.symm.trans hraw
    decide
  · exact hless "2017-01-31T10:00:00Z" "2017-01-31T12:00:00Z" _ _ (by decide) (by decide) rfl rfl
      (by decide) _ rfl

end Schema

end WideRow
