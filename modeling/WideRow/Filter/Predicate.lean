import WideRow.Filter.Condition
import WideRow.Pattern.Meaning
import WideRow.Schema.Basic

namespace WideRow

inductive Matcher where
  /-- The literal that stands for an absent value. -/
  | absent
  | pattern (p : Pattern)
  | value (v : Value)

structure Leaf where
  id : Nat
  field : FieldName
  origin : Origin
  type : FieldType
  op : Operator
  literal : String
  matcher : Matcher

inductive LeafFault where
  | unknownField (field : FieldName)
  | badPattern (field : FieldName) (literal : String)
  | notOrderable (field : FieldName) (op : Operator) (type : FieldType)
  | orderOnNull (field : FieldName) (op : Operator)
  | badLiteral (field : FieldName) (type : FieldType) (literal : String)
  deriving DecidableEq, Repr

namespace LeafFault

def field : LeafFault → FieldName
  | unknownField field | badPattern field _ | notOrderable field _ _ | orderOnNull field _
  | badLiteral field _ _ => field

def message : LeafFault → String
  | unknownField field =>
    let field := field.text
    s!"unknown field `{field}`"
  | badPattern _ literal => s!"invalid regular expression `{literal}`"
  | notOrderable field op type =>
    let op := op.name
    let field := field.text
    let type := type.name
    s!"operator {op} needs an orderable field, `{field}` is {type}"
  | orderOnNull _ op =>
    let op := op.name
    s!"operator {op} cannot compare with null"
  | badLiteral _ type literal => type.unparsable literal

def causes : LeafFault → Nat
  | badPattern _ _ => 1
  | _ => 0

def error (f : LeafFault) : Error :=
  { Error.validation f.message with family := f.field.family, causes := f.causes }

end LeafFault

namespace Schema

def resolve? (schema : Schema) (field : FieldName) : Option (Origin × FieldType) :=
  match field.column? with
  | none =>
    match schema.rowKey.component? field.name with
    | some part => some (.rowKey, part.type)
    | none =>
      if schema.layout?.any (·.shownNames.contains field.name) then some (.dynamic, .string)
      else none
  | some column =>
    match schema.static? column with
    | some c => some (.static, c.type)
    | none => (schema.dynamic? column).map fun d => (.dynamic, d.type)

end Schema

namespace Leaf

def isNull (literal : String) : Bool := literal.toList.map Char.toLower == ['n', 'u', 'l', 'l']

def anchored (literal : String) : String := "^(?:" ++ literal ++ ")$"

def matcher? (field : FieldName) (op : Operator) (literal : String) (type : FieldType) :
    Except LeafFault Matcher :=
  if op.takesPattern then
    match Pattern.read? (anchored literal) with
    | some p => .ok (.pattern p)
    | none => .error (.badPattern field literal)
  else if op.needsOrder && !type.hasOrder then .error (.notOrderable field op type)
  else if isNull literal then
    if op.needsOrder then .error (.orderOnNull field op) else .ok .absent
  else
    match type.parse? literal with
    | some v => .ok (.value v)
    | none => .error (.badLiteral field type literal)

def resolve (id : Nat) (schema : Schema) (field : FieldName) (op : Operator) (literal : String) :
    Except LeafFault Leaf :=
  match schema.resolve? field with
  | none => .error (.unknownField field)
  | some (origin, type) =>
    (matcher? field op literal type).map fun matcher =>
      ⟨id, field, origin, type, op, literal, matcher⟩

theorem resolve_eq_ok {id : Nat} {schema : Schema} {field : FieldName} {op : Operator}
    {literal : String} {l : Leaf} (h : resolve id schema field op literal = .ok l) :
    ∃ origin type matcher, schema.resolve? field = some (origin, type) ∧
      l = ⟨id, field, origin, type, op, literal, matcher⟩ := by
  rw [resolve] at h
  split at h
  next => cases h
  next origin type horigin =>
    obtain ⟨matcher, _, rfl⟩ := map_eq_ok h
    exact ⟨origin, type, matcher, horigin, rfl⟩

def valueIn (leaf : Leaf) (record : Record) : Option String :=
  (record.lookup? leaf.field.family leaf.field.name).bind (·.value)

/-- Values that do not parse or do not compare make a leaf false, whatever its operator. -/
def holdsFor (leaf : Leaf) (value : Option String) : Bool :=
  match value, leaf.matcher with
  | none, .absent => leaf.op == .eq
  | none, _ => false
  | some _, .absent => leaf.op == .ne
  | some raw, .pattern p => p.isIn raw == (leaf.op == .regexp)
  | some raw, .value literal =>
    ((leaf.type.parse? raw).bind (·.order? literal)).any leaf.op.accepts

def truth (leaf : Leaf) (record : Record) (stage : Stage) : Truth :=
  if stage.resolves leaf.origin then .ofBool (leaf.holdsFor (leaf.valueIn record)) else .unknown

end Leaf

namespace Predicate

inductive Tree where
  | leaf (l : Leaf)
  | and (left right : Tree)
  | or (left right : Tree)

namespace Tree

def leaves : Tree → List Leaf
  | leaf l => [l]
  | and left right => left.leaves ++ right.leaves
  | or left right => left.leaves ++ right.leaves

def size (t : Tree) : Nat := t.leaves.length

def truth (record : Record) (stage : Stage) : Tree → Truth
  | leaf l => l.truth record stage
  | and left right => (left.truth record stage).and (right.truth record stage)
  | or left right => (left.truth record stage).or (right.truth record stage)

end Tree

end Predicate

/-- A resolved condition. Its leaves are numbered, so that what is remembered of one is never taken
for another. -/
structure Predicate where
  tree : Predicate.Tree
  numbered : tree.leaves.map (·.id) = List.range tree.size

namespace Condition

/-- Leaves are judged and numbered from left to right, with what number comes next at the end. -/
def resolveFrom (schema : Schema) : Nat → Condition → Except LeafFault (Predicate.Tree × Nat)
  | next, leaf field op literal => do
    let l ← Leaf.resolve next schema field op literal
    return (.leaf l, next + 1)
  | next, and left right => do
    let (l, next) ← resolveFrom schema next left
    let (r, next) ← resolveFrom schema next right
    return (.and l r, next)
  | next, or left right => do
    let (l, next) ← resolveFrom schema next left
    let (r, next) ← resolveFrom schema next right
    return (.or l r, next)

variable {schema : Schema}

theorem resolveFrom_leaf_eq_ok {field : FieldName} {op : Operator} {literal : String}
    {next n : Nat} {t : Predicate.Tree}
    (h : resolveFrom schema next (leaf field op literal) = .ok (t, n)) :
    ∃ l, Leaf.resolve next schema field op literal = .ok l ∧ t = .leaf l ∧ n = next + 1 := by
  rw [resolveFrom] at h
  obtain ⟨l, hl, he⟩ := bind_eq_ok h
  cases he
  exact ⟨l, hl, rfl, rfl⟩

theorem resolveFrom_both_eq_ok {left right : Condition} {next n : Nat} {t : Predicate.Tree}
    {node : Predicate.Tree → Predicate.Tree → Predicate.Tree}
    (h : (do
      let (l, next) ← resolveFrom schema next left
      let (r, next) ← resolveFrom schema next right
      return (node l r, next)) = (.ok (t, n) : Except LeafFault _)) :
    ∃ l m r, resolveFrom schema next left = .ok (l, m) ∧ resolveFrom schema m right = .ok (r, n) ∧
      t = node l r := by
  obtain ⟨⟨l, m⟩, hl, h⟩ := bind_eq_ok h
  obtain ⟨⟨r, m'⟩, hr, he⟩ := bind_eq_ok h
  cases he
  exact ⟨l, m, r, hl, hr, rfl⟩

theorem numbered_of_resolveFrom {c : Condition} {next n : Nat} {t : Predicate.Tree}
    (h : c.resolveFrom schema next = .ok (t, n)) :
    t.leaves.map (·.id) = List.range' next t.size ∧ n = next + t.size := by
  induction c generalizing next n t with
  | leaf field op literal =>
      obtain ⟨l, hl, rfl, rfl⟩ := resolveFrom_leaf_eq_ok h
      obtain ⟨origin, type, matcher, _, rfl⟩ := Leaf.resolve_eq_ok hl
      exact ⟨rfl, rfl⟩
  | and left right ihl ihr | or left right ihl ihr =>
      obtain ⟨l, m, r, hl, hr, rfl⟩ := resolveFrom_both_eq_ok h
      obtain ⟨hleft, rfl⟩ := ihl hl
      obtain ⟨hright, rfl⟩ := ihr hr
      rw [Predicate.Tree.size, Predicate.Tree.leaves, List.map_append, hleft, hright,
        List.length_append, List.range'_append_1, ← Nat.add_assoc]
      exact ⟨rfl, rfl⟩

def resolve (schema : Schema) (c : Condition) : Except LeafFault Predicate :=
  match h : c.resolveFrom schema 0 with
  | .error fault => .error fault
  | .ok (tree, _) => .ok ⟨tree, by rw [(numbered_of_resolveFrom h).1, List.range_eq_range']⟩

variable {c : Condition} {p : Predicate}

theorem resolve_eq_ok_iff :
    c.resolve schema = .ok p ↔ ∃ n, c.resolveFrom schema 0 = .ok (p.tree, n) := by
  rw [resolve]
  split
  next fault hfrom => simp [hfrom]
  next tree n hfrom =>
    obtain ⟨tree', hnumbered⟩ := p
    simp [hfrom]

theorem resolve_eq_error_iff {fault : LeafFault} :
    c.resolve schema = .error fault ↔ c.resolveFrom schema 0 = .error fault := by
  rw [resolve]
  split
  next fault' hfrom => simp [hfrom]
  next tree n hfrom => simp [hfrom]

end Condition

namespace Predicate

def leaves (p : Predicate) : List Leaf := p.tree.leaves

def truth (record : Record) (stage : Stage) (p : Predicate) : Truth := p.tree.truth record stage

abbrev Memo := SortedMap Nat Truth

/-- Leaves of row-key and static fields are remembered, those of dynamic fields are not. -/
def recallLeaf (record : Record) (stage : Stage) (l : Leaf) (memo : Memo) : Truth × Memo :=
  if !stage.resolves l.origin then (.unknown, memo)
  else
    match memo.get? l.id with
    | some t => (t, memo)
    | none =>
      let t := l.truth record stage
      (t, if l.origin = .dynamic then memo else memo.insert l.id t)

/-- Evaluates from left to right and leaves out what cannot change the result. -/
def Tree.evaluateWith (record : Record) (stage : Stage) : Tree → Memo → Truth × Memo
  | leaf l, memo => recallLeaf record stage l memo
  | and left right, memo =>
    let (t, memo) := left.evaluateWith record stage memo
    if t = .no then (.no, memo)
    else
      let (u, memo) := right.evaluateWith record stage memo
      (t.and u, memo)
  | or left right, memo =>
    let (t, memo) := left.evaluateWith record stage memo
    if t = .yes then (.yes, memo)
    else
      let (u, memo) := right.evaluateWith record stage memo
      (t.or u, memo)

def evaluateWith (p : Predicate) (memo : Memo) (record : Record) (stage : Stage) : Truth × Memo :=
  p.tree.evaluateWith record stage memo

def evaluate (p : Predicate) (record : Record) (stage : Stage) : Truth :=
  (p.evaluateWith .empty record stage).1

end Predicate

end WideRow
