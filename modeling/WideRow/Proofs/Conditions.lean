import Mathlib.Data.List.Nodup
import WideRow.Plan
import WideRow.Proofs.Maps

namespace WideRow

namespace Stage

@[simp] theorem resolves_full (origin : Origin) : full.resolves origin = true := rfl

theorem resolves_of_rank_le {s t : Stage} (h : s.rank ≤ t.rank) {origin : Origin}
    (hs : s.resolves origin) : t.resolves origin := by
  cases t with
  | full => rfl
  | static =>
      cases s with
      | full => simp [rank] at h
      | static => exact hs
      | rowKey => cases origin <;> simp_all [resolves]
  | rowKey =>
      cases s with
      | full | static => simp [rank] at h
      | rowKey => exact hs

theorem rank_le_full (s : Stage) : s.rank ≤ full.rank := by cases s <;> decide

end Stage

namespace Truth

theorem no_and (t : Truth) : no.and t = no := by cases t <;> rfl

theorem and_no (t : Truth) : t.and no = no := by cases t <;> rfl

theorem yes_or (t : Truth) : yes.or t = yes := by cases t <;> rfl

theorem or_yes (t : Truth) : t.or yes = yes := by cases t <;> rfl

variable {a b a' b' : Truth}

theorem and_of_known (h : a.and b ≠ unknown) (ha : a ≠ unknown → a' = a)
    (hb : b ≠ unknown → b' = b) : a'.and b' = a.and b := by
  cases a with
  | no => rw [ha nofun, no_and, no_and]
  | yes =>
      rw [ha nofun]
      cases b with
      | unknown => exact absurd rfl h
      | yes | no => rw [hb nofun]
  | unknown =>
      cases b with
      | no => rw [hb nofun, and_no, and_no]
      | yes | unknown => exact absurd rfl h

theorem or_of_known (h : a.or b ≠ unknown) (ha : a ≠ unknown → a' = a)
    (hb : b ≠ unknown → b' = b) : a'.or b' = a.or b := by
  cases a with
  | yes => rw [ha nofun, yes_or, yes_or]
  | no =>
      rw [ha nofun]
      cases b with
      | unknown => exact absurd rfl h
      | yes | no => rw [hb nofun]
  | unknown =>
      cases b with
      | yes => rw [hb nofun, or_yes, or_yes]
      | no | unknown => exact absurd rfl h

end Truth

namespace Predicate

variable {p : Predicate} {tree : Tree} {r r' : Record} {stage s t : Stage} {memo : Memo}
  {leaves : List Leaf}

def ofLeaf (field : FieldName) (origin : Origin) (type : FieldType) (op : Operator)
    (literal : String) (matcher : Matcher) : Predicate :=
  ⟨.leaf ⟨0, field, origin, type, op, literal, matcher⟩, rfl⟩

theorem truth_ofLeaf (field : FieldName) (origin : Origin) (type : FieldType) (op : Operator)
    (literal : String) (matcher : Matcher) (r : Record) (stage : Stage) :
    (ofLeaf field origin type op literal matcher).truth r stage =
      Leaf.truth ⟨0, field, origin, type, op, literal, matcher⟩ r stage :=
  rfl

theorem eq_of_id (p : Predicate) : ∀ l ∈ p.leaves, ∀ l' ∈ p.leaves, l.id = l'.id → l = l' := by
  have hdistinct : (p.leaves.map (·.id)).Nodup := by
    rw [leaves, p.numbered]
    exact List.nodup_range
  intro l hl l' hl' hid
  exact List.inj_on_of_nodup_map hdistinct hl hl' hid

/-- Everything remembered is the truth of the leaf of its number, which is not dynamic. -/
def Remembers (leaves : List Leaf) (r : Record) (memo : Memo) : Prop :=
  ∀ id t, memo.get? id = some t →
    ∃ l ∈ leaves, l.id = id ∧ l.origin ≠ .dynamic ∧ t = l.truth r .full

theorem remembers_empty (leaves : List Leaf) (r : Record) : Remembers leaves r .empty := by
  intro id t h
  cases h

theorem Remembers.congr (h : Remembers leaves r memo)
    (hr : ∀ l ∈ leaves, l.origin ≠ .dynamic → l.valueIn r = l.valueIn r') :
    Remembers leaves r' memo := by
  intro id t ht
  obtain ⟨l, hl, hid, horigin, rfl⟩ := h id t ht
  refine ⟨l, hl, hid, horigin, ?_⟩
  rw [Leaf.truth, Leaf.truth, hr l hl horigin]

theorem Remembers.insert (h : Remembers leaves r memo) {l : Leaf} (hl : l ∈ leaves)
    (horigin : l.origin ≠ .dynamic) : Remembers leaves r (memo.insert l.id (l.truth r .full)) := by
  intro id t ht
  rw [SortedMap.get?_insert_eq] at ht
  split at ht
  next hid =>
    cases ht
    exact ⟨l, hl, hid.symm, horigin, rfl⟩
  next => exact h id t ht

theorem truth_eq_full {l : Leaf} (h : stage.resolves l.origin) :
    l.truth r stage = l.truth r .full := by
  rw [Leaf.truth, Leaf.truth, if_pos h, if_pos (Stage.resolves_full _)]

section Remembering

variable (hone : ∀ l ∈ leaves, ∀ l' ∈ leaves, l.id = l'.id → l = l')
include hone

theorem recallLeaf_eq_truth (h : Remembers leaves r memo) {l : Leaf} (hl : l ∈ leaves) :
    (recallLeaf r stage l memo).1 = l.truth r stage ∧
      Remembers leaves r (recallLeaf r stage l memo).2 := by
  rw [recallLeaf]
  cases hs : stage.resolves l.origin with
  | false => simpa [Leaf.truth, hs] using h
  | true =>
      cases hm : memo.get? l.id with
      | some t =>
          obtain ⟨l', hl', hid, _, rfl⟩ := h l.id t hm
          cases hone l' hl' l hl hid
          simpa [truth_eq_full hs] using h
      | none =>
          by_cases horigin : l.origin = .dynamic
          · simpa [horigin] using h
          · simpa [horigin, truth_eq_full hs] using h.insert hl horigin

/-- Memory and short cuts leave the truth of a condition as it is. -/
theorem Tree.evaluateWith_eq_truth (h : Remembers leaves r memo) (ht : tree.leaves ⊆ leaves) :
    (tree.evaluateWith r stage memo).1 = tree.truth r stage ∧
      Remembers leaves r (tree.evaluateWith r stage memo).2 := by
  induction tree generalizing memo with
  | leaf l => exact recallLeaf_eq_truth hone h (ht (List.mem_singleton.2 rfl))
  | and left right ihl ihr | or left right ihl ihr =>
      obtain ⟨htl, hml⟩ := ihl h fun l hl => ht (List.mem_append_left _ hl)
      obtain ⟨htr, hmr⟩ := ihr hml fun l hl => ht (List.mem_append_right _ hl)
      simp only [Tree.evaluateWith, Tree.truth, htl] at htr hmr ⊢
      split
      next hs => simpa [hs, Truth.no_and, Truth.yes_or] using hml
      next => exact ⟨by rw [htr], hmr⟩

end Remembering

theorem evaluateWith_eq_truth (h : Remembers p.leaves r memo) (stage : Stage) :
    (p.evaluateWith memo r stage).1 = p.truth r stage ∧
      Remembers p.leaves r (p.evaluateWith memo r stage).2 :=
  Tree.evaluateWith_eq_truth p.eq_of_id h (List.Subset.refl _)

theorem evaluate_eq_truth (p : Predicate) (r : Record) (stage : Stage) :
    p.evaluate r stage = p.truth r stage :=
  (evaluateWith_eq_truth (remembers_empty _ r) stage).1

theorem Tree.truth_congr
    (h : ∀ l ∈ tree.leaves, stage.resolves l.origin → l.valueIn r = l.valueIn r') :
    tree.truth r stage = tree.truth r' stage := by
  induction tree with
  | leaf l =>
      have hl := h l (List.mem_singleton.2 rfl)
      simp only [Tree.truth, Leaf.truth]
      split
      next hs => rw [hl hs]
      next => rfl
  | and left right ihl ihr | or left right ihl ihr =>
      rw [Tree.truth, Tree.truth, ihl fun l hl => h l (List.mem_append_left _ hl),
        ihr fun l hl => h l (List.mem_append_right _ hl)]

theorem truth_congr (h : ∀ l ∈ p.leaves, stage.resolves l.origin → l.valueIn r = l.valueIn r') :
    p.truth r stage = p.truth r' stage :=
  Tree.truth_congr h

/-- What is true or false at a stage stays so at later stages, of any record with the same values in
all that the stage sees. -/
theorem Tree.truth_of_earlier (hst : s.rank ≤ t.rank)
    (hr : ∀ l ∈ tree.leaves, s.resolves l.origin → l.valueIn r = l.valueIn r')
    (h : tree.truth r s ≠ .unknown) : tree.truth r' t = tree.truth r s := by
  induction tree with
  | leaf l =>
      simp only [Tree.truth, Leaf.truth] at h ⊢
      split at h
      next hs =>
        rw [if_pos (Stage.resolves_of_rank_le hst hs), if_pos hs,
          hr l (List.mem_singleton.2 rfl) hs]
      next => exact absurd rfl h
  | and left right ihl ihr =>
      exact Truth.and_of_known h (ihl fun l hl => hr l (List.mem_append_left _ hl))
        (ihr fun l hl => hr l (List.mem_append_right _ hl))
  | or left right ihl ihr =>
      exact Truth.or_of_known h (ihl fun l hl => hr l (List.mem_append_left _ hl))
        (ihr fun l hl => hr l (List.mem_append_right _ hl))

theorem truth_of_earlier (hst : s.rank ≤ t.rank)
    (hr : ∀ l ∈ p.leaves, s.resolves l.origin → l.valueIn r = l.valueIn r')
    (h : p.truth r s ≠ .unknown) : p.truth r' t = p.truth r s :=
  Tree.truth_of_earlier hst hr h

theorem truth_full_of_known (h : p.truth r stage ≠ .unknown) :
    p.truth r .full = p.truth r stage :=
  truth_of_earlier stage.rank_le_full (fun _ _ _ => rfl) h

end Predicate

theorem Condition.resolve_leaf (schema : Schema) (field : FieldName) (op : Operator)
    (literal : String) : (leaf field op literal).resolve schema =
      match schema.resolve? field with
      | none => .error (.unknownField field)
      | some (origin, type) =>
        (Leaf.matcher? field op literal type).map
          (Predicate.ofLeaf field origin type op literal) := by
  cases hfield : schema.resolve? field with
  | none => simp [resolve_eq_error_iff, resolveFrom, Leaf.resolve, hfield, Bind.bind, Except.bind]
  | some found =>
      obtain ⟨origin, type⟩ := found
      cases hm : Leaf.matcher? field op literal type with
      | error fault =>
          simp [resolve_eq_error_iff, resolveFrom, Leaf.resolve, hfield, hm, Bind.bind,
            Except.bind, Except.map]
      | ok matcher =>
          simp only [hm, Except.map]
          refine resolve_eq_ok_iff.2 ⟨1, ?_⟩
          simp [resolveFrom, Leaf.resolve, hfield, hm, Bind.bind, Except.bind, Except.map,
            Predicate.ofLeaf, Pure.pure, Except.pure]

end WideRow
