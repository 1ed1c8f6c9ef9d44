import Mathlib
import WideRow.Proofs.HeldForms
import WideRow.Proofs.Relations

namespace WideRow

namespace Pattern

def reading? (s : String) : Option Reading := (Form.read? s).bind (·.meaning {})

theorem read?_eq_some_iff {s : String} {p : Pattern} :
    read? s = some p ↔ ∃ r, reading? s = some r ∧ r.shape.fits ∧ r.pattern = p := by
  have h : read? s = (reading? s).bind fun r => if r.shape.fits then some r.pattern else none := by
    rw [reading?, Option.bind_assoc]
    rfl
  rw [h, Option.bind_eq_some_iff]
  simp only [Option.ite_none_right_eq_some, Option.some.injEq]

/-- What is to match from the start of a text to its end. -/
def Reading.held (r : Reading) : Reading :=
  .seq {} [.ofAnchor {} .textStart .empty, r, .ofAnchor {} .textEnd .empty]

theorem Form.meaning_held (f : Form) : f.held.meaning {} = (f.meaning {}).map Reading.held := by
  -- Nothing before the group changes a flag.
  have hflags : (Reading.ofAnchor {} (lineStart {}) .empty).flags.apply ⟨[], []⟩ = {} := rfl
  simp only [held, meaning, meanings, Option.bind_eq_bind, Option.bind_some, hflags]
  cases f.meaning {} <;> rfl

/-- A text that is read as the same where it is held to whole values. -/
structure Holdable (literal : String) : Prop where
  /-- It does not end in a comment, which would go on. -/
  closed : Form.read? (literal ++ ")$") = none
  /-- It leaves room for the group and the sequence around it. -/
  nested : ∀ f, Form.read? literal = some f → f.depth + 2 ≤ Form.nestingLimit
  small : ∀ r, reading? literal = some r → r.held.shape.fits

variable {literal : String} {p : Pattern} {r : Reading}

theorem read?_anchored_eq_some_iff (h : reading? literal = some r) :
    read? (Leaf.anchored literal) = some p ↔ Holdable literal ∧ p = r.held.pattern := by
  obtain ⟨f, hf, hr⟩ := Option.bind_eq_some_iff.1 h
  have hmeaning : f.held.meaning {} = some r.held := by rw [Form.meaning_held, hr, Option.map_some]
  rw [read?_eq_some_iff]
  constructor
  · rintro ⟨q, hq, hfits, rfl⟩
    obtain ⟨g, hg, hq⟩ := Option.bind_eq_some_iff.1 hq
    obtain ⟨hclosed, hnested, rfl⟩ := (Form.read?_anchored hf).1 hg
    cases hmeaning.symm.trans hq
    refine ⟨⟨hclosed, ?_, ?_⟩, rfl⟩
    · intro f' hf'
      cases hf.symm.trans hf'
      rwa [Form.depth_held] at hnested
    · intro r' hr'
      cases h.symm.trans hr'
      exact hfits
  · rintro ⟨⟨hclosed, hnested, hsmall⟩, rfl⟩
    refine ⟨r.held, Option.bind_eq_some_iff.2 ⟨f.held, ?_, hmeaning⟩, hsmall r h, rfl⟩
    have hdepth : f.held.depth ≤ Form.nestingLimit := f.depth_held ▸ hnested f hf
    exact (Form.read?_anchored hf).2 ⟨hclosed, hdepth, rfl⟩

theorem matches_held_iff {text : Text} {i j : Nat} :
    Matches text r.held.pattern i j ↔
      i = 0 ∧ j = text.size ∧ Matches text r.pattern 0 text.size := by
  have hpattern : r.held.pattern = .seq (.anchor .textStart .empty)
      (.seq r.pattern (.seq (.anchor .textEnd .empty) .empty)) := rfl
  rw [hpattern]
  constructor
  · intro h
    cases h with
    | seq hstart hrest =>
        cases hrest with
        | seq hp hend =>
            cases hend with
            | seq hend hempty =>
                cases hstart with
                | anchor hstart =>
                    cases hend with
                    | anchor hend =>
                        cases hempty
                        simp only [Anchor.holds, beq_iff_eq] at hstart hend
                        subst hstart hend
                        exact ⟨rfl, rfl, hp⟩
  · rintro ⟨rfl, rfl, h⟩
    refine .seq (.anchor (by simp [Anchor.holds])) (.seq h (.seq (.anchor ?_) (.empty _)))
    simp [Anchor.holds]

theorem isIn_held_iff (hr : r.pattern.Bounded) (raw : String) : r.held.pattern.isIn raw ↔
    Matches raw.toList.toArray r.pattern 0 raw.toList.length := by
  have hbounded : r.held.pattern.Bounded := ⟨trivial, hr, trivial, trivial⟩
  rw [isIn_iff hbounded, ← List.size_toArray]
  constructor
  · rintro ⟨i, j, -, h⟩
    exact (matches_held_iff.1 h).2.2
  · intro h
    exact ⟨0, _, Nat.zero_le _, matches_held_iff.2 ⟨rfl, rfl, h⟩⟩

end Pattern

def Schema.Accepts (schema : Schema) (field : FieldName) (op : Operator) (literal : String) :
    Prop :=
  ∃ q, (Condition.leaf field op literal).resolve schema = .ok q

namespace Schema

variable {schema : Schema} {field : FieldName} {origin : Origin} {type : FieldType} {op : Operator}
  {literal raw : String} {p : Pattern} {record : Record} {stage : Stage}

theorem resolve_eq_of_takesPattern (hfield : schema.resolve? field = some (origin, type))
    (hop : op.takesPattern) (literal : String) : (Condition.leaf field op literal).resolve schema =
      match Pattern.read? (Leaf.anchored literal) with
      | some p => .ok (.ofLeaf field origin type op literal (.pattern p))
      | none => .error (.badPattern field literal) := by
  simp only [Condition.resolve_leaf, hfield, Leaf.matcher?, hop, if_true]
  cases Pattern.read? (Leaf.anchored literal) <;> rfl

theorem accepts_iff (hfield : schema.resolve? field = some (origin, type)) (hop : op.takesPattern)
    (literal : String) : schema.Accepts field op literal ↔
      ∃ p, Pattern.read? (Leaf.anchored literal) = some p := by
  rw [Accepts, resolve_eq_of_takesPattern hfield hop]
  cases Pattern.read? (Leaf.anchored literal) with
  | none => simp
  | some p => simp

theorem evaluate_of_pattern (hraw : field.valueIn record = some raw)
    (hstage : stage.resolves origin) :
    (Predicate.ofLeaf field origin type op literal (.pattern p)).evaluate record stage = .yes ↔
      (p.isIn raw ↔ op = .regexp) := by
  have hholds : Leaf.holdsFor ⟨0, field, origin, type, op, literal, .pattern p⟩
      (field.valueIn record) = (p.isIn raw == (op == .regexp)) := by rw [hraw]; rfl
  rw [Predicate.evaluate_eq_truth, Predicate.truth_ofLeaf, Leaf.truth, if_pos hstage,
    Leaf.valueIn, ← FieldName.valueIn, hholds]
  cases hin : p.isIn raw <;> cases op <;> simp [Truth.ofBool]

/-- Leaves that match a pattern, on a field of the schema and with any text. The text is refused as
a bad pattern or taken. One that is a pattern on its own is taken unless it ends in a comment, nests
as deep as is allowed or is as large as is allowed; and then a value matches if all of it, from its
first character to its last, is in the language of that pattern. One that is taken means something
on its own, or closes a group that it does not open, behind what means something on its own. -/
theorem patterns_match_whole_values (hfield : schema.resolve? field = some (origin, type))
    (hop : op.takesPattern) (literal : String) :
    (schema.Accepts field op literal ∨
      (Condition.leaf field op literal).resolve schema = .error (.badPattern field literal)) ∧
    (∀ p, Pattern.read? literal = some p →
      (schema.Accepts field op literal ↔ Pattern.Holdable literal) ∧
      ∀ q, (Condition.leaf field op literal).resolve schema = .ok q →
        ∀ record raw stage, field.valueIn record = some raw → stage.resolves origin →
          (q.evaluate record stage = .yes ↔
            (Pattern.Matches raw.toList.toArray p 0 raw.toList.length ↔ op = .regexp))) ∧
    (schema.Accepts field op literal → (Pattern.reading? literal).isSome ∨
      ∃ a b, literal = a ++ ")" ++ b ∧ (Pattern.reading? a).isSome) := by
  have haccepts := accepts_iff hfield hop literal
  refine ⟨?_, fun p hp => ?_, fun h => ?_⟩
  · rw [haccepts, resolve_eq_of_takesPattern hfield hop]
    cases Pattern.read? (Leaf.anchored literal) with
    | none => exact .inr rfl
    | some p => exact .inl ⟨p, rfl⟩
  · obtain ⟨r, hr, -, rfl⟩ := Pattern.read?_eq_some_iff.1 hp
    have hanchored (q : Pattern) := Pattern.read?_anchored_eq_some_iff (p := q) hr
    refine ⟨?_, fun q hq record raw stage hraw hstage => ?_⟩
    · rw [haccepts]
      exact ⟨fun ⟨q, hq⟩ => ((hanchored q).1 hq).1, fun h => ⟨_, (hanchored _).2 ⟨h, rfl⟩⟩⟩
    · obtain ⟨p, hp'⟩ := haccepts.1 ⟨q, hq⟩
      obtain ⟨-, rfl⟩ := (hanchored p).1 hp'
      rw [resolve_eq_of_takesPattern hfield hop, hp'] at hq
      cases hq
      rw [evaluate_of_pattern hraw hstage, Pattern.isIn_held_iff (Pattern.bounded_of_read? hp)]
  · obtain ⟨q, hq⟩ := haccepts.1 h
    obtain ⟨r, hr, -, -⟩ := Pattern.read?_eq_some_iff.1 hq
    obtain ⟨g, hg, hmeaning⟩ := Option.bind_eq_some_iff.1 hr
    obtain ⟨a, f, ha, hf, hmeant⟩ := Pattern.Form.exists_of_read?_anchored hg
    have hreading : (Pattern.reading? a).isSome := by
      rw [Pattern.reading?, hf]
      exact hmeant (by rw [hmeaning]; rfl)
    rcases ha with rfl | ⟨b, rfl⟩
    · exact .inl hreading
    · exact .inr ⟨a, b, rfl, hreading⟩

private def labelled : Schema :=
  ⟨⟨"|", [⟨"id", .plain, .string⟩]⟩, [⟨"D", Text.Utf8.encode "SR1", "SR1", .string⟩], []⟩

private def labelledAs (raw : String) : Record :=
  (Record.ofKey [.key "id" "k" .string]).add (.column "D" "SR1" raw .string)

private def letter (c : Char) : Pattern := .letter (.single c.toNat)

theorem alternatives_held :
    labelled.resolve? ⟨"D", "SR1"⟩ = some (.static, .string) ∧
      labelled.Accepts ⟨"D", "SR1"⟩ .regexp "a|bc" ∧
      labelled.relation ⟨"D", "SR1"⟩ "a|bc" (labelledAs "bc") .regexp = .ok .yes ∧
      labelled.relation ⟨"D", "SR1"⟩ "a|bc" (labelledAs "abc") .notRegexp = .ok .yes := by
  have hfield : labelled.resolve? ⟨"D", "SR1"⟩ = some (.static, .string) := by decide
  have hread : Pattern.read? "a|bc" =
      some (.either (letter 'a') (.seq (letter 'b') (.seq (letter 'c') .empty))) := by cbv
  have hanchored : (Pattern.read? (Leaf.anchored "a|bc")).isSome := by decide +kernel
  have haccepts {op : Operator} (hop : op.takesPattern) :
      labelled.Accepts ⟨"D", "SR1"⟩ op "a|bc" :=
    (accepts_iff hfield hop _).2 (Option.isSome_iff_exists.1 hanchored)
  have hregexp : Operator.regexp.takesPattern := rfl
  have hnot : Operator.notRegexp.takesPattern := rfl
  obtain ⟨q, hq⟩ := haccepts hregexp
  obtain ⟨q', hq'⟩ := haccepts hnot
  obtain ⟨-, hmatches, -⟩ := patterns_match_whole_values hfield hregexp "a|bc"
  obtain ⟨-, hdiffers, -⟩ := patterns_match_whole_values hfield hnot "a|bc"
  refine ⟨hfield, ⟨q, hq⟩, ?_, ?_⟩
  · rw [relation, hq, Except.map, Except.ok.injEq,
      (hmatches _ hread).2 q hq _ "bc" .full rfl (Stage.resolves_full _)]
    refine iff_of_true (.right (.seq (.letter ?_) (.seq (.letter ?_) (.empty 2)))) rfl <;> decide
  · rw [relation, hq', Except.map, Except.ok.injEq,
      (hdiffers _ hread).2 q' hq' _ "abc" .full rfl (Stage.resolves_full _)]
    refine iff_of_false (fun h => ?_) (by decide)
    cases h with
    | left h => cases h
    | right h =>
        cases h with
        | seq hb _ =>
            cases hb with
            | letter hb => exact absurd hb (by decide)

/-- A text that closes the group itself is taken, though it is no pattern, and then matches values
that only end as it does. A pattern that ends in a comment is not taken. -/
theorem closing_text_accepted :
    labelled.resolve? ⟨"D", "SR1"⟩ = some (.static, .string) ∧
      (Pattern.read? "a)|(?:b" = none ∧ labelled.Accepts ⟨"D", "SR1"⟩ .regexp "a)|(?:b" ∧
        labelled.relation ⟨"D", "SR1"⟩ "a)|(?:b" (labelledAs "xb") .regexp = .ok .yes) ∧
      (Pattern.read? "(?x)a #c").isSome ∧
        ¬ labelled.Accepts ⟨"D", "SR1"⟩ .regexp "(?x)a #c" := by
  have hfield : labelled.resolve? ⟨"D", "SR1"⟩ = some (.static, .string) := by decide
  have hread : Pattern.read? (Leaf.anchored "a)|(?:b") =
      some (.either (.seq (.anchor .textStart .empty) (.seq (letter 'a') .empty))
        (.seq (letter 'b') (.seq (.anchor .textEnd .empty) .empty))) := by cbv
  refine ⟨hfield, ⟨?_, ?_, ?_⟩, ?_, ?_⟩
  · cbv
  · exact (accepts_iff hfield rfl _).2 ⟨_, hread⟩
  · have hraw : FieldName.valueIn ⟨"D", "SR1"⟩ (labelledAs "xb") = some "xb" := rfl
    rw [relation, resolve_eq_of_takesPattern hfield rfl, hread, Except.map, Except.ok.injEq,
      evaluate_of_pattern hraw (Stage.resolves_full _),
      Pattern.isIn_iff (Pattern.bounded_of_read? hread)]
    refine iff_of_true ⟨1, 2, by decide, .right (.seq (.letter ?_) (.seq (.anchor ?_) (.empty 2)))⟩
      rfl <;> decide
  · decide +kernel
  · rw [accepts_iff hfield rfl]
    rintro ⟨p, hp⟩
    have hnone : (Pattern.read? (Leaf.anchored "(?x)a #c")).isNone := by decide +kernel
    rw [hp] at hnone
    cases hnone

end Schema

end WideRow
