import Mathlib.Data.List.Infix
import Mathlib.Data.String.Basic
import WideRow.Document.Column
import WideRow.Proofs.Cuts
import WideRow.Proofs.Maps

namespace WideRow

theorem isPrefix_of_between {front xs ys : List Char} (hys : front <+: ys)
    (hle : ¬ List.Lex (· < ·) xs front) (hxs : ¬ List.Lex (· < ·) ys xs) : front <+: xs := by
  induction front generalizing xs ys with
  | nil => exact List.nil_prefix
  | cons c front ih =>
      obtain ⟨rest, rfl⟩ := hys
      cases xs with
      | nil => exact absurd .nil hle
      | cons x xs =>
          have hxc : ¬ x < c := fun h => hle (.rel h)
          have hcx : ¬ c < x := fun h => hxs (.rel h)
          obtain rfl : x = c := le_antisymm (not_lt.1 hcx) (not_lt.1 hxc)
          refine List.cons_prefix_cons.2 ⟨rfl, ih (List.prefix_append front rest) ?_ ?_⟩
          · exact fun h => hle (.cons h)
          · exact fun h => hxs (.cons h)

theorem not_lex_of_isPrefix {front xs : List Char} (h : front <+: xs) :
    ¬ List.Lex (· < ·) xs front := by
  induction front generalizing xs with
  | nil => nofun
  | cons c front ih =>
      obtain ⟨rest, rfl⟩ := h
      rintro (_ | hlt | hlt)
      · exact lt_irrefl c hlt
      · exact ih (List.prefix_append front rest) hlt

theorem startsWith_iff {front s : String} : startsWith front s ↔ front.toList <+: s.toList :=
  List.isPrefixOf_iff_prefix

theorem compare_ne_gt_iff {a b : String} :
    (compare a b != .gt) ↔ ¬ List.Lex (· < ·) b.toList a.toList := by
  rw [bne_iff_ne, compare_le_iff_le, ← not_lt, String.lt_iff_toList_lt]
  exact Iff.rfl

theorem compare_ne_gt_of_startsWith {front s : String} (h : startsWith front s) :
    compare front s != .gt :=
  compare_ne_gt_iff.2 (not_lex_of_isPrefix (startsWith_iff.1 h))

/-- Of ascending texts the first that does not come before `a` comes before all others like it. -/
theorem compare_of_find? {a p s : String} {texts : List String}
    (h : texts.Pairwise fun a b => compare a b = .lt)
    (hp : texts.find? (fun p => compare a p != .gt) = some p) (hs : s ∈ texts)
    (has : compare a s != .gt) : compare p s != .gt := by
  obtain ⟨_, before, after, rfl, hbefore⟩ := List.find?_eq_some_iff_append.1 hp
  rcases List.mem_append.1 hs with hs | hs
  · have hnot : (!(compare a s != .gt)) = true := hbefore s hs
    rw [has] at hnot
    cases hnot
  · rcases List.mem_cons.1 hs with rfl | hs
    · rw [Std.ReflOrd.compare_self]
      rfl
    · rw [(List.pairwise_cons.1 (List.pairwise_append.1 h).2.1).1 s hs]
      rfl

namespace Text

theorem pieces_append_cons (c : Char) (xs ys : List Char) :
    pieces [c] 0 (xs ++ c :: ys) = pieces [c] 0 xs ++ pieces [c] 0 ys := by
  induction xs with
  | nil => simp [pieces]
  | cons x xs ih =>
      by_cases hx : c = x
      · subst hx
        simp [pieces, ih]
      · have hcuts := (pieces_eq_iff (List.cons_ne_nil c [])).1 (Eq.refl (pieces [c] 0 xs))
        obtain ⟨p, ps, hp⟩ := List.exists_cons_of_ne_nil hcuts.ne_nil
        simp [pieces, hx, ih, hp]

theorem pieces_of_not_mem {c : Char} {xs : List Char} (h : c ∉ xs) : pieces [c] 0 xs = [xs] :=
  pieces_of_not_isInfix (mt (List.singleton_infix_iff c xs).1 h)

end Text

namespace DocumentColumn

variable {d : DocumentColumn} {path : String}

theorem allows_iff : d.allows path ↔ path ∈ d.paths.members :=
  SortedMap.mem_keys.symm

/-- The look at one path tells whether any of them lies below. -/
theorem opensBelow_iff :
    d.opensBelow path ↔ ∃ p ∈ d.paths.members, startsWith (path ++ pathMark) p := by
  rw [opensBelow, Option.any_eq_true]
  constructor
  · rintro ⟨p, hp, hstart⟩
    exact ⟨p, List.mem_of_find?_eq_some hp, hstart⟩
  · rintro ⟨s, hs, hstart⟩
    have hcompare := compare_ne_gt_of_startsWith hstart
    have hsome : (d.paths.members.find? fun p => compare (path ++ pathMark) p != .gt).isSome :=
      List.find?_isSome.2 ⟨s, hs, hcompare⟩
    obtain ⟨p, hp⟩ := Option.isSome_iff_exists.1 hsome
    refine ⟨p, hp, startsWith_iff.2 (isPrefix_of_between (startsWith_iff.1 hstart) ?_ ?_)⟩
    · exact compare_ne_gt_iff.1 (List.find?_some (p := fun p => compare _ p != .gt) hp)
    · exact compare_ne_gt_iff.1 (compare_of_find? (SortedMap.keys_ascending d.paths) hp hs hcompare)

def segments (path : String) : List String := Text.split pathMark path

theorem segments_eq (path : String) :
    segments path = (Text.pieces ['>'] 0 path.toList).map String.ofList :=
  rfl

theorem segments_pathText {names : List String} (h : names ≠ []) :
    segments (pathText names) = names.flatMap segments := by
  induction names with
  | nil => exact absurd rfl h
  | cons name names ih =>
      cases names with
      | nil => simp [pathText, Text.join]
      | cons next names =>
          have htext : (pathText (name :: next :: names)).toList =
              name.toList ++ '>' :: (pathText (next :: names)).toList := by
            simp [pathText, Text.join, pathMark]
          rw [List.flatMap_cons, ← ih (List.cons_ne_nil _ _), segments_eq, htext,
            Text.pieces_append_cons, List.map_append, ← segments_eq, ← segments_eq]

theorem segments_of_not_mem {name : String} (h : '>' ∉ name.toList) : segments name = [name] := by
  rw [segments_eq, Text.pieces_of_not_mem h, List.map_singleton, String.ofList_toList]

end DocumentColumn

end WideRow
