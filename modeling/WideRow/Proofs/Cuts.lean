import WideRow.Text.Split

namespace WideRow.Text

section Lists

variable {α : Type} {sep xs ys : List α} {ps : List (List α)}

theorem isPrefix_of_append_cons {c : α} {zs : List α} (hc : c ∉ xs) (h : xs <+: ys ++ c :: zs) :
    xs <+: ys := by
  rcases List.prefix_or_prefix_of_prefix h (List.prefix_append ys _) with hxs | ⟨rest, rfl⟩
  · exact hxs
  · have hrest := (List.prefix_append_right_inj ys).1 h
    cases rest with
    | nil => simp
    | cons x rest =>
        obtain ⟨rfl, _⟩ := List.cons_prefix_cons.1 hrest
        exact absurd (List.mem_append_right ys List.mem_cons_self) hc

/-- The separator does not begin in the piece, nor does it end behind it. -/
def Clear (sep piece : List α) : Prop := ¬ sep <:+: piece ++ sep.dropLast

theorem Clear.not_isInfix (h : Clear sep xs) : ¬ sep <:+: xs :=
  fun hin => h (hin.trans (List.prefix_append _ _).isInfix)

/-- The pieces that a text is cut into, from left to right and each at the first separator. -/
inductive Cuts (sep : List α) : List α → List (List α) → Prop
  | whole {xs : List α} (h : ¬ sep <:+: xs) : Cuts sep xs [xs]
  | cut {piece rest : List α} {ps : List (List α)} (h : Clear sep piece)
      (hrest : Cuts sep rest ps) :
      Cuts sep (piece ++ sep ++ rest) (piece :: ps)

theorem Cuts.ne_nil (h : Cuts sep xs ps) : ps ≠ [] := by
  cases h <;> exact List.cons_ne_nil _ _

theorem Cuts.intercalate_eq (h : Cuts sep xs ps) : sep.intercalate ps = xs := by
  induction h with
  | whole h => exact List.intercalate_singleton
  | cut h hrest ih => rw [List.intercalate_cons_of_ne_nil hrest.ne_nil, ih]

theorem Cuts.not_isInfix (h : Cuts sep xs ps) : ∀ p ∈ ps, ¬ sep <:+: p := by
  induction h with
  | whole h =>
      intro p hp
      exact List.mem_singleton.1 hp ▸ h
  | cut h hrest ih =>
      intro p hp
      rcases List.mem_cons.1 hp with rfl | hp
      · exact h.not_isInfix
      · exact ih p hp

theorem Cuts.clear (h : Cuts sep xs ps) : ∀ p ∈ ps.dropLast, Clear sep p := by
  induction h with
  | whole h => exact nofun
  | cut h hrest ih =>
      intro p hp
      rw [List.dropLast_cons_of_ne_nil hrest.ne_nil] at hp
      rcases List.mem_cons.1 hp with rfl | hp
      · exact h
      · exact ih p hp

theorem cuts_intercalate (hne : ps ≠ []) (hno : ∀ p ∈ ps, ¬ sep <:+: p)
    (hclear : ∀ p ∈ ps.dropLast, Clear sep p) : Cuts sep (sep.intercalate ps) ps := by
  induction ps with
  | nil => exact absurd rfl hne
  | cons p ps ih =>
      by_cases hps : ps = []
      · subst hps
        rw [List.intercalate_singleton]
        exact .whole (hno p List.mem_cons_self)
      · rw [List.dropLast_cons_of_ne_nil hps] at hclear
        rw [List.intercalate_cons_of_ne_nil hps]
        refine .cut (hclear p List.mem_cons_self) (ih hps ?_ ?_)
        · exact fun q hq => hno q (List.mem_cons_of_mem p hq)
        · exact fun q hq => hclear q (List.mem_cons_of_mem p hq)

theorem append_dropLast_isPrefix (xs sep rest : List α) :
    xs ++ sep.dropLast <+: xs ++ sep ++ rest := by
  rw [List.append_assoc, List.prefix_append_right_inj]
  exact (List.dropLast_prefix sep).trans (List.prefix_append sep rest)

theorem not_prefix_of_clear {x : α} {rest : List α} (hsep : sep ≠ []) (h : Clear sep (x :: xs)) :
    ¬ sep <+: x :: xs ++ sep ++ rest := by
  intro hpre
  have hlen := List.length_pos_iff.2 hsep
  have hshort : sep.length ≤ (x :: xs ++ sep.dropLast).length := by
    rw [List.length_append, List.length_cons, List.length_dropLast]
    omega
  have hfront := append_dropLast_isPrefix (x :: xs) sep rest
  exact h (List.prefix_of_prefix_length_le hpre hfront hshort).isInfix

theorem exists_first (hsep : sep ≠ []) (h : sep <:+: xs) :
    ∃ piece rest, xs = piece ++ sep ++ rest ∧ Clear sep piece := by
  induction xs with
  | nil => exact absurd (List.infix_nil.1 h) hsep
  | cons x xs ih =>
      by_cases hpre : sep <+: x :: xs
      · obtain ⟨rest, hrest⟩ := hpre
        refine ⟨[], rest, hrest.symm, ?_⟩
        intro hin
        have hle := hin.length_le
        have hlen := List.length_pos_iff.2 hsep
        rw [List.nil_append, List.length_dropLast] at hle
        omega
      · obtain ⟨piece, rest, rfl, hclear⟩ := ih ((List.infix_cons_iff.1 h).resolve_left hpre)
        refine ⟨x :: piece, rest, rfl, ?_⟩
        intro hin
        rcases List.infix_cons_iff.1 hin with hin | hin
        · exact hpre (hin.trans (append_dropLast_isPrefix (x :: piece) sep rest))
        · exact hclear hin

theorem exists_cuts (hsep : sep ≠ []) (xs : List α) : ∃ ps, Cuts sep xs ps := by
  by_cases h : sep <:+: xs
  · obtain ⟨piece, rest, hxs, hclear⟩ := exists_first hsep h
    have hlen := List.length_pos_iff.2 hsep
    have hshorter : rest.length < xs.length := by
      rw [hxs, List.length_append, List.length_append]
      omega
    obtain ⟨ps, hps⟩ := exists_cuts hsep rest
    exact ⟨piece :: ps, hxs ▸ .cut hclear hps⟩
  · exact ⟨[xs], .whole h⟩
termination_by xs.length

variable [DecidableEq α]

theorem occursIn_iff : occursIn sep xs ↔ sep <:+: xs := by
  induction xs with
  | nil => simp [occursIn]
  | cons x xs ih => simp [occursIn, ih, List.infix_cons_iff]

instance : Decidable (Clear sep xs) :=
  decidable_of_iff (¬ occursIn sep (xs ++ sep.dropLast)) (not_congr occursIn_iff)

theorem pieces_skip (ys xs : List α) : pieces sep ys.length (ys ++ xs) = pieces sep 0 xs := by
  induction ys with
  | nil => rfl
  | cons y ys ih => exact ih

theorem pieces_separator (hsep : sep ≠ []) (xs : List α) :
    pieces sep 0 (sep ++ xs) = [] :: pieces sep 0 xs := by
  obtain ⟨s, ss, rfl⟩ := List.exists_cons_of_ne_nil hsep
  have hpre : (s :: ss).isPrefixOf (s :: (ss ++ xs)) :=
    List.isPrefixOf_iff_prefix.2 (List.prefix_append (s :: ss) xs)
  rw [List.cons_append, pieces, if_pos hpre, List.length_cons, Nat.add_sub_cancel, pieces_skip]

theorem pieces_cons {x : α} {p : List α} (h : ¬ sep <+: x :: xs) (hxs : pieces sep 0 xs = p :: ps) :
    pieces sep 0 (x :: xs) = (x :: p) :: ps := by
  rw [pieces, if_neg (fun hpre => h (List.isPrefixOf_iff_prefix.1 hpre)), hxs]

theorem pieces_of_not_isInfix (h : ¬ sep <:+: xs) : pieces sep 0 xs = [xs] := by
  induction xs with
  | nil => rfl
  | cons x xs ih =>
      rw [List.infix_cons_iff, not_or] at h
      exact pieces_cons h.1 (ih h.2)

theorem pieces_of_clear (hsep : sep ≠ []) (h : Clear sep ys) (xs : List α) :
    pieces sep 0 (ys ++ sep ++ xs) = ys :: pieces sep 0 xs := by
  induction ys with
  | nil => exact pieces_separator hsep xs
  | cons y ys ih =>
      have hys : Clear sep ys := fun hin => h (List.infix_cons hin)
      exact pieces_cons (not_prefix_of_clear hsep h) (ih hys)

theorem pieces_of_cuts (hsep : sep ≠ []) (h : Cuts sep xs ps) : pieces sep 0 xs = ps := by
  induction h with
  | whole h => exact pieces_of_not_isInfix h
  | cut h hrest ih => rw [pieces_of_clear hsep h, ih]

theorem pieces_eq_iff (hsep : sep ≠ []) : pieces sep 0 xs = ps ↔ Cuts sep xs ps := by
  refine ⟨?_, pieces_of_cuts hsep⟩
  rintro rfl
  obtain ⟨ps, hps⟩ := exists_cuts hsep xs
  exact pieces_of_cuts hsep hps ▸ hps

end Lists

variable {sep s : String} {parts : List String}

theorem split_eq_iff (hsep : sep ≠ "") :
    split sep s = parts ↔ Cuts sep.toList s.toList (parts.map String.toList) := by
  have hempty : sep.isEmpty = false := by simpa using hsep
  rw [← pieces_eq_iff (by simpa using hsep), split, if_neg (by simp [hempty])]
  constructor
  · rintro rfl
    simp [List.map_map, Function.comp_def]
  · intro h
    simp [h, List.map_map, Function.comp_def]

theorem cuts_split (hsep : sep ≠ "") (s : String) :
    Cuts sep.toList s.toList ((split sep s).map String.toList) :=
  (split_eq_iff hsep).1 rfl

theorem split_without_separator (s : String) : split "" s = [s] := rfl

theorem split_ne_nil (sep s : String) : split sep s ≠ [] := by
  by_cases hsep : sep = ""
  · rw [hsep, split_without_separator]
    exact List.cons_ne_nil _ _
  · exact fun hnil => (cuts_split hsep s).ne_nil (by rw [hnil, List.map_nil])

theorem toList_join : (join sep parts).toList = sep.toList.intercalate (parts.map String.toList) :=
  String.toList_intercalate

theorem join_singleton : join sep [s] = s := by
  apply String.toList_inj.1
  rw [toList_join, List.map_singleton, List.intercalate_singleton]

theorem holds_iff : holds sep s ↔ sep ≠ "" ∧ sep.toList <:+: s.toList := by
  rw [holds, Bool.and_eq_true, occursIn_iff]
  simp

theorem join_split (sep s : String) : join sep (split sep s) = s := by
  by_cases hsep : sep = ""
  · rw [hsep, split_without_separator, join_singleton]
  · apply String.toList_inj.1
    rw [toList_join, (cuts_split hsep s).intercalate_eq]

theorem not_holds_of_mem_split {v : String} (h : v ∈ split sep s) : holds sep v = false := by
  rw [Bool.eq_false_iff, ne_eq, holds_iff]
  rintro ⟨hsep, hin⟩
  exact (cuts_split hsep s).not_isInfix v.toList (List.mem_map_of_mem h) hin

/-- Pieces without separators are cut out again where nothing is mistaken for a separator. -/
theorem split_join_iff (hsep : sep ≠ "") (hne : parts ≠ [])
    (hno : ∀ v ∈ parts, holds sep v = false) :
    split sep (join sep parts) = parts ↔ ∀ v ∈ parts.dropLast, Clear sep.toList v.toList := by
  rw [split_eq_iff hsep, toList_join]
  constructor
  · intro h v hv
    apply h.clear
    rw [← List.map_dropLast]
    exact List.mem_map_of_mem hv
  · intro h
    have hfree : ∀ v ∈ parts, ¬ sep.toList <:+: v.toList := by
      intro v hv hin
      have hholds := holds_iff.2 ⟨hsep, hin⟩
      rw [hno v hv] at hholds
      cases hholds
    refine cuts_intercalate (by simpa using hne) (List.forall_mem_map.2 hfree) ?_
    rw [← List.map_dropLast]
    exact List.forall_mem_map.2 h

end WideRow.Text
