import WideRow.Proofs.Cuts
import WideRow.Schema.Layout

namespace WideRow

namespace Text

section Lists

variable {α : Type} {sep xs piece : List α} {ps : List (List α)} {start i k : Nat}
  {places places' : List Nat}

/-- The separator stands in the text at the place. -/
def StandsAt (sep xs : List α) (i : Nat) : Prop := sep <+: xs.drop i

instance [DecidableEq α] (sep xs : List α) (i : Nat) : Decidable (StandsAt sep xs i) :=
  inferInstanceAs (Decidable (sep <+: xs.drop i))

/-- The places of the separators that are found from `start` on: the first place at which one
stands, and those found from its end on. One that begins within another is not found. -/
inductive Found (sep xs : List α) : Nat → List Nat → Prop
  | none {start : Nat} (h : ∀ i, start ≤ i → ¬ StandsAt sep xs i) : Found sep xs start []
  | next {start i : Nat} {places : List Nat} (hi : start ≤ i) (h : StandsAt sep xs i)
      (hfirst : ∀ j, start ≤ j → j < i → ¬ StandsAt sep xs j)
      (hrest : Found sep xs (i + sep.length) places) : Found sep xs start (i :: places)

theorem Found.unique (h : Found sep xs start places) (h' : Found sep xs start places') :
    places = places' := by
  induction h generalizing places' with
  | none hnone =>
      cases h' with
      | none => rfl
      | next hi h => exact absurd h (hnone _ hi)
  | @next start i places hi h hfirst hrest ih =>
      cases h' with
      | none hnone => exact absurd h (hnone i hi)
      | @next _ j _ hj h' hfirst' hrest' =>
          have hji : j ≤ i := Nat.not_lt.1 fun hlt => hfirst' i hi hlt h
          have hij : i ≤ j := Nat.not_lt.1 fun hlt => hfirst j hj hlt h'
          obtain rfl := Nat.le_antisymm hij hji
          rw [ih hrest']

theorem standsAt_append (front : List α) :
    StandsAt sep (front ++ xs) (front.length + k) ↔ StandsAt sep xs k := by
  rw [StandsAt, StandsAt, List.drop_length_add_append]

theorem StandsAt.isInfix (h : StandsAt sep xs i) : sep <:+: xs :=
  (List.IsPrefix.isInfix h).trans (List.drop_suffix i xs).isInfix

theorem Clear.drop (h : Clear sep xs) (k : Nat) : Clear sep (xs.drop k) := by
  have hsuffix : xs.drop k ++ sep.dropLast <:+ xs ++ sep.dropLast :=
    ⟨xs.take k, by rw [← List.append_assoc, List.take_append_drop]⟩
  exact fun hin => h (hin.trans hsuffix.isInfix)

theorem not_standsAt_of_clear (hsep : sep ≠ []) (h : Clear sep piece) (hk : k < piece.length)
    (rest : List α) : ¬ StandsAt sep (piece ++ sep ++ rest) k := by
  have hdrop : (piece ++ sep ++ rest).drop k = piece.drop k ++ sep ++ rest := by
    rw [List.append_assoc, List.drop_append_of_le_length (Nat.le_of_lt hk), List.append_assoc]
  have hclear := h.drop k
  rw [List.drop_eq_getElem_cons hk] at hclear
  rw [StandsAt, hdrop, List.drop_eq_getElem_cons hk]
  exact not_prefix_of_clear hsep hclear

theorem Cuts.exists_found (hsep : sep ≠ []) (h : Cuts sep xs ps) (front : List α) :
    ∃ places, Found sep (front ++ xs) front.length places ∧ ps.length = 1 + places.length := by
  -- the pieces to come are those of a text of its own, for which `front` grows by what is cut off
  induction h generalizing front with
  | whole h =>
      refine ⟨[], .none fun i hi hstands => h ?_, rfl⟩
      obtain ⟨k, rfl⟩ := Nat.exists_eq_add_of_le hi
      exact ((standsAt_append front).1 hstands).isInfix
  | @cut piece rest ps h hrest ih =>
      obtain ⟨places, hplaces, hlength⟩ := ih (front ++ piece ++ sep)
      refine ⟨(front.length + piece.length) :: places, .next (Nat.le_add_right _ _) ?_ ?_ ?_, ?_⟩
      · rw [standsAt_append, StandsAt, List.append_assoc, List.drop_left]
        exact List.prefix_append sep rest
      · intro j hj hlt
        obtain ⟨k, rfl⟩ := Nat.exists_eq_add_of_le hj
        rw [standsAt_append]
        exact not_standsAt_of_clear hsep h (Nat.lt_of_add_lt_add_left hlt) rest
      · simpa [Nat.add_assoc] using hplaces
      · rw [List.length_cons, List.length_cons, hlength, Nat.add_assoc]

end Lists

variable {sep s : String} {places : List Nat}

theorem exists_found (hsep : sep ≠ "") (s : String) :
    ∃ places, Found sep.toList s.toList 0 places ∧ (split sep s).length = 1 + places.length := by
  obtain ⟨places, hplaces, hlength⟩ := (cuts_split hsep s).exists_found (by simpa using hsep) []
  exact ⟨places, hplaces, by rw [← hlength, List.length_map]⟩

end Text

namespace Layout

variable {layout : Layout} {g : String} {components : List String}

theorem split?_eq_some_iff : layout.split? g = some components ↔
    Text.split layout.separatorText g = components ∧
      components.length = layout.parts.length := by
  rw [split?]
  split
  next hlength =>
    rw [Option.some_inj]
    constructor
    · rintro rfl
      exact ⟨rfl, hlength⟩
    · exact And.left
  next hlength =>
    refine iff_of_false nofun ?_
    rintro ⟨rfl, h⟩
    exact hlength h

theorem isSome_split?_iff : (layout.split? g).isSome ↔
    (Text.split layout.separatorText g).length = layout.parts.length := by
  rw [Option.isSome_iff_exists]
  simp only [split?_eq_some_iff, exists_eq_left']

theorem join_of_split? (h : layout.split? g = some components) :
    components.length = layout.parts.length ∧ layout.join components = g := by
  obtain ⟨rfl, hlength⟩ := split?_eq_some_iff.1 h
  exact ⟨hlength, Text.join_split _ g⟩

theorem parts_ne_nil (h : layout.split? g = some components) : layout.parts ≠ [] := by
  obtain ⟨rfl, hlength⟩ := split?_eq_some_iff.1 h
  intro hnil
  rw [hnil, List.length_nil, List.length_eq_zero_iff] at hlength
  exact Text.split_ne_nil _ g hlength

/-- The components of an id are as many as the parts, hold no separator and make up the id. There
are components where the separators found in the id are one fewer than the parts. -/
theorem split?_exact (layout : Layout) :
    (∀ g components, layout.split? g = some components →
      components.length = layout.parts.length ∧ layout.join components = g ∧
        ∀ sep, layout.separator = some sep → sep ≠ "" →
          ∀ c ∈ components, ¬ sep.toList <:+: c.toList) ∧
    (∀ g g' components, layout.split? g = some components → layout.split? g' = some components →
      g = g') ∧
    (∀ sep, layout.separator = some sep → sep ≠ "" → ∀ g, ∃ places,
      (∀ found, Text.Found sep.toList g.toList 0 found ↔ found = places) ∧
        ((layout.split? g).isSome ↔ 1 + places.length = layout.parts.length)) ∧
    (layout.separator.getD "" = "" → ∀ g, (layout.split? g).isSome ↔ layout.parts.length = 1) := by
  refine ⟨fun g components h => ?_, fun g g' components h h' => ?_, fun sep hsome hsep g => ?_,
    fun hnone g => ?_⟩
  · obtain ⟨hlength, hjoin⟩ := join_of_split? h
    refine ⟨hlength, hjoin, fun sep hsome hsep c hc hin => ?_⟩
    obtain ⟨rfl, _⟩ := split?_eq_some_iff.1 h
    have hfree := Text.not_holds_of_mem_split hc
    rw [separatorText, hsome, Option.getD_some] at hfree
    exact Bool.eq_false_iff.1 hfree (Text.holds_iff.2 ⟨hsep, hin⟩)
  · rw [← (join_of_split? h).2, ← (join_of_split? h').2]
  · obtain ⟨places, hplaces, hlength⟩ := Text.exists_found hsep g
    refine ⟨places, fun found => ⟨fun hfound => hfound.unique hplaces, ?_⟩, ?_⟩
    · rintro rfl
      exact hplaces
    · rw [isSome_split?_iff, separatorText, hsome, Option.getD_some, hlength]
  · rw [isSome_split?_iff, separatorText, hnone, Text.split_without_separator,
      List.length_singleton, eq_comm]

private def dashed : Layout := ⟨["lot", "line"], some "--"⟩

/-- The separator stands in the id at two places, which overlap: the first is found. -/
theorem dashed_lot_split :
    Text.StandsAt "--".toList "x---y".toList 1 ∧ Text.StandsAt "--".toList "x---y".toList 2 ∧
      dashed.split? "x---y" = some ["x", "-y"] ∧ dashed.join ["x", "-y"] = "x---y" ∧
      ∃ place, ∀ found, Text.Found "--".toList "x---y".toList 0 found ↔ found = [place] := by
  obtain ⟨hparts, _, hcount, _⟩ := split?_exact dashed
  have hsplit : dashed.split? "x---y" = some ["x", "-y"] := by decide +kernel
  refine ⟨by decide, by decide, hsplit, (hparts _ _ hsplit).2.1, ?_⟩
  obtain ⟨places, hfound, hlength⟩ := hcount "--" rfl (by decide) "x---y"
  have hone : 1 + places.length = 2 := hlength.1 (by rw [hsplit]; rfl)
  obtain ⟨place, rfl⟩ := List.length_eq_one_iff.1 (show places.length = 1 by omega)
  exact ⟨place, hfound⟩

end Layout

end WideRow
