import WideRow.Filter.Predicate
import WideRow.Proofs.FormContext

namespace WideRow.Pattern

def Form.held (f : Form) : Form := .concat [.caret, .group false ⟨[], []⟩ f, .dollar]

theorem Form.depth_held (f : Form) : f.held.depth = f.depth + 2 := by
  simp [held, depth, depthList]

section Bears

variable {f g : Form} {fs gs : List Form} {flags : Flags}

theorem Form.depth_le_depthList (h : f ∈ fs) : f.depth ≤ Form.depthList fs := by
  induction fs with
  | nil => cases h
  | cons g fs ih =>
      rw [depthList]
      cases h with
      | head => exact Nat.le_max_left _ _
      | tail _ h => exact (ih h).trans (Nat.le_max_right _ _)

theorem Form.depth_le_ofSequence (h : f ∈ fs) : f.depth ≤ (Form.ofSequence fs).depth := by
  unfold ofSequence
  split
  · cases h
  · rw [List.mem_singleton.1 h]
  · rw [depth]
    exact Nat.le_succ_of_le (depth_le_depthList h)

theorem Form.depth_le_ofAlternatives (h : f ∈ fs) : f.depth ≤ (Form.ofAlternatives fs).depth := by
  unfold ofAlternatives
  split
  · rw [List.mem_singleton.1 h]
  · rw [depth]
    exact Nat.le_succ_of_le (depth_le_depthList h)

theorem Reading.flagsAfter_cons (flags : Flags) (r : Reading) (rs : List Reading) :
    Reading.flagsAfter flags (r :: rs) = Reading.flagsAfter r.flags rs := by
  cases rs with
  | nil => rfl
  | cons s rs => simp [flagsAfter, List.getLast?_cons]

theorem Form.meanings_append (flags : Flags) (fs gs : List Form) : Form.meanings flags (fs ++ gs) =
    (Form.meanings flags fs).bind fun rs =>
      (Form.meanings (Reading.flagsAfter flags rs) gs).map (rs ++ ·) := by
  induction fs generalizing flags with
  | nil => simp [meanings, Reading.flagsAfter]
  | cons f fs ih =>
      rw [List.cons_append, meanings, meanings]
      cases f.meaning flags with
      | none => rfl
      | some r =>
          simp only [Option.bind_eq_bind, Option.bind_some, ih]
          cases hrs : meanings r.flags fs with
          | none => rfl
          | some rs =>
              rw [Option.bind_some]
              change _ = (meanings (Reading.flagsAfter flags (r :: rs)) gs).map (r :: rs ++ ·)
              rw [Reading.flagsAfter_cons]
              cases meanings (Reading.flagsAfter r.flags rs) gs <;> rfl

theorem Form.isSome_meanings_singleton :
    (Form.meanings flags [f]).isSome ↔ (f.meaning flags).isSome := by
  rw [meanings]
  cases f.meaning flags <;> simp [meanings]

theorem Form.isSome_meaning_ofSequence (h : ((Form.ofSequence fs).meaning flags).isSome) :
    (Form.meanings flags fs).isSome := by
  unfold ofSequence at h
  split at h
  · rfl
  · exact isSome_meanings_singleton.2 h
  · rw [meaning] at h
    cases hfs : meanings flags fs with
    | none => simp [hfs] at h
    | some => rfl

theorem Form.isSome_meaning_ofAlternatives (h : ((Form.ofAlternatives fs).meaning flags).isSome) :
    (Form.meanings flags fs).isSome := by
  unfold ofAlternatives at h
  split at h
  · exact isSome_meanings_singleton.2 h
  · rw [meaning] at h
    cases hfs : meanings flags fs with
    | none => simp [hfs] at h
    | some => rfl

/-- Forms, the last one first, that nest deeper than `f` and mean nothing unless it does. -/
structure Form.Bears (f : Form) (fs : List Form) : Prop where
  deeper : ∃ g ∈ fs, f.depth < g.depth
  meant (h : (Form.meanings {} fs.reverse).isSome) : (f.meaning {}).isSome

theorem Form.Bears.cons (h : f.Bears fs) (g : Form) : f.Bears (g :: fs) where
  deeper := by
    obtain ⟨x, hx, hlt⟩ := h.deeper
    exact ⟨x, List.mem_cons_of_mem g hx, hlt⟩
  meant hsome := by
    rw [List.reverse_cons, meanings_append] at hsome
    cases hrs : meanings {} fs.reverse with
    | none => simp [hrs] at hsome
    | some rs => exact h.meant (by rw [hrs]; rfl)

theorem Form.Bears.repeated (h : f.Bears (g :: fs)) (b : Bounds) (few : Bool) :
    f.Bears (.repeated g b few :: fs) where
  deeper := by
    obtain ⟨x, hx, hlt⟩ := h.deeper
    cases hx with
    | head => exact ⟨_, List.mem_cons_self, hlt.trans (Nat.lt_succ_self _)⟩
    | tail _ hx => exact ⟨x, List.mem_cons_of_mem _ hx, hlt⟩
  meant hsome := by
    refine h.meant ?_
    rw [List.reverse_cons, meanings_append] at hsome ⊢
    cases hrs : meanings {} fs.reverse with
    | none => simp [hrs] at hsome
    | some rs =>
        simp only [hrs, Option.bind_some, Option.isSome_map, isSome_meanings_singleton] at hsome ⊢
        cases hg : g.meaning (Reading.flagsAfter {} rs) with
        | none => simp [meaning, hg] at hsome
        | some r => rfl

theorem Form.Bears.ofSequence (h : f.Bears fs) : f.Bears [.ofSequence fs.reverse] where
  deeper := by
    obtain ⟨x, hx, hlt⟩ := h.deeper
    exact ⟨_, List.mem_singleton_self _,
      hlt.trans_le (depth_le_ofSequence (List.mem_reverse.2 hx))⟩
  meant hsome := h.meant (isSome_meaning_ofSequence (isSome_meanings_singleton.1 hsome))

theorem Form.Bears.ofAlternatives (h : f.Bears fs) : f.Bears [.ofAlternatives fs.reverse] where
  deeper := by
    obtain ⟨x, hx, hlt⟩ := h.deeper
    exact ⟨_, List.mem_singleton_self _,
      hlt.trans_le (depth_le_ofAlternatives (List.mem_reverse.2 hx))⟩
  meant hsome := h.meant (isSome_meaning_ofAlternatives (isSome_meanings_singleton.1 hsome))

theorem Form.bears_group (f : Form) : f.Bears [.group false ⟨[], []⟩ f, .caret] where
  deeper := ⟨_, List.mem_cons_self, Nat.lt_succ_self _⟩
  meant hsome := by
    change ((meanings {} ([.caret] ++ [.group false ⟨[], []⟩ f])).isSome) at hsome
    have hcaret : meanings {} [.caret] = some [.ofAnchor {} .textStart .empty] := rfl
    rw [meanings_append, hcaret, Option.bind_some, Option.isSome_map, isSome_meanings_singleton]
      at hsome
    change ((f.meaning {}).bind _).isSome at hsome
    cases hf : f.meaning {} with
    | none => simp [hf] at hsome
    | some r => rfl

end Bears

namespace Read

variable {n m : Nat} {cs ds : List Char} {c d : Cursor} {f g : Form} {reversed : List Form}

theorem bears_sequence (n : Nat) (h : f.Bears reversed) :
    Yields (fun g => f.Bears [g]) (sequence n reversed) := by
  induction n generalizing reversed with
  | zero => exact .failure
  | succ n ih =>
      have hnext (g : Form) := ih (h.cons g)
      have hrepeated (g : Form) (before : List Form) (hrev : reversed = g :: before) (b : Bounds)
          (few : Bool) := ih ((hrev ▸ h).repeated b few)
      simp only [sequence]
      refine .any_bind fun _ => ?_
      refine .any_bind fun c => ?_
      cases c with
      | none => exact .pure h.ofSequence
      | some c =>
          dsimp only
          split
          · exact .pure h.ofSequence
          split
          · exact .any_bind hnext
          split
          · exact .any_bind fun fuel => .any_bind fun s => hnext _
          split
          · refine Yields.bind (yields_repeatable reversed) fun p hp => ?_
            exact .any_bind fun b => .any_bind fun few => hrepeated p.1 p.2 hp b few
          split
          · refine Yields.bind (yields_repeatable reversed) fun p hp => ?_
            exact .any_bind fun _ => .any_bind fun few => hrepeated p.1 p.2 hp _ few
          · exact .any_bind hnext

theorem bears_alternatives (n : Nat) (h : f.Bears reversed) :
    Yields (fun g => f.Bears [g]) (alternatives n reversed) := by
  induction n generalizing reversed with
  | zero => exact .failure
  | succ n ih =>
      simp only [alternatives]
      refine .any_bind fun g => ?_
      refine .any_bind fun c => ?_
      split
      · exact .any_bind fun _ => ih (h.cons g)
      · exact .pure (h.cons g).ofAlternatives

theorem run_of_fuel (h : (alternatives n []).run c = some (f, d))
    (hm : 3 * c.rest.length + 2 ≤ m) : (alternatives m []).run c = some (f, d) := by
  have hs : Beside .alike c (some c) := .same c rfl
  obtain ⟨-, o, hs', hk, hrun⟩ := (carriesForms n).alternatives hs hm [] f d h
  cases o with
  | none => exact absurd (hk.beyond rfl) (by simp [Ends.near])
  | some d' =>
      obtain ⟨_, ⟨⟩, hrun⟩ := hrun d' rfl
      cases hs' <;> exact hrun

/-- A text that is read to its end is read as the same where a group ends behind it, or its last
comment goes on. -/
theorem run_closed (h : (alternatives n []).run c = some (f, d)) (hd : d.rest = [])
    (hm : 3 * c.rest.length + 2 ≤ m) :
    ∃ d', (alternatives m []).run { c with rest := c.rest ++ closing } = some (f, d') ∧
      (d'.rest = closing ∨ d'.rest = []) := by
  have hs : Beside .closed c (some { c with rest := c.rest ++ closing }) := by
    have hlive := Beside.live (e := .closed) c.rest c.verbose c.names
    rwa [Ends.near, List.append_nil] at hlive
  obtain ⟨-, o, hs', hk, hrun⟩ := (carriesForms n).alternatives hs hm [] f d h
  cases o with
  | none => exact absurd (hk.beyond rfl) (by simp [Ends.near])
  | some d' =>
      obtain ⟨_, ⟨⟩, hrun⟩ := hrun d' rfl
      refine ⟨d', hrun, ?_⟩
      cases hs' with
      | live rest =>
          left
          rw [Ends.near, List.append_nil] at hd
          have hrest : rest = [] := hd
          rw [hrest]
          rfl
      | same => exact .inr hd

/-- What is read up to the end of a group can be read on its own. -/
theorem run_cut (h : (alternatives n []).run { c with rest := cs ++ ')' :: ds } = some (f, d))
    (hd : d.rest = ')' :: ds) (hm : 3 * cs.length + 2 ≤ m) :
    ∃ d', (alternatives m []).run { c with rest := cs } = some (f, d') ∧ d'.rest = [] := by
  have hs : Beside (.cut ds) { c with rest := cs ++ ')' :: ds } (some { c with rest := cs }) := by
    have hlive := Beside.live (e := .cut ds) cs c.verbose c.names
    rwa [Ends.far, List.append_nil] at hlive
  have hfuel : 3 * (cs ++ ')' :: ds).length + 2 ≤ m + 3 * (')' :: ds).length := by
    rw [List.length_append]
    omega
  obtain ⟨-, o, hs', hk, hrun⟩ := (carriesForms n).alternatives hs hfuel [] f d h
  cases o with
  | none =>
      have hlt := (hk.beyond rfl).resolve_left (Option.some_ne_none _)
      rw [hd] at hlt
      exact absurd hlt (Nat.lt_irrefl _)
  | some d' =>
      obtain ⟨_, ⟨⟩, hrun⟩ := hrun d' rfl
      refine ⟨d', hrun, ?_⟩
      cases hs' with
      | live rest =>
          have hrest : rest = [] := List.append_cancel_right (hd : rest ++ _ = [] ++ _)
          rw [hrest]
          rfl
      | same _ hnear => cases hnear

theorem suffix_of_run (h : (alternatives n []).run c = some (f, d)) : d.rest <:+ c.rest := by
  have hs : Beside .alike c (some c) := .same c rfl
  exact ((carriesForms n).alternatives hs le_rfl [] f d h).1

theorem run_group_opened (n : Nat) (cs : List Char) :
    (group (n + 1)).run ⟨'(' :: '?' :: ':' :: cs, false, []⟩ = (do
      let f ← alternatives n []
      if (← peek) != ')' then failure
      advance
      modify fun c => { c with verbose := false }
      return .group false ⟨[], []⟩ f : Read Form).run ⟨cs, false, []⟩ := rfl

theorem run_alternatives_opened (n : Nat) (cs : List Char) :
    (alternatives (n + 3) []).run ⟨'^' :: '(' :: cs, false, []⟩ = (do
      let g ← (do
        let f ← group n
        sequence n [f, .caret])
      if (← peek?) = some '|' then
        advance
        alternatives (n + 2) [g]
      else return .ofAlternatives [g] : Read Form).run ⟨'(' :: cs, false, []⟩ := rfl

theorem run_held (h : (alternatives (n + 1) []).run ⟨cs, false, []⟩ = some (f, d))
    (hd : d.rest = closing) :
    (alternatives (n + 5) []).run ⟨'^' :: '(' :: '?' :: ':' :: cs, false, []⟩ =
      some (f.held, ⟨[], false, d.names⟩) := by
  have hgroup : (group (n + 2)).run ⟨'(' :: '?' :: ':' :: cs, false, []⟩ =
      some (.group false ⟨[], []⟩ f, ⟨['$'], false, d.names⟩) := by
    obtain ⟨rest, verbose, names⟩ := d
    cases hd
    rw [run_group_opened, StateT.run_bind, h]
    rfl
  rw [run_alternatives_opened, StateT.run_bind, StateT.run_bind, hgroup]
  rfl

theorem exists_of_run_group_opened
    (h : (group (n + 1)).run ⟨'(' :: '?' :: ':' :: cs, false, []⟩ = some (g, c)) :
    ∃ f d ds, (alternatives n []).run ⟨cs, false, []⟩ = some (f, d) ∧ d.rest = ')' :: ds ∧
      g = .group false ⟨[], []⟩ f := by
  rw [run_group_opened] at h
  obtain ⟨f, d, hf, hbody⟩ := run_bind_eq_some.1 h
  obtain ⟨x, hhead, hend⟩ := run_peek_bind_eq_some.1 hbody
  dsimp only at hend
  split at hend
  · cases hend
  · rename_i hclose
    have hx : x = ')' := by simpa using hclose
    obtain ⟨ds, hds⟩ := List.head?_eq_some_iff.1 hhead
    refine ⟨f, d, ds, hf, by rw [hds, hx], ?_⟩
    cases hend
    rfl

theorem exists_of_run_held
    (h : (alternatives (n + 5) []).run ⟨'^' :: '(' :: '?' :: ':' :: cs, false, []⟩ = some (g, c)) :
    ∃ f d ds, (alternatives (n + 1) []).run ⟨cs, false, []⟩ = some (f, d) ∧ d.rest = ')' :: ds ∧
      f.Bears [g] := by
  rw [run_alternatives_opened] at h
  obtain ⟨g₁, c₁, hg₁, h⟩ := run_bind_eq_some.1 h
  obtain ⟨g₂, c₂, hg₂, hg₁⟩ := run_bind_eq_some.1 hg₁
  obtain ⟨f, d, ds, hf, hd, rfl⟩ := exists_of_run_group_opened hg₂
  refine ⟨f, d, ds, hf, hd, ?_⟩
  have hfirst := bears_sequence _ f.bears_group _ _ _ hg₁
  obtain ⟨x, _, -, h⟩ := run_bind_eq_some.1 h
  split at h
  · obtain ⟨_, _, -, h⟩ := run_bind_eq_some.1 h
    exact bears_alternatives _ hfirst _ _ _ h
  · cases h
    exact hfirst

end Read

theorem toList_anchored (literal : String) : (Leaf.anchored literal).toList =
    '^' :: '(' :: '?' :: ':' :: (literal.toList ++ closing) := by
  simp [Leaf.anchored, closing]

theorem toList_closed (literal : String) :
    (literal ++ ")$").toList = literal.toList ++ closing := by
  simp [closing]

namespace Form

variable {literal : String} {f g : Form}

theorem read?_eq_some_iff {s : String} {n : Nat} (hn : 3 * s.toList.length + 2 ≤ n) :
    Form.read? s = some f ↔ f.depth ≤ Form.nestingLimit ∧
      ∃ d, (Read.alternatives n []).run ⟨s.toList, false, []⟩ = some (f, d) ∧ d.rest = [] := by
  unfold Form.read?
  dsimp only
  constructor
  · intro h
    split at h
    · rename_i g d hrun
      obtain ⟨hend, h⟩ := Option.ite_none_right_eq_some.1 h
      cases h
      rw [Bool.and_eq_true, List.isEmpty_iff, decide_eq_true_eq] at hend
      exact ⟨hend.2, d, Read.run_of_fuel hrun hn, hend.1⟩
    · cases h
  · rintro ⟨hdepth, d, hrun, hd⟩
    rw [Read.run_of_fuel hrun (Nat.le_succ _)]
    simp [hd, hdepth]

/-- A text that has a form of its own has that form where it is held to whole values, unless it ends
in a comment. -/
theorem read?_anchored (h : Form.read? literal = some f) :
    Form.read? (Leaf.anchored literal) = some g ↔
      Form.read? (literal ++ ")$") = none ∧ f.held.depth ≤ Form.nestingLimit ∧ g = f.held := by
  have hanchored := read?_eq_some_iff (s := Leaf.anchored literal) (f := g)
    (n := 3 * literal.toList.length + 15 + 5) (by simp [Leaf.anchored]; omega)
  have hclosed (f' : Form) := read?_eq_some_iff (s := literal ++ ")$") (f := f')
    (n := 3 * literal.toList.length + 15 + 1) (by simp; omega)
  rw [toList_anchored] at hanchored
  simp only [toList_closed] at hclosed
  rw [hanchored]
  obtain ⟨hdepth, d, hrun, hd⟩ := (read?_eq_some_iff le_rfl).1 h
  obtain ⟨d', hrun', hd'⟩ := Read.run_closed hrun hd (m := 3 * literal.toList.length + 15 + 1)
    (by dsimp only; omega)
  rcases hd' with hend | hopen
  · have hheld := Read.run_held hrun' hend
    have hnone : Form.read? (literal ++ ")$") = none := by
      refine Option.eq_none_iff_forall_ne_some.2 fun f' hf' => ?_
      obtain ⟨-, c, hc, hnil⟩ := (hclosed f').1 hf'
      cases hrun'.symm.trans hc
      exact absurd (hend.symm.trans hnil) (by decide)
    constructor
    · rintro ⟨hg, c, hc, -⟩
      cases hheld.symm.trans hc
      exact ⟨hnone, hg, rfl⟩
    · rintro ⟨-, hheld', rfl⟩
      exact ⟨hheld', _, hheld, rfl⟩
  · constructor
    · rintro ⟨-, c, hc, -⟩
      obtain ⟨f', d'', ds, hf', hds, -⟩ := Read.exists_of_run_held hc
      cases hrun'.symm.trans hf'
      cases hopen.symm.trans hds
    · rintro ⟨hnone, -⟩
      rw [(hclosed f).2 ⟨hdepth, d', hrun', hopen⟩] at hnone
      cases hnone

theorem eq_of_append_closing {cs ds xs : List Char} (h : cs ++ ')' :: ds = xs ++ closing) :
    xs = cs ∨ ∃ bs, xs = cs ++ ')' :: bs := by
  rcases List.append_eq_append_iff.1 h with ⟨as, rfl, has⟩ | ⟨as, rfl, has⟩
  · cases as with
    | nil => exact .inl (List.append_nil _)
    | cons a as =>
        cases has
        exact .inr ⟨as, rfl⟩
  · match as, has with
    | [], _ => exact .inl (List.append_nil _).symm
    | [_], has => cases has
    | _ :: _ :: as, has => simp [closing] at has

/-- A text that can be held to whole values has a form of its own up to its end, or up to where it
closes the group around it. -/
theorem exists_of_read?_anchored (h : Form.read? (Leaf.anchored literal) = some g) :
    ∃ a f, (literal = a ∨ ∃ b, literal = a ++ ")" ++ b) ∧ Form.read? a = some f ∧
      ((g.meaning {}).isSome → (f.meaning {}).isSome) := by
  obtain ⟨hdepth, c, hrun, -⟩ := (read?_eq_some_iff (n := 3 * literal.toList.length + 15 + 5)
    (by simp [Leaf.anchored]; omega)).1 h
  rw [toList_anchored] at hrun
  obtain ⟨f, d, ds, hf, hd, hbears⟩ := Read.exists_of_run_held hrun
  obtain ⟨cs, hcs⟩ := Read.suffix_of_run hf
  rw [hd] at hcs
  dsimp only at hcs
  rw [← hcs] at hf
  obtain ⟨d', hrun', hd'⟩ := Read.run_cut (c := ⟨[], false, []⟩) hf hd le_rfl
  have hread : Form.read? (String.ofList cs) = some f := by
    refine (read?_eq_some_iff le_rfl).2 ⟨?_, d', ?_, hd'⟩
    · obtain ⟨x, hx, hlt⟩ := hbears.deeper
      cases List.mem_singleton.1 hx
      exact hlt.le.trans hdepth
    · rw [String.toList_ofList]
      exact hrun'
  refine ⟨String.ofList cs, f, ?_, hread, fun hsome => ?_⟩
  · have hliteral : literal = String.ofList literal.toList := (String.ofList_toList).symm
    rcases eq_of_append_closing hcs with hsame | ⟨bs, hbs⟩
    · exact .inl (by rw [hliteral, hsame])
    · refine .inr ⟨String.ofList bs, String.toList_injective ?_⟩
      simp [hbs]
  · exact hbears.meant (isSome_meanings_singleton.2 hsome)

end Form

end WideRow.Pattern
