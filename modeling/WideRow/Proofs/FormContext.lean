import Mathlib.Data.List.TakeWhile
import WideRow.Proofs.ClassContext

namespace WideRow.Pattern

section

variable {e : Ends} {c d : Cursor} {o : Option Cursor} {p : Char → Bool}

theorem Beside.verbose_getD (hs : Beside e c o) : (o.getD c).verbose = c.verbose := by
  cases hs <;> rfl

theorem Beside.names_eq {c' : Cursor} (hs : Beside e c (some c')) : c'.names = c.names := by
  cases hs <;> rfl

theorem Beside.with_verbose (hs : Beside e c o) (verbose : Bool) :
    Beside e { c with verbose } (o.map fun c' => { c' with verbose }) := by
  cases hs with
  | live rest _ names => exact .live rest verbose names
  | same _ hnear => exact .same _ hnear
  | lost _ hne hlen => exact .lost _ hne hlen

theorem Beside.with_names (hs : Beside e c o) (names : List String) :
    Beside e { c with names } (o.map fun c' => { c' with names }) := by
  cases hs with
  | live rest verbose _ => exact .live rest verbose names
  | same _ hnear => exact .same _ hnear
  | lost _ hne hlen => exact .lost _ hne hlen

theorem Eats.with_verbose (h : Eats e c d o) (verbose : Bool) :
    Eats e c { d with verbose } (o.map fun c' => { c' with verbose }) :=
  ⟨h.shorter, fun hnone => h.beyond (Option.map_eq_none_iff.1 hnone)⟩

theorem takeWhile_append_of_dropWhile {cs : List Char} (h : cs.dropWhile p ≠ []) (ds : List Char) :
    (cs ++ ds).takeWhile p = cs.takeWhile p ∧ (cs ++ ds).dropWhile p = cs.dropWhile p ++ ds := by
  induction cs with
  | nil => exact absurd rfl h
  | cons c cs ih =>
      rw [List.cons_append, List.takeWhile_cons, List.takeWhile_cons, List.dropWhile_cons,
        List.dropWhile_cons]
      rw [List.dropWhile_cons] at h
      split at h
      · rename_i hc
        simp [hc, ih h]
      · rename_i hc
        simp [hc]

theorem Beside.dropWhile (hs : Beside e c o) (hne : c.rest.dropWhile p ≠ []) :
    ∃ o₁, Beside e { c with rest := c.rest.dropWhile p } o₁ ∧
      Ready { c with rest := c.rest.dropWhile p } o₁ ∧
      ∀ d', o₁ = some d' → ∃ c', o = some c' ∧ c'.rest.takeWhile p = c.rest.takeWhile p ∧
        d' = { c' with rest := c'.rest.dropWhile p } := by
  cases hs with
  | same _ hnear =>
      refine ⟨_, .same _ hnear, ⟨hne, ?_⟩, ?_⟩ <;> rintro _ ⟨⟩
      · exact hne
      · exact ⟨c, rfl, rfl, rfl⟩
  | lost _ hnear hlen =>
      have hsuffix : c.rest.dropWhile p <:+ c.rest := List.dropWhile_suffix p
      exact ⟨none, .lost _ hnear (hsuffix.length_le.trans hlen), ⟨hne, nofun⟩, nofun⟩
  | live rest verbose names =>
      by_cases hrest : rest.dropWhile p = []
      · have hdrop : (rest ++ e.near).dropWhile p = e.near.dropWhile p :=
          List.dropWhile_append_of_pos (List.dropWhile_eq_nil_iff.1 hrest)
        have hlen : (e.near.dropWhile p).length ≤ e.near.length :=
          (List.dropWhile_suffix p).length_le
        refine ⟨none, .lost _ ?_ ?_, ⟨hne, nofun⟩, nofun⟩
        · rintro hnear
          simp [hnear, hrest] at hne
        · simp only [hdrop, hlen]
      · obtain ⟨htake, hdrop⟩ := takeWhile_append_of_dropWhile hrest e.near
        obtain ⟨htake', hdrop'⟩ := takeWhile_append_of_dropWhile hrest e.far
        refine ⟨some ⟨rest.dropWhile p ++ e.far, verbose, names⟩, ?_, ⟨hne, ?_⟩, ?_⟩
        · simp only [hdrop]
          exact .live _ verbose names
        · rintro _ ⟨⟩
          simp [hrest]
        · rintro _ ⟨⟩
          exact ⟨_, rfl, by simp only [htake, htake'], by simp only [hdrop']⟩

end

namespace Read

variable {α β : Type} {e : Ends} {r r' : Read α} {c c' d : Cursor} {o o' : Option Cursor}
  {m n : Nat} {post : Cursor → Option Cursor → Prop}

theorem run_get_bind (f : Cursor → Read α) : (get >>= f).run c = (f c).run c := rfl

theorem run_groupName_eq_some {u : Unit} : groupName.run c = some (u, d) ↔
    c.rest.dropWhile (· != '>') ≠ [] ∧ isFreshName c.names (c.rest.takeWhile (· != '>')) ∧
      d = { c with rest := (c.rest.dropWhile (· != '>')).tail,
                   names := String.ofList (c.rest.takeWhile (· != '>')) :: c.names } := by
  rw [groupName, run_get_bind]
  simp only [List.span_eq_takeWhile_dropWhile]
  split
  · rename_i hbad
    refine ⟨fun hd => (Option.some_ne_none _ hd.symm).elim, ?_⟩
    rintro ⟨hne, hfresh, -⟩
    simp [hne, hfresh] at hbad
  · rename_i hok
    simp only [Bool.or_eq_true, List.isEmpty_iff, Bool.not_eq_true', not_or, Bool.not_eq_false]
      at hok
    constructor
    · intro hd
      cases hd
      exact ⟨hok.1, hok.2, rfl⟩
    · rintro ⟨-, -, rfl⟩
      rfl

theorem run_flagChange_eq_some {change : FlagChange} : flagChange.run c = some (change, d) ↔
    c.rest.dropWhile (fun x => !endsFlags x) ≠ [] ∧
      flagsOf? (c.rest.takeWhile fun x => !endsFlags x) = some change ∧
      d = { c with rest := c.rest.dropWhile fun x => !endsFlags x } := by
  rw [flagChange, run_get_bind]
  simp only [List.span_eq_takeWhile_dropWhile]
  split
  · rename_i hnil
    refine ⟨fun hd => (Option.some_ne_none _ hd.symm).elim, ?_⟩
    rintro ⟨hne, -⟩
    exact absurd (List.isEmpty_iff.1 hnil) hne
  · rename_i hne
    rw [List.isEmpty_iff] at hne
    split
    · rename_i written hwritten
      constructor
      · intro hd
        cases hd
        exact ⟨hne, hwritten, rfl⟩
      · rintro ⟨-, hchange, rfl⟩
        cases hwritten.symm.trans hchange
        rfl
    · rename_i hnone
      refine ⟨fun hd => (Option.some_ne_none _ hd.symm).elim, ?_⟩
      rintro ⟨-, hchange, -⟩
      cases hnone.symm.trans hchange

theorem carries_groupName (hs : Beside e c o) : Carries e (Eats e c) groupName groupName c o := by
  intro u d hd
  obtain ⟨hne, hfresh, rfl⟩ := run_groupName_eq_some.1 hd
  obtain ⟨o₁, hs₁, hr₁, hrun₁⟩ := hs.dropWhile hne
  obtain ⟨hsuffix, o₂, hs₂, he₂, hrun₂⟩ := carries_advance hs₁ hr₁ _ _ rfl
  have hsuffix₁ : c.rest.dropWhile (· != '>') <:+ c.rest := List.dropWhile_suffix _
  refine ⟨hsuffix.trans hsuffix₁, _, hs₂.with_names _, ?_, ?_⟩
  · refine ⟨he₂.shorter.trans_le hsuffix₁.length_le, fun hnone => ?_⟩
    exact he₂.beyond (Option.map_eq_none_iff.1 hnone)
  · intro d' hd'
    obtain ⟨d₂, hd₂, rfl⟩ := Option.map_eq_some_iff.1 hd'
    obtain ⟨d₁, hd₁, hadvance⟩ := hrun₂ d₂ hd₂
    obtain ⟨c', rfl, htake, rfl⟩ := hrun₁ d₁ hd₁
    cases hadvance
    refine ⟨c', rfl, run_groupName_eq_some.2 ⟨hr₁.2 _ hd₁, ?_, ?_⟩⟩
    · rw [htake, hs.names_eq]
      exact hfresh
    · rw [htake, hs.names_eq]

theorem carries_flagChange (hs : Beside e c o) :
    Carries e (fun d o' => d.rest.length ≤ c.rest.length ∧ Ready d o') flagChange flagChange c
      o := by
  intro change d hd
  obtain ⟨hne, hchange, rfl⟩ := run_flagChange_eq_some.1 hd
  obtain ⟨o₁, hs₁, hr₁, hrun₁⟩ := hs.dropWhile hne
  have hsuffix : c.rest.dropWhile (fun x => !endsFlags x) <:+ c.rest := List.dropWhile_suffix _
  refine ⟨hsuffix, o₁, hs₁, ⟨hsuffix.length_le, hr₁⟩, ?_⟩
  intro d' hd'
  obtain ⟨c', rfl, htake, rfl⟩ := hrun₁ d' hd'
  exact ⟨c', rfl, run_flagChange_eq_some.2 ⟨hr₁.2 _ hd', by rw [htake, hchange], rfl⟩⟩

theorem carries_nameMark (hs : Beside e c o) : Carries e (Keeps e c o) nameMark nameMark c o := by
  refine (carries_accept hs (by decide)).bind fun named d o₁ hs₁ hk₁ => ?_
  split
  · exact .pure hs₁ hk₁ true
  · exact (carries_accept hs₁ (by decide)).imp fun _ _ hk => hk₁.keeps hk

theorem isLookAround_getD (hs : Beside e c o) :
    isLookAround (o.getD c).rest = isLookAround c.rest := by
  have hmarks : ∀ text ∈ [['?', '='], ['?', '!'], ['?', '<', '='], ['?', '<', '!']],
      text.isPrefixOf (o.getD c).rest = text.isPrefixOf c.rest := by
    intro text htext
    have hclose : ')' ∉ text := by
      revert text
      decide
    rw [Bool.eq_iff_iff, List.isPrefixOf_iff_prefix, List.isPrefixOf_iff_prefix,
      hs.isPrefix_iff hclose]
  rw [Bool.eq_iff_iff, isLookAround, isLookAround, List.any_eq_true, List.any_eq_true]
  exact exists_congr fun text => and_congr_right fun htext => by rw [hmarks text htext]

theorem carries_groupOpen (hs : Beside e c o) (hr : Ready c o) :
    Carries e (Eats e c) groupOpen groupOpen c o := by
  refine (carries_step hs hr).bind fun _ d o₁ hs₁ he₁ => .get_bind ?_
  rw [isLookAround_getD hs₁]
  refine .guarded fun _ => ?_
  refine (carries_nameMark hs₁).bind fun named y o₂ hs₂ hk₂ => ?_
  have he₂ := he₁.keeps hk₂
  split
  · exact (carries_groupName hs₂).bind fun _ z o₃ hs₃ he₃ => .pure hs₃ (he₃.of_le he₂.shorter.le) _
  · refine (carries_accept hs₂ (by decide)).bind fun mark z o₃ hs₃ hk₃ => ?_
    have he₃ := he₂.keeps hk₃
    split
    · refine (carries_flagChange hs₃).bind fun change w o₄ hs₄ hw => ?_
      refine .peek_bind hs₄ fun x xs o₅ hx hs₅ hr₅ => ?_
      refine (carries_advance hs₅ hr₅).bind fun _ v o₆ hs₆ he₆ => ?_
      have he := he₆.of_le (hw.1.trans he₃.shorter.le)
      split
      · exact .pure hs₆ he _
      · exact .guarded fun _ => .pure hs₆ he _
    · exact .pure hs₃ he₃ _

theorem carries_lazyMark (hs : Beside e c o) : Carries e (Keeps e c o) lazyMark lazyMark c o := by
  refine .peek?_bind hs rfl fun x hx hready => ?_
  split
  · rename_i hmark
    refine (carries_advance hs (hready '?' hmark (by decide))).bind fun _ d o₁ hs₁ he₁ => ?_
    exact .pure hs₁ he₁.toKeeps true
  · exact .pure hs (.refl e c o) false

theorem carries_bounds_of (h : Carries e (fun d _ => d.rest.length < c.rest.length) stepInside
    stepInside c o) : Carries e (Eats e c) bounds bounds c o := by
  have hend (least : Nat) (most : Option Nat) {d : Cursor} {o₁ : Option Cursor}
      (hs : Beside e d o₁) (hd : d.rest.length ≤ c.rest.length) : Carries e (Eats e c) (do
        if (← peek) != '}' then failure
        step
        if most.all (least ≤ ·) then return (⟨least, most⟩ : Bounds) else failure)
      (do
        if (← peek) != '}' then failure
        step
        if most.all (least ≤ ·) then return (⟨least, most⟩ : Bounds) else failure) d o₁ := by
    refine .peek_bind hs fun x xs o₂ hx hs₂ hr₂ => ?_
    refine .guarded fun _ => ?_
    refine (carries_step hs₂ hr₂).bind fun _ y o₃ hs₃ hy => ?_
    split
    · exact .pure hs₃ (hy.of_le hd) _
    · exact .failure
  refine h.bind fun _ d o₁ hs₁ hd => ?_
  refine (carries_decimal hs₁).bind fun least y o₂ hs₂ hy => ?_
  refine .peek_bind hs₂ fun x xs o₃ hx hs₃ hr₃ => ?_
  have hlen := hy.shorter.le.trans hd.le
  split
  · refine (carries_stepInside hs₃ hr₃).bind fun _ z o₄ hs₄ hz => ?_
    have hlen := hz.1.le.trans hlen
    refine .peek_bind hs₄ fun w ws o₅ hw hs₅ hr₅ => ?_
    split
    · exact hend least none hs₅ hlen
    · refine (carries_decimal hs₅).bind fun most v o₆ hs₆ hv => ?_
      exact hend least (some most) hs₆ (hv.shorter.le.trans hlen)
  · exact hend least (some least) hs₃ hlen

theorem carries_bounds (hs : Beside e c o) (hr : Ready c o) :
    Carries e (Eats e c) bounds bounds c o :=
  carries_bounds_of ((carries_stepInside hs hr).imp fun _ _ hd => hd.1)

theorem Severed.carries_bounds (h : Severed e c) : Carries e (Eats e c) bounds bounds c none := by
  obtain ⟨hbrace, u, d, hstep, hs⟩ := h
  have hne : c.rest ≠ [] := List.ne_nil_of_mem (List.mem_of_head? hbrace)
  have halike : Beside .alike c (some c) := .same c rfl
  have hready : Ready c (some c) := ⟨hne, fun c' hc' => Option.some.inj hc' ▸ hne⟩
  obtain ⟨hdc, -, -, ⟨hlen, -⟩, -⟩ := carries_stepInside halike hready u d hstep
  refine carries_bounds_of fun v x hx => ?_
  cases hstep.symm.trans hx
  exact ⟨hdc, none, hs, hlen, nofun⟩

theorem still_repeatable (fs : List Form) : Still (repeatable fs) := by
  cases fs with
  | nil => exact ⟨none, fun _ => rfl⟩
  | cons f before =>
      simp only [repeatable]
      split
      · exact ⟨none, fun _ => rfl⟩
      · exact ⟨some _, fun _ => rfl⟩

theorem carriesOr_primitive (hs : Beside e c o) : CarriesOr e primitive primitive c o := by
  refine .peek_bind hs fun x xs o₁ hx hs₁ hr₁ => ?_
  split
  · exact carriesOr_escape hs₁ hr₁
  · refine ((carries_advance hs₁ hr₁).bind fun _ d o₂ hs₂ he => ?_).toOr
    split <;> exact .pure hs₂ he _

theorem run_sequence_of_brace (h : c.rest.head? = some '{') (n : Nat) (reversed : List Form) :
    (sequence (n + 1) reversed).run c = (do
      let (f, before) ← repeatable reversed
      let b ← bounds
      sequence n (.repeated f b (← lazyMark) :: before) : Read Form).run c := by
  obtain ⟨rest, verbose, names⟩ := c
  obtain ⟨xs, rfl⟩ := List.head?_eq_some_iff.1 h
  cases verbose <;> rfl

/-- What is read of forms with so much fuel is read in the other place with enough of it. Three
steps for each character of the text are enough. -/
structure CarriesForms (n : Nat) : Prop where
  sequence {e : Ends} {m : Nat} {c : Cursor} {o : Option Cursor} (hs : Beside e c o)
    (hm : 3 * c.rest.length + 1 ≤ m + 3 * e.near.length) (reversed : List Form) :
    Carries e (Keeps e c o) (sequence n reversed) (sequence m reversed) c o
  alternatives {e : Ends} {m : Nat} {c : Cursor} {o : Option Cursor} (hs : Beside e c o)
    (hm : 3 * c.rest.length + 2 ≤ m + 3 * e.near.length) (reversed : List Form) :
    Carries e (Keeps e c o) (alternatives n reversed) (alternatives m reversed) c o
  group {e : Ends} {m : Nat} {c : Cursor} {o : Option Cursor} (hs : Beside e c o) (hr : Ready c o)
    (hm : 3 * c.rest.length ≤ m + 3 * e.near.length) :
    Carries e (Eats e c) (group n) (group m) c o
  /-- Behind a severed boundary there can only be a repetition, which leaves the text. -/
  severed {e : Ends} {c : Cursor} (h : Severed e c) (before : List Form) (r' : Read Form) :
    Carries e (Eats e c) (Read.sequence n (.anchor .wordBoundary :: before)) r' c none

namespace CarriesForms

theorem sequence_succ (ih : CarriesForms n) (hs : Beside e c o)
    (hm : 3 * c.rest.length + 1 ≤ m + 3 * e.near.length) (reversed : List Form) :
    Carries e (Keeps e c o) (Read.sequence (n + 1) reversed) (Read.sequence m reversed) c o := by
  refine .of_fuel (R := fun m => Read.sequence m reversed) ?_ fun k hk => ?_
  · rintro c' rfl
    have := hs.length_le
    omega
  simp only [Read.sequence]
  refine (carries_skipBlank hs).bind fun _ d o₁ hs₁ hd => ?_
  refine .peek?_bind hs₁ rfl fun x hx hready => ?_
  have hlen := hd.length_le
  have hnext (reversed : List Form) {y : Cursor} {o₂ : Option Cursor} (hs₂ : Beside e y o₂)
      (hy : Eats e d y o₂) :
      Carries e (Keeps e c o) (Read.sequence n reversed) (Read.sequence k reversed) y o₂ := by
    have hlt := hy.shorter
    refine (ih.sequence hs₂ (by omega) reversed).imp fun z o' hz => ?_
    exact ((hy.keeps hz).of_le hlen).toKeeps
  cases x with
  | none => exact .pure hs₁ hd _
  | some x =>
      dsimp only
      split
      · exact .pure hs₁ hd _
      rename_i hend
      have hr₁ : Ready d o₁ := hready x rfl fun hclose => hend (.inl hclose)
      split
      · refine (ih.group hs₁ hr₁ (by omega)).bind fun f y o₂ hs₂ hy => ?_
        exact hnext _ hs₂ hy
      split
      · refine .length_bind hs₁ fun l hl => ?_
        refine ((carriesClass _).bracketed hs₁ hr₁ (by omega)).bind fun s y o₂ hs₂ hy => ?_
        exact hnext _ hs₂ hy
      split
      · refine .still_bind (still_repeatable reversed) fun p => ?_
        refine (carries_bounds hs₁ hr₁).bind fun b y o₂ hs₂ hy => ?_
        refine (carries_lazyMark hs₂).bind fun few z o₃ hs₃ hz => ?_
        exact hnext _ hs₃ (hy.keeps hz)
      split
      · refine .still_bind (still_repeatable reversed) fun p => ?_
        refine (carries_advance hs₁ hr₁).bind fun b y o₂ hs₂ hy => ?_
        refine (carries_lazyMark hs₂).bind fun few z o₃ hs₃ hz => ?_
        exact hnext _ hs₃ (hy.keeps hz)
      · refine (carriesOr_primitive hs₁).bind (fun f y o₂ hs₂ hy => hnext _ hs₂ hy)
          fun y hsevered hy => ?_
        refine (ih.severed hsevered _ _).imp fun z o' hz => ?_
        exact (hz.of_le (hy.trans hlen)).toKeeps

theorem alternatives_succ (ih : CarriesForms n) (hs : Beside e c o)
    (hm : 3 * c.rest.length + 2 ≤ m + 3 * e.near.length) (reversed : List Form) :
    Carries e (Keeps e c o) (Read.alternatives (n + 1) reversed) (Read.alternatives m reversed) c
      o := by
  refine .of_fuel (R := fun m => Read.alternatives m reversed) ?_ fun k hk => ?_
  · rintro c' rfl
    have := hs.length_le
    omega
  simp only [Read.alternatives]
  refine (ih.sequence hs (by omega) []).bind fun f d o₁ hs₁ hd => ?_
  refine .peek?_bind hs₁ rfl fun x hx hready => ?_
  split
  · rename_i hbar
    refine (carries_advance hs₁ (hready '|' hbar (by decide))).bind fun _ y o₂ hs₂ hy => ?_
    have hlen := hy.shorter.trans_le hd.length_le
    refine (ih.alternatives hs₂ (by omega) _).imp fun z o' hz => ?_
    exact ((hy.keeps hz).of_le hd.length_le).toKeeps
  · exact .pure hs₁ hd _

theorem group_succ (ih : CarriesForms n) (hs : Beside e c o) (hr : Ready c o)
    (hm : 3 * c.rest.length ≤ m + 3 * e.near.length) :
    Carries e (Eats e c) (Read.group (n + 1)) (Read.group m) c o := by
  refine .of_fuel ?_ fun k hk => ?_
  · rintro c' rfl
    have := hs.length_lt hr
    omega
  simp only [Read.group]
  refine .get_bind ?_
  rw [hs.verbose_getD]
  refine (carries_groupOpen hs hr).bind fun opening d o₁ hs₁ hd => ?_
  refine .modify_bind List.suffix_rfl ?_
  have hinner := hs₁.with_verbose (verboseAfter opening.change c.verbose)
  have heats := hd.with_verbose (verboseAfter opening.change c.verbose)
  cases opening with
  | flags change => exact .pure hinner heats _
  | capture | group =>
      have hlt := hd.shorter
      refine (ih.alternatives hinner (by dsimp only; omega) []).bind fun f y o₂ hs₂ hy => ?_
      refine .peek_bind hs₂ fun x xs o₃ hx hs₃ hr₃ => ?_
      refine .guarded fun _ => ?_
      refine (carries_advance hs₃ hr₃).bind fun _ z o₄ hs₄ hz => ?_
      refine .modify_bind List.suffix_rfl ?_
      have hlen := hy.length_le.trans hlt.le
      exact .pure (hs₄.with_verbose _) ((hz.of_le hlen).with_verbose _) _

theorem severed_succ (ih : CarriesForms n) (h : Severed e c) (before : List Form)
    (r' : Read Form) :
    Carries e (Eats e c) (Read.sequence (n + 1) (.anchor .wordBoundary :: before)) r' c none := by
  intro a d hd
  rw [run_sequence_of_brace h.brace] at hd
  -- The other reader does not matter, so it may have fuel enough.
  have hrepeated : Carries e (Eats e c) (do
      let (f, before) ← repeatable (.anchor .wordBoundary :: before)
      let b ← bounds
      Read.sequence n (.repeated f b (← lazyMark) :: before))
    (do
      let (f, before) ← repeatable (.anchor .wordBoundary :: before)
      let b ← bounds
      Read.sequence (3 * c.rest.length + 1) (.repeated f b (← lazyMark) :: before)) c none := by
    refine .still_bind (still_repeatable _) fun p => ?_
    refine h.carries_bounds.bind fun b y o₁ hs₁ hy => ?_
    refine (carries_lazyMark hs₁).bind fun few z o₂ hs₂ hz => ?_
    have heats := hy.keeps hz
    have hlen := heats.shorter
    exact (ih.sequence hs₂ (by omega) _).imp fun w o' hw => heats.keeps hw
  exact hrepeated.of_none a d hd

end CarriesForms

theorem carriesForms (n : Nat) : CarriesForms n := by
  induction n with
  | zero =>
      exact ⟨fun _ _ _ => .failure, fun _ _ _ => .failure, fun _ _ _ => .failure,
        fun _ _ _ => .failure⟩
  | succ n ih =>
      exact ⟨ih.sequence_succ, ih.alternatives_succ, ih.group_succ, ih.severed_succ⟩

end Read

end WideRow.Pattern
