import WideRow.Proofs.Contexts

namespace WideRow.Pattern.Read

variable {α β : Type} {e : Ends} {r r' : Read α} {f f' : α → Read β} {c c' d : Cursor}
  {o o' : Option Cursor} {a : α} {m n : Nat} {post post₁ : Cursor → Option Cursor → Prop}

theorem carries_advance (hs : Beside e c o) (hr : Ready c o) :
    Carries e (Eats e c) advance advance c o := by
  intro a d h
  cases h
  have hlen : c.rest.tail.length < c.rest.length := by
    rw [List.length_tail]
    exact Nat.pred_lt (mt List.length_eq_zero_iff.1 hr.1)
  refine ⟨List.tail_suffix _, ?_⟩
  cases o with
  | none =>
      cases hs with
      | lost _ hne h =>
          have hpast := hlen.trans_le h
          exact ⟨none, .lost _ hne hpast.le, ⟨hlen, fun _ => hpast⟩, nofun⟩
  | some c' =>
      obtain ⟨x, xs, xs', hx, hx', hnext⟩ := hs.exists_of_ready hr
      refine ⟨some { c' with rest := xs' }, ?_, ⟨hlen, nofun⟩, ?_⟩
      · change Beside e { c with rest := c.rest.tail } _
        rwa [hx, List.tail_cons]
      · rintro _ ⟨⟩
        refine ⟨c', rfl, ?_⟩
        obtain ⟨_, verbose, names⟩ := c'
        cases hx'
        rfl

theorem dropBlank_suffix (inComment : Bool) (cs : List Char) : dropBlank inComment cs <:+ cs := by
  induction cs generalizing inComment with
  | nil => exact List.suffix_rfl
  | cons c cs ih =>
      have hcs (inComment : Bool) : dropBlank inComment cs <:+ c :: cs :=
        (ih inComment).trans (List.suffix_cons c cs)
      rw [dropBlank]
      split
      · exact hcs _
      · split
        · exact hcs _
        · split
          · exact hcs _
          · exact List.suffix_rfl

theorem visible_suffix (verbose : Bool) (cs : List Char) : visible verbose cs <:+ cs := by
  cases verbose with
  | false => exact List.suffix_rfl
  | true => exact dropBlank_suffix false cs

theorem dropBlank_append (e : Ends) (inComment : Bool) (cs : List Char) :
    (∃ ds, dropBlank inComment (cs ++ e.near) = ds ++ e.near ∧
      dropBlank inComment (cs ++ e.far) = ds ++ e.far) ∨
      e.near = [] ∧ dropBlank inComment (cs ++ e.far) = dropBlank inComment cs ∨
        (dropBlank inComment (cs ++ e.near)).length < e.near.length := by
  induction cs generalizing inComment with
  | nil =>
      cases e with
      | alike => exact .inl ⟨[], by cases inComment <;> exact ⟨rfl, rfl⟩⟩
      | closed =>
          cases inComment with
          | false => exact .inl ⟨[], by decide, by decide⟩
          | true => exact .inr (.inl ⟨rfl, by decide⟩)
      | cut rest =>
          cases inComment with
          | false => exact .inl ⟨[], by simp [Ends.near, dropBlank, Text.isBlank], rfl⟩
          | true => exact .inr (.inr (Nat.lt_succ_of_le (dropBlank_suffix true rest).length_le))
  | cons c cs ih =>
      simp only [List.cons_append, dropBlank]
      split
      · exact ih _
      · split
        · exact ih _
        · split
          · exact ih _
          · exact .inl ⟨c :: cs, rfl, rfl⟩

theorem run_skipBlank (c : Cursor) :
    skipBlank.run c = some ((), { c with rest := visible c.verbose c.rest }) := rfl

theorem carries_skipBlank (hs : Beside e c o) :
    Carries e (Keeps e c o) skipBlank skipBlank c o := by
  intro a d h
  cases h
  have hsuffix := visible_suffix c.verbose c.rest
  have hlen := hsuffix.length_le
  refine ⟨hsuffix, ?_⟩
  cases hs with
  | same _ hnear =>
      refine ⟨some _, .same _ hnear, ⟨hlen, nofun⟩, ?_⟩
      rintro _ ⟨⟩
      exact ⟨c, rfl, rfl⟩
  | lost _ hne h => exact ⟨none, .lost _ hne (hlen.trans h), ⟨hlen, fun _ => .inl rfl⟩, nofun⟩
  | live rest verbose names =>
      cases verbose with
      | false =>
          refine ⟨_, .live rest false names, ⟨hlen, nofun⟩, ?_⟩
          rintro _ ⟨⟩
          exact ⟨_, rfl, rfl⟩
      | true =>
          rcases dropBlank_append e false rest with ⟨ds, hnear, hfar⟩ | ⟨hnil, hfar⟩ | hpast
          · refine ⟨some ⟨ds ++ e.far, true, names⟩, ?_, ⟨hlen, nofun⟩, ?_⟩
            · simp only [visible, if_pos, hnear]
              exact .live ds true names
            · rintro _ ⟨⟩
              refine ⟨_, rfl, ?_⟩
              simp only [run_skipBlank, visible, if_pos, hfar]
          · refine ⟨some ⟨dropBlank false rest, true, names⟩, ?_, ⟨hlen, nofun⟩, ?_⟩
            · simp only [visible, if_pos, hnil, List.append_nil]
              exact .same _ hnil
            · rintro _ ⟨⟩
              refine ⟨_, rfl, ?_⟩
              simp only [run_skipBlank, visible, if_pos, hfar]
          · have hne : e.near ≠ [] := List.ne_nil_of_length_pos (Nat.zero_lt_of_lt hpast)
            exact ⟨none, .lost _ hne hpast.le, ⟨hlen, fun _ => .inr hpast⟩, nofun⟩

theorem carries_step (hs : Beside e c o) (hr : Ready c o) : Carries e (Eats e c) step step c o :=
  (carries_advance hs hr).bind fun _ _ _ hd he =>
    (carries_skipBlank hd).imp fun _ _ => he.keeps

theorem carries_stepInside (hs : Beside e c o) (hr : Ready c o) :
    Carries e (fun d o' => d.rest.length < c.rest.length ∧ Ready d o') stepInside stepInside c o :=
  (carries_step hs hr).bind fun _ _ _ hd he =>
    .peek_bind hd fun _ _ _ _ hd hready => .pure hd ⟨he.shorter, hready⟩ ()

theorem run_accept (text : List Char) (c : Cursor) : (accept text).run c =
    if text.isPrefixOf c.rest then some (true, { c with rest := c.rest.drop text.length })
    else some (false, c) := by
  have h : (accept text).run c = StateT.run (m := Option)
      (if text.isPrefixOf c.rest then
        (do set { c with rest := c.rest.drop text.length }; return true)
        else return false : Read Bool) c := rfl
  rw [h]
  split <;> rfl

theorem carries_accept (hs : Beside e c o) {text : List Char} (h : ')' ∉ text) :
    Carries e (Keeps e c o) (accept text) (accept text) c o := by
  intro a d ha
  have hprefix := hs.isPrefix_iff h
  rw [run_accept] at ha
  by_cases hpre : text <+: c.rest
  · rw [if_pos (List.isPrefixOf_iff_prefix.2 hpre)] at ha
    cases ha
    obtain ⟨rest, hrest⟩ := hpre
    obtain ⟨rest', hrest'⟩ := hprefix.2 ⟨rest, hrest⟩
    rw [← hrest, List.drop_left]
    refine ⟨List.suffix_append _ _, _, hs.drop h hrest.symm hrest'.symm, ⟨?_, ?_⟩, ?_⟩
    · rw [← hrest, List.length_append]
      exact Nat.le_add_left _ _
    · exact fun ho => .inl (Option.map_eq_none_iff.1 ho)
    · intro d' hd'
      obtain ⟨c', rfl, rfl⟩ := Option.map_eq_some_iff.1 hd'
      refine ⟨c', rfl, ?_⟩
      rw [Option.getD_some] at hrest'
      rw [run_accept, if_pos (List.isPrefixOf_iff_prefix.2 ⟨rest', hrest'⟩), ← hrest',
        List.drop_left]
  · rw [if_neg (mt List.isPrefixOf_iff_prefix.1 hpre)] at ha
    cases ha
    refine ⟨List.suffix_rfl, o, hs, .refl e c o, ?_⟩
    rintro c' rfl
    refine ⟨c', rfl, ?_⟩
    have hpre' : ¬ text <+: c'.rest := mt hprefix.1 hpre
    rw [run_accept, if_neg (mt List.isPrefixOf_iff_prefix.1 hpre')]

section TakeWhile

variable {keep : Char → Bool} {cs : List Char}

theorem run_takeWhile_of_head? (hkeep : ∀ x, c.rest.head? = some x → keep x = false) (n : Nat) :
    (takeWhile keep n).run c = some ([], c) := by
  cases n with
  | zero => rfl
  | succ n =>
      obtain ⟨rest, verbose, names⟩ := c
      cases rest with
      | nil => rfl
      | cons x xs =>
          have hx := hkeep x rfl
          have h : (takeWhile keep (n + 1)).run ⟨x :: xs, verbose, names⟩ = StateT.run (m := Option)
              (if keep x then (do step; return x :: (← takeWhile keep n)) else return []
                : Read (List Char)) ⟨x :: xs, verbose, names⟩ := rfl
          rw [h, if_neg (by simpa using hx)]
          rfl

theorem run_takeWhile_of_keep {x : Char} (hx : keep x) (hrest : c.rest.head? = some x) (n : Nat) :
    (takeWhile keep (n + 1)).run c =
      (do step; return x :: (← takeWhile keep n) : Read (List Char)).run c := by
  obtain ⟨rest, verbose, names⟩ := c
  cases rest with
  | nil => cases hrest
  | cons y xs =>
      cases hrest
      have h : (takeWhile keep (n + 1)).run ⟨x :: xs, verbose, names⟩ = StateT.run (m := Option)
          (if keep x then (do step; return x :: (← takeWhile keep n)) else return []
            : Read (List Char)) ⟨x :: xs, verbose, names⟩ := rfl
      rw [h, if_pos hx]

theorem length_of_step {u : Unit} (h : step.run c = some (u, d)) :
    d.rest.length ≤ c.rest.length - 1 := by
  cases h
  rw [← List.length_tail]
  exact (visible_suffix _ _).length_le

theorem takeWhile_carries (hs : Beside e c o) (hn : c.rest.length ≤ n)
    (hm : c.rest.length ≤ m + e.near.length) (h : (takeWhile keep n).run c = some (cs, d))
    (hend : keep ')' = false ∨ d.rest ≠ []) :
    d.rest <:+ c.rest ∧ ∃ o', Beside e d o' ∧ Keeps e c o d o' ∧ (cs ≠ [] → Eats e c d o') ∧
      ∀ d', o' = some d' → ∃ c', o = some c' ∧ (takeWhile keep m).run c' = some (cs, d') := by
  induction n generalizing m c o cs with
  | zero =>
      have hnil := List.length_eq_zero_iff.1 (Nat.le_zero.1 hn)
      cases h
      refine ⟨List.suffix_rfl, o, hs, .refl e _ o, absurd rfl, ?_⟩
      rintro c' rfl
      refine ⟨c', rfl, run_takeWhile_of_head? (fun x hx => ?_) m⟩
      have hkeep := hend.resolve_right (not_not.2 hnil)
      rcases hs.head?_eq with hhead | ⟨-, hfar | hfar⟩
      · simp [hhead, hnil] at hx
      · simp [hfar] at hx
      · cases hfar.symm.trans hx
        exact hkeep
  | succ n ih =>
      by_cases hhead : ∃ x, c.rest.head? = some x ∧ keep x
      · obtain ⟨x, hx, hkeep⟩ := hhead
        have hne : c.rest ≠ [] := List.ne_nil_of_mem (List.mem_of_head? hx)
        obtain ⟨o₁, ho₁, hs₁, hr⟩ := hs.exists_ready hne
        rw [run_takeWhile_of_keep hkeep hx] at h
        obtain ⟨_, y, hy, h⟩ := run_bind_eq_some.1 h
        obtain ⟨cs, z, hcs, h⟩ := run_bind_eq_some.1 h
        cases h
        obtain ⟨hyc, o₂, hs₂, heats, hrun₂⟩ := carries_step hs₁ hr _ _ hy
        have hlen := length_of_step hy
        have hpos := List.length_pos_iff.2 hne
        obtain ⟨hzy, o', hs', hkeeps, -, hrun'⟩ := ih (m := m - 1) hs₂ (by omega) (by omega) hcs
        have heats' := heats.keeps hkeeps
        refine ⟨hzy.trans hyc, o', hs', heats'.toKeeps, fun _ => heats', ?_⟩
        intro d' hd'
        obtain ⟨y', rfl, hcs'⟩ := hrun' d' hd'
        obtain ⟨c', rfl, hy'⟩ := hrun₂ y' rfl
        have hlt := hs₁.length_lt hr
        obtain ⟨k, rfl⟩ := Nat.exists_eq_add_one_of_ne_zero (n := m) (by omega)
        refine ⟨c', (ho₁.resolve_right nofun).symm, ?_⟩
        rw [run_takeWhile_of_keep hkeep (hs₁.head?_eq_of_ready hr hx)]
        exact run_bind_eq_some.2 ⟨_, y', hy', run_bind_eq_some.2 ⟨cs, d', hcs', rfl⟩⟩
      · have hstop : ∀ x, c.rest.head? = some x → keep x = false := by
          intro x hx
          exact Bool.eq_false_iff.2 fun hkeep => hhead ⟨x, hx, hkeep⟩
        rw [run_takeWhile_of_head? hstop] at h
        cases h
        refine ⟨List.suffix_rfl, o, hs, .refl e _ o, absurd rfl, ?_⟩
        rintro c' rfl
        refine ⟨c', rfl, run_takeWhile_of_head? (fun x hx => ?_) m⟩
        rcases hs.head?_eq with hhead' | ⟨hnear, hfar | hfar⟩
        · exact hstop x (hhead'.symm.trans hx)
        · simp [hfar] at hx
        · cases hfar.symm.trans hx
          rcases hnear with hnear | hnear
          · exact hend.resolve_right (not_not.2 (List.head?_eq_none_iff.1 hnear))
          · exact hstop ')' hnear

theorem Carries.takeWhile_bind (hs : Beside e c o) (hm : c.rest.length ≤ m + e.near.length)
    (hkeep : keep ')' = false) {f f' : List Char → Read β}
    (h : ∀ cs d o', Beside e d o' → Keeps e c o d o' → (cs ≠ [] → Eats e c d o') →
      Carries e post (f cs) (f' cs) d o') :
    Carries e post (takeWhile keep c.rest.length >>= f) (takeWhile keep m >>= f') c o := by
  intro b x hb
  obtain ⟨cs, d, hd, hb⟩ := run_bind_eq_some.1 hb
  obtain ⟨hdc, o₁, hs₁, hkeeps, heats, hrun₁⟩ := takeWhile_carries hs le_rfl hm hd (.inl hkeep)
  obtain ⟨hxd, o₂, hs₂, hp, hrun₂⟩ := h cs d o₁ hs₁ hkeeps heats b x hb
  refine ⟨hxd.trans hdc, o₂, hs₂, hp, ?_⟩
  intro x' hx'
  obtain ⟨d', hd', hb'⟩ := hrun₂ x' hx'
  obtain ⟨c', hc', hcs'⟩ := hrun₁ d' hd'
  exact ⟨c', hc', run_bind_eq_some.2 ⟨cs, d', hcs', hb'⟩⟩

theorem Carries.takeWhile_peek_bind (hs : Beside e c o) (hm : c.rest.length ≤ m + e.near.length)
    {f f' : List Char → Char → Read β}
    (h : ∀ cs x d o', Beside e d o' → Ready d o' → d.rest.length ≤ c.rest.length →
      Carries e post (f cs x) (f' cs x) d o') :
    Carries e post (takeWhile keep c.rest.length >>= fun cs => peek >>= f cs)
      (takeWhile keep m >>= fun cs => peek >>= f' cs) c o := by
  intro b x hb
  obtain ⟨cs, d, hd, hb⟩ := run_bind_eq_some.1 hb
  have hne : d.rest ≠ [] := by
    rintro hnil
    obtain ⟨rest, verbose, names⟩ := d
    cases hnil
    cases hb
  obtain ⟨hdc, o₁, hs₁, hkeeps, -, hrun₁⟩ := takeWhile_carries hs le_rfl hm hd (.inr hne)
  have hpeek : Carries e post (peek >>= f cs) (peek >>= f' cs) d o₁ :=
    .peek_bind hs₁ fun x _ o₂ _ hs₂ hr => h cs x d o₂ hs₂ hr hkeeps.length_le
  obtain ⟨hxd, o₂, hs₂, hp, hrun₂⟩ := hpeek b x hb
  refine ⟨hxd.trans hdc, o₂, hs₂, hp, ?_⟩
  intro x' hx'
  obtain ⟨d', hd', hb'⟩ := hrun₂ x' hx'
  obtain ⟨c', hc', hcs'⟩ := hrun₁ d' hd'
  exact ⟨c', hc', run_bind_eq_some.2 ⟨cs, d', hcs', hb'⟩⟩

end TakeWhile

theorem dropWhile_isBlank_append {ds : List Char} (h : Closes ds) (cs : List Char) :
    (cs ++ ds).dropWhile Text.isBlank = cs.dropWhile Text.isBlank ++ ds := by
  induction cs with
  | nil =>
      cases ds with
      | nil => rfl
      | cons d ds =>
          cases h.resolve_left (List.cons_ne_nil d ds)
          exact List.dropWhile_cons_of_neg (by decide)
  | cons c cs ih =>
      rw [List.cons_append, List.dropWhile_cons, List.dropWhile_cons]
      split
      · exact ih
      · rfl

theorem run_dropSpaces (c : Cursor) :
    dropSpaces.run c = some ((), { c with rest := c.rest.dropWhile Text.isBlank }) := rfl

theorem carries_dropSpaces (hs : Beside e c o) :
    Carries e (Keeps e c o) dropSpaces dropSpaces c o := by
  intro a d h
  cases h
  have hsuffix : c.rest.dropWhile Text.isBlank <:+ c.rest := List.dropWhile_suffix _
  have hlen := hsuffix.length_le
  refine ⟨hsuffix, ?_⟩
  cases hs with
  | same _ hnear =>
      refine ⟨some _, .same _ hnear, ⟨hlen, nofun⟩, ?_⟩
      rintro _ ⟨⟩
      exact ⟨c, rfl, rfl⟩
  | lost _ hne h => exact ⟨none, .lost _ hne (hlen.trans h), ⟨hlen, fun _ => .inl rfl⟩, nofun⟩
  | live rest verbose names =>
      refine ⟨some ⟨rest.dropWhile Text.isBlank ++ e.far, verbose, names⟩, ?_, ⟨hlen, nofun⟩, ?_⟩
      · simp only [dropWhile_isBlank_append e.closes_near]
        exact .live _ verbose names
      · rintro _ ⟨⟩
        exact ⟨_, rfl, by simp only [run_dropSpaces, dropWhile_isBlank_append e.closes_far]⟩

def Still (r : Read α) : Prop := ∃ a : Option α, ∀ c, r.run c = a.map (·, c)

theorem still_scalar (cs : List Char) : Still (scalar cs) := by
  unfold scalar
  split
  · split
    · exact ⟨some _, fun _ => rfl⟩
    · exact ⟨none, fun _ => rfl⟩
  · exact ⟨none, fun _ => rfl⟩

theorem Carries.still (hr : Still r) (hs : Beside e c o) (hp : post c o) :
    Carries e post r r c o := by
  obtain ⟨a, ha⟩ := hr
  intro b d hb
  rw [ha] at hb
  obtain ⟨b, hab, hb⟩ := Option.map_eq_some_iff.1 hb
  cases hb
  refine ⟨List.suffix_rfl, o, hs, hp, ?_⟩
  rintro c' rfl
  exact ⟨c', rfl, by rw [ha, hab]; rfl⟩

theorem Carries.still_bind {f f' : α → Read β} (hr : Still r)
    (h : ∀ a, Carries e post (f a) (f' a) c o) : Carries e post (r >>= f) (r >>= f') c o := by
  obtain ⟨a, ha⟩ := hr
  cases a with
  | none =>
      intro b x hb
      obtain ⟨_, _, hnone, -⟩ := run_bind_eq_some.1 hb
      rw [ha] at hnone
      cases hnone
  | some a =>
      intro b x hb
      obtain ⟨_, d, hd, hb⟩ := run_bind_eq_some.1 hb
      rw [ha] at hd
      cases hd
      obtain ⟨hxc, o', hs', hp, ho'⟩ := h a b x hb
      refine ⟨hxc, o', hs', hp, ?_⟩
      intro x' hx'
      obtain ⟨c', hc', hrun⟩ := ho' x' hx'
      exact ⟨c', hc', run_bind_eq_some.2 ⟨a, c', by rw [ha]; rfl, hrun⟩⟩

theorem carries_decimal (hs : Beside e c o) : Carries e (Eats e c) decimal decimal c o := by
  refine (carries_dropSpaces hs).bind fun _ d o₁ hs₁ hk₁ => ?_
  refine .length_bind hs₁ fun m hm => ?_
  refine .takeWhile_bind hs₁ hm (by decide) fun digits x o₂ hs₂ hk₂ heats => ?_
  refine (carries_dropSpaces hs₂).bind fun _ y o₃ hs₃ hk₃ => ?_
  refine (carries_skipBlank hs₃).bind fun _ z o₄ hs₄ hk₄ => ?_
  refine .guarded fun hok => ?_
  have hne : digits ≠ [] := by
    rintro rfl
    simp at hok
  exact .pure hs₄ (hk₁.eats (((heats hne).keeps hk₃).keeps hk₄)) _

theorem carries_hexDigits (n : Nat) (hs : Beside e c o) :
    Carries e (fun d o' => Keeps e c o d o' ∧ (0 < n → Eats e c d o')) (hexDigits n) (hexDigits n)
      c o := by
  induction n generalizing c o with
  | zero => exact .pure hs ⟨.refl e c o, nofun⟩ []
  | succ n ih =>
      refine .peek_bind hs fun x xs o₁ hx hs₁ hr => ?_
      refine (carries_step hs₁ hr).bind fun _ d o₂ hs₂ he => ?_
      refine (ih hs₂).bind fun digits y o₃ hs₃ hk => ?_
      have heats := he.keeps hk.1
      exact .pure hs₃ ⟨heats.toKeeps, fun _ => heats⟩ _

theorem carries_hexLiteral (hs : Beside e c o) (hr : Ready c o) (kind : Char) :
    Carries e (Eats e c) (hexLiteral kind) (hexLiteral kind) c o := by
  refine (carries_stepInside hs hr).bind fun _ d o₁ hs₁ hd => ?_
  refine .peek_bind hs₁ fun x xs o₂ hx hs₂ hr₂ => ?_
  split
  · refine (carries_step hs₂ hr₂).bind fun _ y o₃ hs₃ hy => ?_
    refine .length_bind hs₃ fun m hm => ?_
    refine .takeWhile_peek_bind hs₃ hm fun digits z w o₄ hs₄ hr₄ hw => ?_
    refine .guarded fun _ => ?_
    refine (carries_step hs₄ hr₄).bind fun _ v o₅ hs₅ hv => ?_
    refine .still_bind (still_scalar digits) fun n => ?_
    exact .pure hs₅ (hv.of_le (hw.trans (hy.shorter.trans hd.1).le)) _
  · refine (carries_hexDigits _ hs₂).bind fun digits y o₃ hs₃ hy => ?_
    refine .still_bind (still_scalar digits) fun n => ?_
    refine .pure hs₃ ((hy.2 ?_).of_le hd.1.le) _
    repeat' split
    all_goals decide

theorem carries_unicodeClass (hs : Beside e c o) (hr : Ready c o) (negated : Bool) :
    Carries e (Eats e c) (unicodeClass negated) (unicodeClass negated) c o := by
  refine (carries_stepInside hs hr).bind fun _ d o₁ hs₁ hd => ?_
  refine .peek_bind hs₁ fun x xs o₂ hx hs₂ hr₂ => ?_
  split
  · refine (carries_step hs₂ hr₂).bind fun _ y o₃ hs₃ hy => ?_
    refine .length_bind hs₃ fun m hm => ?_
    refine .takeWhile_peek_bind hs₃ hm fun name z w o₄ hs₄ hr₄ hw => ?_
    refine .guarded fun _ => ?_
    refine (carries_advance hs₄ hr₄).bind fun _ v o₅ hs₅ hv => ?_
    exact .pure hs₅ (hv.of_le (hw.trans (hy.shorter.trans hd.1).le)) _
  · split
    · exact .failure
    · refine (carries_step hs₂ hr₂).bind fun _ y o₃ hs₃ hy => ?_
      exact .pure hs₃ (hy.of_le hd.1.le) _

/-- A brace behind a boundary that no name follows. It is left to be a repetition. -/
structure TurnsBack (c : Cursor) : Prop where
  brace : c.rest.head? = some '{'
  back : ∃ u d x, stepInside.run c = some (u, d) ∧ d.rest.head? = some x ∧
    isBoundaryLetter x = false

theorem TurnsBack.run_boundary (h : TurnsBack c) : boundary.run c = some (.wordBoundary, c) := by
  obtain ⟨u, d, x, hstep, hx, hletter⟩ := h.back
  have hpeek? : peek?.run c = some (some '{', c) := congrArg (fun x => some (x, c)) h.brace
  refine run_bind_eq_some.2 ⟨_, c, hpeek?, ?_⟩
  rw [if_neg (by decide)]
  refine run_bind_eq_some.2 ⟨c, c, rfl, ?_⟩
  refine run_bind_eq_some.2 ⟨u, d, hstep, ?_⟩
  refine run_peek_bind_eq_some.2 ⟨x, hx, ?_⟩
  rw [if_pos (by simp [hletter])]
  rfl

theorem carries_boundary (hs : Beside e c o) (h : ¬ TurnsBack c) :
    Carries e (Keeps e c o) boundary boundary c o := by
  refine .peek?_bind hs rfl fun x hx hready => ?_
  split
  · exact .pure hs (.refl e c o) _
  · rename_i hbrace
    have hbrace : x = some '{' := by simpa using hbrace
    refine .get_bind ?_
    refine (carries_stepInside hs (hready '{' hbrace (by decide))).bind_of_run
      fun u d o₁ hstep hs₁ hd => ?_
    refine .peek_bind hs₁ fun y ys o₂ hy hs₂ hr₂ => ?_
    split
    · rename_i hletter
      refine absurd ⟨hx ▸ hbrace, u, d, y, hstep, ?_, ?_⟩ h
      · rw [hy]
        rfl
      · simpa using hletter
    · refine .length_bind hs₂ fun m hm => ?_
      refine .takeWhile_peek_bind hs₂ hm fun name z w o₃ hs₃ hr₃ hw => ?_
      refine .guarded fun _ => ?_
      refine (carries_advance hs₃ hr₃).bind fun _ v o₄ hs₄ hv => ?_
      have hkeeps : Keeps e c o v o₄ := (hv.of_le (hw.trans hd.1.le)).toKeeps
      split <;> first | exact .pure hs₄ hkeeps _ | exact .failure

/-- A brace that the text ends behind, so that reading leaves the text before it has seen whether a
name follows. -/
structure Severed (e : Ends) (c : Cursor) : Prop where
  brace : c.rest.head? = some '{'
  leaves : ∃ u d, stepInside.run c = some (u, d) ∧ Beside e d none

theorem TurnsBack.or_severed (h : TurnsBack c) (hs : Beside e c (some c')) :
    TurnsBack c' ∨ Severed e c := by
  have hr := hs.ready h.brace (by decide)
  obtain ⟨u, d, x, hstep, hx, hletter⟩ := h.back
  obtain ⟨-, o₁, hs₁, ⟨-, hr₁⟩, hrun⟩ := carries_stepInside hs hr u d hstep
  cases o₁ with
  | none => exact .inr ⟨h.brace, u, d, hstep, hs₁⟩
  | some d' =>
      obtain ⟨_, hc', hstep'⟩ := hrun d' rfl
      cases hc'
      exact .inl ⟨hs.head?_eq_of_ready hr h.brace, u, d', x, hstep', hs₁.head?_eq_of_ready hr₁ hx,
        hletter⟩

/-- What the first reader does in one place the second one does in the other, unless a boundary is
severed from what may follow it. -/
def CarriesOr (e : Ends) (r r' : Read Form) (c : Cursor) (o : Option Cursor) : Prop :=
  ∀ f d, r.run c = some (f, d) → d.rest <:+ c.rest ∧
    ((∃ o', Beside e d o' ∧ Eats e c d o' ∧
      ∀ d', o' = some d' → ∃ c', o = some c' ∧ r'.run c' = some (f, d')) ∨
    (f = .anchor .wordBoundary ∧ Severed e d))

namespace CarriesOr

variable {r r' : Read Form} {f f' : Form → Read β}

protected theorem bind (h : CarriesOr e r r' c o)
    (hf : ∀ g d o', Beside e d o' → Eats e c d o' → Carries e post (f g) (f' g) d o')
    (hsevered : ∀ d, Severed e d → d.rest.length ≤ c.rest.length →
      Carries e post (f (.anchor .wordBoundary)) (f' (.anchor .wordBoundary)) d none) :
    Carries e post (r >>= f) (r' >>= f') c o := by
  intro b x hb
  obtain ⟨g, d, hd, hb⟩ := run_bind_eq_some.1 hb
  obtain ⟨hdc, ⟨o₁, hs₁, heats, hrun⟩ | ⟨rfl, hsev⟩⟩ := h g d hd
  · obtain ⟨hxd, o₂, hs₂, hp, hrun₂⟩ := hf g d o₁ hs₁ heats b x hb
    refine ⟨hxd.trans hdc, o₂, hs₂, hp, ?_⟩
    intro x' hx'
    obtain ⟨d', hd', hb'⟩ := hrun₂ x' hx'
    obtain ⟨c', hc', hg'⟩ := hrun d' hd'
    exact ⟨c', hc', run_bind_eq_some.2 ⟨g, d', hg', hb'⟩⟩
  · obtain ⟨hxd, hrun⟩ := (hsevered d hsev hdc.length_le).of_none b x hb
    exact ⟨hxd.trans hdc, hrun⟩

protected theorem peek_bind (hs : Beside e c o) {f f' : Char → Read Form}
    (h : ∀ x xs o₁, c.rest = x :: xs → Beside e c o₁ → Ready c o₁ →
      CarriesOr e (f x) (f' x) c o₁) :
    CarriesOr e (peek >>= f) (peek >>= f') c o := by
  intro b d hrun
  obtain ⟨x, hhead, hb⟩ := run_peek_bind_eq_some.1 hrun
  obtain ⟨xs, hrest⟩ := List.head?_eq_some_iff.1 hhead
  obtain ⟨o₁, ho₁, hs₁, hr₁⟩ := hs.exists_ready (List.ne_nil_of_mem (List.mem_of_head? hhead))
  refine (h x xs o₁ hrest hs₁ hr₁ b d hb).imp_right (Or.imp_left ?_)
  rintro ⟨o₂, hs₂, he, hrun₁⟩
  refine ⟨o₂, hs₂, he, ?_⟩
  intro d' hd'
  obtain ⟨c', rfl, hb'⟩ := hrun₁ d' hd'
  refine ⟨c', (ho₁.resolve_right nofun).symm, ?_⟩
  exact run_peek_bind_eq_some.2 ⟨x, hs₁.head?_eq_of_ready hr₁ hhead, hb'⟩

end CarriesOr

theorem Carries.toOr {r r' : Read Form} (h : Carries e (Eats e c) r r' c o) :
    CarriesOr e r r' c o := fun f d hf => (h f d hf).imp_right .inl

def Braced (c : Cursor) : Prop := ∃ x rest, c.rest = x :: 'b' :: rest ∧ TurnsBack { c with rest }

theorem run_escape_of_turnsBack {x : Char} {rest : List Char} (hc : c.rest = x :: 'b' :: rest)
    (h : TurnsBack { c with rest }) :
    escape.run c = some (.anchor .wordBoundary, { c with rest }) := by
  obtain ⟨_, verbose, names⟩ := c
  cases hc
  have hescape : escape.run ⟨x :: 'b' :: rest, verbose, names⟩ =
      (do return .anchor (← boundary) : Read Form).run ⟨rest, verbose, names⟩ := rfl
  rw [hescape]
  exact run_bind_eq_some.2 ⟨_, _, h.run_boundary, rfl⟩

theorem carries_escape (hs : Beside e c o) (hr : Ready c o) (h : ¬ Braced c) :
    Carries e (Eats e c) escape escape c o := by
  refine (carries_advance hs hr).bind_of_run fun u d o₁ hd hs₁ he₁ => ?_
  refine .peek_bind hs₁ fun x xs o₂ hx hs₂ hr₂ => ?_
  split
  · refine (carries_hexLiteral hs₂ hr₂ x).bind fun l y o₃ hs₃ hy => ?_
    exact .pure hs₃ (hy.of_le he₁.shorter.le) _
  split
  · refine (carries_unicodeClass hs₂ hr₂ _).bind fun s y o₃ hs₃ hy => ?_
    exact .pure hs₃ (hy.of_le he₁.shorter.le) _
  refine (carries_advance hs₂ hr₂).bind_of_run fun u y o₃ hy hs₃ he₃ => ?_
  have he := he₃.of_le he₁.shorter.le
  split
  · exact .pure hs₃ he _
  split
  · exact .pure hs₃ he _
  split
  · rename_i hb
    have hback : ¬ TurnsBack y := by
      intro hback
      obtain ⟨z, zs, hz⟩ := List.exists_cons_of_ne_nil hr.1
      cases hd
      cases hy
      simp only [hz, List.tail_cons] at hx hback
      rw [hx, List.tail_cons] at hback
      exact h ⟨z, xs, by rw [hz, hx, hb], hback⟩
    refine (carries_boundary hs₃ hback).bind fun a w o₄ hs₄ hw => ?_
    exact .pure hs₄ (he.keeps hw) _
  split
  · exact .pure hs₃ he _
  split
  · exact .pure hs₃ he _
  · exact .failure

theorem carriesOr_escape (hs : Beside e c o) (hr : Ready c o) : CarriesOr e escape escape c o := by
  by_cases h : Braced c
  · obtain ⟨rest, verbose, names⟩ := c
    obtain ⟨x, rest, hrest, hback⟩ := h
    cases hrest
    intro f d hf
    rw [run_escape_of_turnsBack rfl hback] at hf
    cases hf
    refine ⟨⟨[x, 'b'], rfl⟩, ?_⟩
    obtain ⟨-, o₁, hs₁, he₁, hrun₁⟩ := carries_advance hs hr _ _ rfl
    have hr₁ : Ready ⟨'b' :: rest, verbose, names⟩ o₁ := hs₁.ready rfl (by decide)
    obtain ⟨-, o₂, hs₂, he₂, hrun₂⟩ := carries_advance hs₁ hr₁ _ _ rfl
    have he := he₂.of_le he₁.shorter.le
    cases o₂ with
    | none => exact .inl ⟨none, hs₂, he, nofun⟩
    | some c₂ =>
        rcases hback.or_severed hs₂ with hback₂ | hsevered
        · refine .inl ⟨some c₂, hs₂, he, ?_⟩
          rintro _ ⟨⟩
          obtain ⟨c₁, rfl, h₂⟩ := hrun₂ c₂ rfl
          obtain ⟨c', rfl, h₁⟩ := hrun₁ c₁ rfl
          have hx := hs.head?_eq_of_ready hr rfl
          have hb := hs₁.head?_eq_of_ready hr₁ rfl
          refine ⟨c', rfl, ?_⟩
          obtain ⟨xs, verbose', names'⟩ := c'
          cases h₁
          cases h₂
          obtain ⟨ys, rfl⟩ := List.head?_eq_some_iff.1 hx
          obtain ⟨zs, hys⟩ := List.head?_eq_some_iff.1 hb
          simp only [List.tail_cons] at hys
          subst hys
          exact run_escape_of_turnsBack rfl hback₂
        · exact .inr ⟨rfl, hsevered⟩
  · exact (carries_escape hs hr h).toOr

end WideRow.Pattern.Read
