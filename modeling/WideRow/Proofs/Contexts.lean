import Mathlib.Data.List.TakeDrop
import Mathlib.Data.Nat.Basic
import WideRow.Proofs.Cuts
import WideRow.Proofs.PatternBounds

namespace WideRow.Pattern

/-- What follows a text in two places: nothing in either, nothing and then what ends a pattern, or
the end of a group and then nothing. -/
inductive Ends where
  | alike
  | closed
  | cut (rest : List Char)

def closing : List Char := [')', '$']

/-- Nothing, or the end of a group. -/
def Closes (ds : List Char) : Prop := ds = [] ∨ ds.head? = some ')'

namespace Ends

def near : Ends → List Char
  | alike | closed => []
  | cut rest => ')' :: rest

def far : Ends → List Char
  | alike | cut _ => []
  | closed => closing

theorem closes_near (e : Ends) : Closes e.near := by cases e <;> simp [Closes, near]

theorem closes_far (e : Ends) : Closes e.far := by cases e <;> simp [Closes, far, closing]

end Ends

/-- A cursor in one place and in the other, where there is none once reading has come to what
follows the text or beyond. A comment at its end swallows what follows in the other place. -/
inductive Beside (e : Ends) : Cursor → Option Cursor → Prop
  | live (rest : List Char) (verbose : Bool) (names : List String) :
    Beside e ⟨rest ++ e.near, verbose, names⟩ (some ⟨rest ++ e.far, verbose, names⟩)
  | same (c : Cursor) (h : e.near = []) : Beside e c (some c)
  | lost (c : Cursor) (hne : e.near ≠ []) (h : c.rest.length ≤ e.near.length) : Beside e c none

def Ready (c : Cursor) (o : Option Cursor) : Prop := c.rest ≠ [] ∧ ∀ c', o = some c' → c'.rest ≠ []

/-- Reading has gone on, and beyond the text if that was left. -/
structure Eats (e : Ends) (c d : Cursor) (o : Option Cursor) : Prop where
  shorter : d.rest.length < c.rest.length
  beyond (h : o = none) : d.rest.length < e.near.length

/-- Reading has not gone back, and has gone on beyond the text if it left that. -/
structure Keeps (e : Ends) (c : Cursor) (o : Option Cursor) (d : Cursor) (o' : Option Cursor) :
    Prop where
  length_le : d.rest.length ≤ c.rest.length
  beyond (h : o' = none) : o = none ∨ d.rest.length < e.near.length

section

variable {e : Ends} {c c' d x : Cursor} {o o' o₁ : Option Cursor}

theorem Eats.keeps (h : Eats e c d o) (hk : Keeps e d o x o') : Eats e c x o' where
  shorter := hk.length_le.trans_lt h.shorter
  beyond hnone := (hk.beyond hnone).elim (fun ho => hk.length_le.trans_lt (h.beyond ho)) id

theorem Keeps.eats (h : Keeps e c o d o₁) (hk : Eats e d x o') : Eats e c x o' where
  shorter := hk.shorter.trans_le h.length_le
  beyond := hk.beyond

theorem Keeps.keeps (h : Keeps e c o d o₁) (hk : Keeps e d o₁ x o') : Keeps e c o x o' where
  length_le := hk.length_le.trans h.length_le
  beyond hnone := by
    rcases hk.beyond hnone with ho | hx
    · exact (h.beyond ho).imp_right hk.length_le.trans_lt
    · exact .inr hx

theorem Keeps.refl (e : Ends) (c : Cursor) (o : Option Cursor) : Keeps e c o c o := ⟨le_rfl, .inl⟩

theorem Eats.of_le (h : Eats e d x o) (hd : d.rest.length ≤ c.rest.length) : Eats e c x o :=
  ⟨h.shorter.trans_le hd, h.beyond⟩

theorem Eats.toKeeps (h : Eats e c d o') : Keeps e c o d o' :=
  ⟨h.shorter.le, fun hnone => .inr (h.beyond hnone)⟩

end

theorem isPrefix_append_iff {text cs ds : List Char} (h : ')' ∉ text) (hds : Closes ds) :
    text <+: cs ++ ds ↔ text <+: cs := by
  refine ⟨fun hcs => ?_, fun hcs => hcs.trans (List.prefix_append _ _)⟩
  cases ds with
  | nil => rwa [List.append_nil] at hcs
  | cons d ds =>
      cases hds.resolve_left (List.cons_ne_nil d ds)
      exact Text.isPrefix_of_append_cons h hcs

theorem ne_nil_of_ready {e : Ends} {rest : List Char} {verbose verbose' : Bool}
    {names names' : List String}
    (h : Ready ⟨rest ++ e.near, verbose, names⟩ (some ⟨rest ++ e.far, verbose', names'⟩)) :
    rest ≠ [] := by
  rintro rfl
  obtain ⟨hnear, hfar⟩ := h
  have hfar := hfar _ rfl
  cases e <;> simp [Ends.near, Ends.far] at hnear hfar

namespace Beside

variable {e : Ends} {c c' : Cursor} {o : Option Cursor} {x : Char}

theorem exists_of_ready (h : Beside e c (some c')) (hr : Ready c (some c')) :
    ∃ x xs xs', c.rest = x :: xs ∧ c'.rest = x :: xs' ∧
      Beside e { c with rest := xs } (some { c' with rest := xs' }) := by
  cases h with
  | same _ hnear =>
      obtain ⟨x, xs, hx⟩ := List.exists_cons_of_ne_nil hr.1
      exact ⟨x, xs, xs, hx, hx, .same _ hnear⟩
  | live rest verbose names =>
      obtain ⟨x, xs, rfl⟩ := List.exists_cons_of_ne_nil (ne_nil_of_ready hr)
      exact ⟨x, _, _, rfl, rfl, .live xs verbose names⟩

theorem length_le (h : Beside e c (some c')) : e.near.length ≤ c.rest.length := by
  cases h with
  | live rest => simp
  | same _ hnear => simp [hnear]

theorem length_lt (h : Beside e c (some c')) (hr : Ready c (some c')) :
    e.near.length < c.rest.length := by
  obtain ⟨x, xs, xs', hx, -, hnext⟩ := h.exists_of_ready hr
  rw [hx, List.length_cons]
  exact Nat.lt_succ_of_le hnext.length_le

theorem lost_of_not_ready (h : Beside e c o) (hne : c.rest ≠ []) (hr : ¬ Ready c o) :
    Beside e c none ∧ c.rest.head? = some ')' := by
  obtain ⟨c', rfl, hc'⟩ : ∃ c', o = some c' ∧ c'.rest = [] := by
    by_contra hno
    exact hr ⟨hne, fun c' hc' hnil => hno ⟨c', hc', hnil⟩⟩
  cases h with
  | same => exact absurd hc' hne
  | live rest verbose names =>
      obtain ⟨rfl, -⟩ := List.append_eq_nil_iff.1 hc'
      cases e with
      | alike | closed => exact absurd rfl hne
      | cut rest => exact ⟨.lost _ (List.cons_ne_nil _ _) le_rfl, rfl⟩

theorem exists_ready (h : Beside e c o) (hne : c.rest ≠ []) :
    ∃ o₁, (o₁ = o ∨ o₁ = none) ∧ Beside e c o₁ ∧ Ready c o₁ := by
  by_cases hr : Ready c o
  · exact ⟨o, .inl rfl, h, hr⟩
  · exact ⟨none, .inr rfl, (h.lost_of_not_ready hne hr).1, hne, nofun⟩

theorem ready (hs : Beside e c o) (hx : c.rest.head? = some x) (h : x ≠ ')') : Ready c o := by
  by_contra hr
  have hne := List.ne_nil_of_mem (List.mem_of_head? hx)
  exact h (Option.some.inj (hx.symm.trans (hs.lost_of_not_ready hne hr).2))

theorem head?_getD (hs : Beside e c o) (hr : Ready c o) :
    (o.getD c).rest.head? = c.rest.head? := by
  cases o with
  | none => rfl
  | some c' =>
      obtain ⟨y, ys, ys', hy, hy', -⟩ := hs.exists_of_ready hr
      rw [Option.getD_some, hy, hy']
      rfl

theorem head?_eq_of_ready (hs : Beside e c (some c')) (hr : Ready c (some c'))
    (hx : c.rest.head? = some x) : c'.rest.head? = some x :=
  (hs.head?_getD hr).trans hx

theorem head?_eq (h : Beside e c (some c')) :
    c'.rest.head? = c.rest.head? ∨ (c.rest.head? = none ∨ c.rest.head? = some ')') ∧
      (c'.rest.head? = none ∨ c'.rest.head? = some ')') := by
  cases h with
  | same => exact .inl rfl
  | live rest =>
      cases rest with
      | cons => exact .inl rfl
      | nil => cases e <;> simp [Ends.near, Ends.far, closing]

theorem isPrefix_iff {text : List Char} (hs : Beside e c o) (h : ')' ∉ text) :
    text <+: (o.getD c).rest ↔ text <+: c.rest := by
  cases hs with
  | same | lost => exact Iff.rfl
  | live rest =>
      exact (isPrefix_append_iff h e.closes_far).trans (isPrefix_append_iff h e.closes_near).symm

theorem drop {text rest rest' : List Char} (hs : Beside e c o) (h : ')' ∉ text)
    (hc : c.rest = text ++ rest) (hc' : (o.getD c).rest = text ++ rest') :
    Beside e { c with rest } (o.map fun c' => { c' with rest := rest' }) := by
  cases hs with
  | same _ hnear =>
      cases List.append_cancel_left (hc.symm.trans hc')
      exact .same _ hnear
  | lost _ hne hlen =>
      rw [hc, List.length_append] at hlen
      exact .lost _ hne ((Nat.le_add_left _ _).trans hlen)
  | live text' verbose names =>
      obtain ⟨more, rfl⟩ := (isPrefix_append_iff h e.closes_near).1 ⟨rest, hc.symm⟩
      simp only [Option.getD_some, List.append_assoc] at hc hc'
      cases List.append_cancel_left hc
      cases List.append_cancel_left hc'
      exact .live more verbose names

end Beside

namespace Read

variable {α β : Type} {e : Ends} {r r' : Read α} {f f' : α → Read β} {c c' d : Cursor}
  {o o' : Option Cursor} {a : α} {m n : Nat} {post post₁ : Cursor → Option Cursor → Prop}

/-- What the first reader does in one place the second one does in the other, unless reading leaves
the text. An end of what was there remains to be read. -/
def Carries (e : Ends) (post : Cursor → Option Cursor → Prop) (r r' : Read α) (c : Cursor)
    (o : Option Cursor) : Prop :=
  ∀ a d, r.run c = some (a, d) → d.rest <:+ c.rest ∧ ∃ o', Beside e d o' ∧ post d o' ∧
    ∀ d', o' = some d' → ∃ c', o = some c' ∧ r'.run c' = some (a, d')

theorem run_peek_bind_eq_some {f : Char → Read β} {b : β} :
    (peek >>= f).run c = some (b, d) ↔ ∃ x, c.rest.head? = some x ∧ (f x).run c = some (b, d) := by
  rw [run_bind_eq_some]
  obtain ⟨rest, verbose, names⟩ := c
  cases rest with
  | nil =>
      constructor
      · rintro ⟨x, y, hx, -⟩
        cases hx
      · rintro ⟨x, hx, -⟩
        cases hx
  | cons y ys =>
      constructor
      · rintro ⟨x, _, hx, hb⟩
        cases hx
        exact ⟨y, rfl, hb⟩
      · rintro ⟨x, hx, hb⟩
        cases hx
        exact ⟨y, _, rfl, hb⟩

namespace Carries

protected theorem pure (hs : Beside e c o) (hp : post c o) (a : α) :
    Carries e post (pure a) (pure a) c o := by
  intro b d h
  cases h
  exact ⟨List.suffix_rfl, o, hs, hp, fun d' hd' => ⟨d', hd', rfl⟩⟩

protected theorem failure : Carries e post (failure : Read α) r' c o := by
  intro a d h
  cases h

theorem bind_of_run (h : Carries e post₁ r r' c o)
    (hf : ∀ a d o', r.run c = some (a, d) → Beside e d o' → post₁ d o' →
      Carries e post (f a) (f' a) d o') :
    Carries e post (r >>= f) (r' >>= f') c o := by
  intro b x hb
  obtain ⟨a, d, ha, hb⟩ := run_bind_eq_some.1 hb
  obtain ⟨hdc, o₁, hd, hp, ho₁⟩ := h a d ha
  obtain ⟨hxd, o₂, hx, hpx, ho₂⟩ := hf a d o₁ ha hd hp b x hb
  refine ⟨hxd.trans hdc, o₂, hx, hpx, ?_⟩
  intro x' hx'
  obtain ⟨d', hd', hb'⟩ := ho₂ x' hx'
  obtain ⟨c', hc', ha'⟩ := ho₁ d' hd'
  exact ⟨c', hc', run_bind_eq_some.2 ⟨a, d', ha', hb'⟩⟩

protected theorem bind (h : Carries e post₁ r r' c o)
    (hf : ∀ a d o', Beside e d o' → post₁ d o' → Carries e post (f a) (f' a) d o') :
    Carries e post (r >>= f) (r' >>= f') c o := h.bind_of_run fun a d o' _ => hf a d o'

protected theorem imp (h : Carries e post₁ r r' c o) (hp : ∀ d o', post₁ d o' → post d o') :
    Carries e post r r' c o := by
  intro a d ha
  obtain ⟨hdc, o', hd, hpd, ho'⟩ := h a d ha
  exact ⟨hdc, o', hd, hp d o' hpd, ho'⟩

/-- What is refused in one place need not be looked at in the other. -/
theorem refused {p : Prop} [Decidable p] (hp : p) {f : Unit → Read β} {s r' : Read β} :
    Carries e post (if p then failure >>= f else s) r' c o := by
  rw [if_pos hp]
  intro b x hb
  obtain ⟨_, _, ha, -⟩ := run_bind_eq_some.1 hb
  cases ha

theorem guarded {p : Prop} [Decidable p] {f f' : Unit → Read β}
    (h : ¬ p → Carries e post (f ()) (f' ()) c o) :
    Carries e post (if p then failure >>= f else f ()) (if p then failure >>= f' else f' ()) c
      o := by
  by_cases hp : p
  · exact .refused hp
  · rw [if_neg hp, if_neg hp]
    exact h hp

theorem congr {s' : Read α} (h : Carries e post r r' c o)
    (hr : ∀ c', o = some c' → s'.run c' = r'.run c') : Carries e post r s' c o := by
  intro a d ha
  obtain ⟨hdc, o', hd, hp, ho'⟩ := h a d ha
  refine ⟨hdc, o', hd, hp, ?_⟩
  intro d' hd'
  obtain ⟨c', hc', hrun⟩ := ho' d' hd'
  exact ⟨c', hc', (hr c' hc').trans hrun⟩

theorem of_none {s' : Read α} (h : Carries e post r s' c none) : Carries e post r r' c o := by
  intro a d ha
  obtain ⟨hdc, o', hd, hp, ho'⟩ := h a d ha
  refine ⟨hdc, o', hd, hp, ?_⟩
  intro d' hd'
  obtain ⟨_, hc', -⟩ := ho' d' hd'
  cases hc'

theorem get_bind {f f' : Cursor → Read β} (h : Carries e post (f c) (f' (o.getD c)) c o) :
    Carries e post (get >>= f) (get >>= f') c o := by
  refine Carries.congr (r := get >>= f) h ?_
  rintro c' rfl
  rfl

theorem length_bind (hs : Beside e c o) {f f' : Nat → Read β}
    (h : ∀ m, c.rest.length ≤ m + e.near.length → Carries e post (f c.rest.length) (f' m) c o) :
    Carries e post (length >>= f) (length >>= f') c o := by
  have hlen : c.rest.length ≤ (o.getD c).rest.length + e.near.length := by
    cases hs with
    | live => simp
    | same | lost => simp
  refine (h _ hlen).congr (r := length >>= f) ?_
  rintro c' rfl
  rfl

theorem of_ready (hs : Beside e c o) (hnil : c.rest = [] → ∀ a d, r.run c ≠ some (a, d))
    (h : ∀ o₁, Beside e c o₁ → Ready c o₁ → Carries e post r r' c o₁) :
    Carries e post r r' c o := by
  intro a d ha
  obtain ⟨o₁, ho₁, hs₁, hr₁⟩ := hs.exists_ready fun hc => hnil hc a d ha
  rcases ho₁ with rfl | rfl
  · exact h o₁ hs₁ hr₁ a d ha
  · exact (h none hs₁ hr₁).of_none a d ha

theorem modify_bind {g g' : Cursor → Cursor} {f f' : Unit → Read β} (hg : (g c).rest <:+ c.rest)
    (h : Carries e post (f ()) (f' ()) (g c) (o.map g')) :
    Carries e post (modify g >>= f) (modify g' >>= f') c o := by
  intro a d ha
  obtain ⟨hdc, o', hs', hp, hrun⟩ := h a d ha
  refine ⟨hdc.trans hg, o', hs', hp, ?_⟩
  intro d' hd'
  obtain ⟨_, hc', hb⟩ := hrun d' hd'
  obtain ⟨c', rfl, rfl⟩ := Option.map_eq_some_iff.1 hc'
  exact ⟨c', rfl, hb⟩

theorem drop_bind (hs : Beside e c o) {text rest rest' : List Char} (htext : ')' ∉ text)
    (hc : c.rest = text ++ rest) (hc' : (o.getD c).rest = text ++ rest') {f f' : Unit → Read β}
    (h : ∀ o₁, Beside e { c with rest } o₁ → Carries e post (f ()) (f' ()) { c with rest } o₁) :
    Carries e post (modify (fun c => { c with rest := rest }) >>= f)
      (modify (fun c => { c with rest := rest' }) >>= f') c o :=
  .modify_bind ⟨text, hc.symm⟩ (h _ (hs.drop htext hc hc'))

theorem peek_bind (hs : Beside e c o) {f f' : Char → Read β}
    (h : ∀ x xs o₁, c.rest = x :: xs → Beside e c o₁ → Ready c o₁ →
      Carries e post (f x) (f' x) c o₁) :
    Carries e post (peek >>= f) (peek >>= f') c o := by
  intro b d hrun
  obtain ⟨x, hhead, hb⟩ := run_peek_bind_eq_some.1 hrun
  obtain ⟨xs, hrest⟩ := List.head?_eq_some_iff.1 hhead
  obtain ⟨o₁, ho₁, hs₁, hr₁⟩ := hs.exists_ready (List.ne_nil_of_mem (List.mem_of_head? hhead))
  obtain ⟨hdc, o₂, hs₂, hp, hrun₁⟩ := h x xs o₁ hrest hs₁ hr₁ b d hb
  refine ⟨hdc, o₂, hs₂, hp, ?_⟩
  intro d' hd'
  obtain ⟨c', rfl, hb'⟩ := hrun₁ d' hd'
  refine ⟨c', (ho₁.resolve_right nofun).symm, ?_⟩
  exact run_peek_bind_eq_some.2 ⟨x, hs₁.head?_eq_of_ready hr₁ hhead, hb'⟩

theorem peek?_bind (hs : Beside e c o) {f f' : Option Char → Read β}
    (hend : f' (some ')') = f' none)
    (h : ∀ x, x = c.rest.head? → (∀ y, x = some y → y ≠ ')' → Ready c o) →
      Carries e post (f x) (f' x) c o) :
    Carries e post (peek? >>= f) (peek? >>= f') c o := by
  refine (h c.rest.head? rfl fun y hy hclose => hs.ready hy hclose).congr (r := peek? >>= f) ?_
  rintro c' rfl
  have hsame : f' c'.rest.head? = f' c.rest.head? := by
    rcases hs.head?_eq with hhead | ⟨hnear, hfar⟩
    · rw [hhead]
    · rcases hnear with hnear | hnear <;> rcases hfar with hfar | hfar <;>
        simp only [hnear, hfar, hend]
  change (f' c'.rest.head?).run c' = (f' c.rest.head?).run c'
  rw [hsame]

end Carries

end Read

end WideRow.Pattern
