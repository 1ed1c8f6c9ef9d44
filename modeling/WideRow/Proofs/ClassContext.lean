import WideRow.Proofs.TokenContext

namespace WideRow.Pattern.Read

variable {α β : Type} {e : Ends} {r r' : Read α} {c c' d : Cursor} {o o' : Option Cursor}
  {m n : Nat} {post : Cursor → Option Cursor → Prop}

theorem carriesOr_classItem (hs : Beside e c o) : CarriesOr e classItem classItem c o := by
  refine .peek_bind hs fun x xs o₁ hx hs₁ hr₁ => ?_
  split
  · exact carriesOr_escape hs₁ hr₁
  · refine ((carries_advance hs₁ hr₁).bind fun _ d o₂ hs₂ he => ?_).toOr
    exact .pure hs₂ he _

theorem still_literalOf (f : Form) : Still (literalOf f) := by
  unfold literalOf
  split
  · exact ⟨some _, fun _ => rfl⟩
  · exact ⟨none, fun _ => rfl⟩

theorem still_itemOf (f : Form) : Still (itemOf f) := by
  unfold itemOf
  split
  · exact ⟨some _, fun _ => rfl⟩
  · exact ⟨some _, fun _ => rfl⟩
  · exact ⟨none, fun _ => rfl⟩

theorem beyondBlank_append (pastSign : Bool) {ds : List Char} (h : Closes ds) (cs : List Char) :
    beyondBlank pastSign (cs ++ ds) = (beyondBlank pastSign cs).or ds.head? := by
  induction cs generalizing pastSign with
  | nil =>
      cases ds with
      | nil => rfl
      | cons d ds =>
          cases h.resolve_left (List.cons_ne_nil d ds)
          cases pastSign <;> simp [beyondBlank, Text.isBlank]
  | cons c cs ih =>
      rw [List.cons_append, beyondBlank, beyondBlank]
      split
      · exact ih _
      · split
        · exact ih _
        · rfl

theorem head?_of_beyondBlank_eq_none {cs : List Char} {x : Char}
    (h : beyondBlank false cs = none) (hx : cs.head? = some x) : Text.isBlank x ∨ x = '#' := by
  cases cs with
  | nil => cases hx
  | cons y cs =>
      cases hx
      rw [beyondBlank] at h
      split at h
      · exact .inl ‹_›
      · split at h
        · rename_i hsign
          simp at hsign
          exact .inr hsign
        · cases h

def standsBeyond (verbose : Bool) (cs : List Char) : Option Char :=
  if verbose then (beyondBlank false cs).or cs.head? else cs.head?

theorem standsBeyond_append (verbose : Bool) {ds : List Char} (h : Closes ds) (cs : List Char)
    {x : Char} (hx : x = ']' ∨ x = '-') :
    standsBeyond verbose (cs ++ ds) = some x ↔ standsBeyond verbose cs = some x := by
  have hclose : x ≠ ')' := by rcases hx with rfl | rfl <;> decide
  have hds : ds.head? ≠ some x := by
    rcases h with rfl | h
    · exact nofun
    · rw [h]
      exact fun heq => hclose (Option.some.inj heq).symm
  cases verbose with
  | false =>
      cases cs with
      | nil => simpa [standsBeyond] using hds
      | cons => rfl
  | true =>
      simp only [standsBeyond, if_pos, beyondBlank_append false h]
      cases hbeyond : beyondBlank false cs with
      | some z => rfl
      | none =>
          have hcs : cs.head? ≠ some x := by
            intro hhead
            rcases head?_of_beyondBlank_eq_none hbeyond hhead with hblank | rfl
            · rcases hx with rfl | rfl <;> exact absurd hblank (by decide)
            · revert hx
              decide
          rcases h with rfl | h
          · simp
          · simp [h, hcs, hclose.symm]

theorem Carries.peekBeyond?_bind (hs : Beside e c o) (hr : Ready c o) {f f' : Option Char → Read β}
    (h : ∀ b b', (∀ x, x = ']' ∨ x = '-' → (b == some x) = (b' == some x)) →
      Carries e post (f b) (f' b') c o) :
    Carries e post (peekBeyond? >>= f) (peekBeyond? >>= f') c o := by
  have hsame : ∀ c', o = some c' → ∀ x, x = ']' ∨ x = '-' →
      (standsBeyond c.verbose c.rest.tail = some x ↔
        standsBeyond c'.verbose c'.rest.tail = some x) := by
    rintro c' rfl x hx
    cases hs with
    | same => exact Iff.rfl
    | live rest verbose names =>
        obtain ⟨y, ys, rfl⟩ := List.exists_cons_of_ne_nil (ne_nil_of_ready hr)
        exact (standsBeyond_append verbose e.closes_near ys hx).trans
          (standsBeyond_append verbose e.closes_far ys hx).symm
  intro a d ha
  cases o with
  | none =>
      have hnone : Carries e post (peekBeyond? >>= f) (f' (standsBeyond c.verbose c.rest.tail)) c
          none := h _ _ fun _ _ => rfl
      exact hnone.of_none a d ha
  | some c' =>
      have hmarks : ∀ x, x = ']' ∨ x = '-' → (standsBeyond c.verbose c.rest.tail == some x) =
          (standsBeyond c'.verbose c'.rest.tail == some x) := by
        intro x hx
        rw [Bool.eq_iff_iff, beq_iff_eq, beq_iff_eq]
        exact hsame c' rfl x hx
      obtain ⟨hdc, o', hs', hp, hrun⟩ := h _ _ hmarks a d ha
      refine ⟨hdc, o', hs', hp, ?_⟩
      intro d' hd'
      obtain ⟨_, hc', hb⟩ := hrun d' hd'
      cases hc'
      exact ⟨c', rfl, hb⟩

theorem Carries.of_yields_false (h : Yields (fun _ => False) r) : Carries e post r r' c o :=
  fun a d ha => (h c a d ha).elim

theorem yields_literalOf_anchor (kind : Anchor) (f : Literal → Read β) :
    Yields (fun _ => False) (literalOf (.anchor kind) >>= f) :=
  Yields.bind (P := fun _ => False) .failure fun _ => False.elim

theorem carries_classRange (hs : Beside e c o) :
    Carries e (fun d _ => d.rest.length < c.rest.length) classRange classRange c o := by
  refine (carriesOr_classItem hs).bind (fun first d o₁ hs₁ he₁ => ?_) fun d _ _ => ?_
  · refine (carries_skipBlank hs₁).bind fun _ y o₂ hs₂ hk₂ => ?_
    refine .peek_bind hs₂ fun x xs o₃ hx hs₃ hr₃ => ?_
    refine .peekBeyond?_bind hs₃ hr₃ fun b b' hb => ?_
    have hlen : y.rest.length < c.rest.length := hk₂.length_le.trans_lt he₁.shorter
    rw [hb ']' (.inl rfl), hb '-' (.inr rfl)]
    split
    · exact .still (still_itemOf first) hs₃ hlen
    · refine (carries_stepInside hs₃ hr₃).bind fun _ z o₄ hs₄ hz => ?_
      refine (carriesOr_classItem hs₄).bind (fun last w o₅ hs₅ he₅ => ?_) fun w _ _ => ?_
      · refine .still_bind (still_literalOf first) fun first => ?_
        refine .still_bind (still_literalOf last) fun last => ?_
        split
        · exact .pure hs₅ (he₅.shorter.trans (hz.1.trans hlen)) _
        · exact .failure
      · exact .of_yields_false (.any_bind fun first => yields_literalOf_anchor _ _)
  · refine .of_yields_false (.any_bind fun _ => .any_bind fun x => .any_bind fun b => ?_)
    split
    · exact .failure
    · exact .any_bind fun _ => .any_bind fun _ => yields_literalOf_anchor _ _

/-- Without fuel a reader may be given up where reading has left the text, but not in it. -/
theorem Carries.of_fuel {R : Nat → Read α} (hpos : ∀ c', o = some c' → 0 < m)
    (h : ∀ k, m ≤ k + 1 → Carries e post r (R (k + 1)) c o) : Carries e post r (R m) c o := by
  cases m with
  | zero =>
      cases o with
      | none => exact (h 0 (Nat.zero_le _)).of_none
      | some c' => exact absurd (hpos c' rfl) (Nat.lt_irrefl 0)
  | succ k => exact h k le_rfl

theorem carries_dashes (hs : Beside e c o) (hr : Ready c o) (hn : c.rest.length ≤ n)
    (hm : c.rest.length ≤ m + e.near.length) :
    Carries e (fun d o' => d.rest.length ≤ c.rest.length ∧ Ready d o') (dashes n) (dashes m) c
      o := by
  induction n generalizing m c o with
  | zero => exact absurd (List.length_eq_zero_iff.1 (Nat.le_zero.1 hn)) hr.1
  | succ n ih =>
      refine .of_fuel ?_ fun k hk => ?_
      · rintro c' rfl
        have := hs.length_lt hr
        omega
      · refine .peek_bind hs fun x xs o₁ hx hs₁ hr₁ => ?_
        split
        · refine (carries_stepInside hs₁ hr₁).bind fun _ d o₂ hs₂ hd => ?_
          obtain ⟨hlen, hr₂⟩ := hd
          refine (ih hs₂ hr₂ (by omega) (by omega)).bind fun items y o₃ hs₃ hy => ?_
          exact .pure hs₃ ⟨hy.1.trans hlen.le, hy.2⟩ _
        · exact .pure hs₁ ⟨le_rfl, hr₁⟩ []

theorem carries_classOpen (hs : Beside e c o) (hr : Ready c o) :
    Carries e (fun d _ => d.rest.length < c.rest.length) classOpen classOpen c o := by
  have hitems (negated : Bool) {y : Cursor} {o₁ : Option Cursor} (hs₁ : Beside e y o₁)
      (hr₁ : Ready y o₁) (hy : y.rest.length < c.rest.length) :
      Carries e (fun d _ => d.rest.length < c.rest.length) (do
        let items ← dashes (← length)
        if items.isEmpty && (← peek) == ']' then
          stepInside
          return (negated, [.range ⟨93, false⟩ ⟨93, false⟩])
        return (negated, items))
      (do
        let items ← dashes (← length)
        if items.isEmpty && (← peek) == ']' then
          stepInside
          return (negated, [.range ⟨93, false⟩ ⟨93, false⟩])
        return (negated, items)) y o₁ := by
    refine .length_bind hs₁ fun m hm => ?_
    refine (carries_dashes hs₁ hr₁ le_rfl hm).bind fun items z o₂ hs₂ hz => ?_
    refine .peek_bind hs₂ fun x xs o₃ hx hs₃ hr₃ => ?_
    split
    · refine (carries_stepInside hs₃ hr₃).bind fun _ w o₄ hs₄ hw => ?_
      exact .pure hs₄ (hw.1.trans_le (hz.1.trans hy.le)) _
    · exact .pure hs₃ (hz.1.trans_lt hy) _
  refine (carries_stepInside hs hr).bind fun _ d o₁ hs₁ hd => ?_
  refine .peek_bind hs₁ fun x xs o₂ hx hs₂ hr₂ => ?_
  dsimp only
  split
  · refine (carries_stepInside hs₂ hr₂).bind fun _ y o₃ hs₃ hy => ?_
    exact hitems _ hs₃ hy.2 (hy.1.trans hd.1)
  · exact hitems _ hs₂ hr₂ hd.1

def asciiClassText (name : String) (negated : Bool) : List Char :=
  '[' :: ':' :: ((if negated then ['^'] else []) ++ name.toList ++ [':', ']'])

theorem caret_eq (cs : List Char) :
    cs = (if (caret cs).1 then ['^'] else []) ++ (caret cs).2 := by
  rw [caret.eq_def]
  split <;> rfl

theorem caret_append {name : String} (h : name ∈ asciiClassNames) (negated : Bool)
    (rest : List Char) :
    caret ((if negated then ['^'] else []) ++ name.toList ++ rest) =
      (negated, name.toList ++ rest) := by
  cases negated with
  | true => rfl
  | false =>
      have hhead : ∀ name ∈ asciiClassNames,
          name.toList.head?.all (· != '^') ∧ name.toList ≠ [] := by
        decide
      obtain ⟨hcaret, hne⟩ := hhead name h
      obtain ⟨x, xs, hx⟩ := List.exists_cons_of_ne_nil hne
      rw [hx] at hcaret ⊢
      simp only [Bool.false_eq_true, if_false, List.nil_append, List.cons_append]
      rw [caret]
      rintro ds hds
      cases hds
      simp at hcaret

theorem asciiClass?_eq_some_iff {cs rest : List Char} {item : ClassForm} :
    asciiClass? cs = some (item, rest) ↔ ∃ name ∈ asciiClassNames, ∃ negated,
      item = .ascii name negated ∧ cs = asciiClassText name negated ++ rest := by
  constructor
  · intro h
    unfold asciiClass? at h
    split at h
    · rename_i cs
      simp only [List.span_eq_takeWhile_dropWhile] at h
      split at h
      · rename_i ds hdrop
        split at h
        · rename_i hname
          cases h
          refine ⟨_, by simpa using hname, (caret cs).1, rfl, ?_⟩
          have hbody : (caret cs).2 = (caret cs).2.takeWhile (· != ':') ++ ':' :: ']' :: rest := by
            rw [← hdrop, List.takeWhile_append_dropWhile]
          conv_lhs => rw [caret_eq cs, hbody]
          simp [asciiClassText]
        · cases h
      · cases h
    · cases h
  · rintro ⟨name, hname, negated, rfl, rfl⟩
    have hall : ∀ name ∈ asciiClassNames, name.toList.all (· != ':') := by decide
    have hname' := List.all_eq_true.1 (hall name hname)
    have htake : (name.toList ++ ':' :: ']' :: rest).takeWhile (· != ':') = name.toList := by
      rw [List.takeWhile_append_of_pos hname']
      simp
    have hdrop : (name.toList ++ ':' :: ']' :: rest).dropWhile (· != ':') = ':' :: ']' :: rest := by
      rw [List.dropWhile_append_of_pos hname']
      simp
    have htext : asciiClassText name negated ++ rest =
        '[' :: ':' :: ((if negated then ['^'] else []) ++ name.toList ++ ':' :: ']' :: rest) := by
      simp [asciiClassText]
    rw [htext]
    simp only [asciiClass?, caret_append hname, List.span_eq_takeWhile_dropWhile, htake, hdrop]
    simp [hname]

def setOperatorText : SetOperator → List Char
  | .inter => ['&', '&']
  | .diff => ['-', '-']
  | .symmetricDiff => ['~', '~']

theorem setOperator?_eq_some_iff {cs : List Char} {kind : SetOperator} :
    setOperator? cs = some kind ↔ setOperatorText kind <+: cs := by
  constructor
  · intro h
    unfold setOperator? at h
    split at h <;> cases h <;> exact ⟨_, rfl⟩
  · rintro ⟨rest, rfl⟩
    cases kind <;> rfl

theorem close_not_mem_setOperatorText (kind : SetOperator) : ')' ∉ setOperatorText kind := by
  cases kind <;> decide

theorem close_not_mem_asciiClassText :
    ∀ name ∈ asciiClassNames, ∀ negated, ')' ∉ asciiClassText name negated := by
  decide

theorem setOperator?_getD (hs : Beside e c o) :
    setOperator? (o.getD c).rest = setOperator? c.rest := by
  apply Option.ext
  intro kind
  rw [setOperator?_eq_some_iff, setOperator?_eq_some_iff,
    hs.isPrefix_iff (close_not_mem_setOperatorText kind)]

theorem asciiClass?_getD_eq_none (hs : Beside e c o) (h : asciiClass? c.rest = none) :
    asciiClass? (o.getD c).rest = none := by
  rw [Option.eq_none_iff_forall_ne_some] at h ⊢
  rintro ⟨item, rest⟩ hsome
  obtain ⟨name, hname, negated, rfl, hrest⟩ := asciiClass?_eq_some_iff.1 hsome
  obtain ⟨more, hmore⟩ := (hs.isPrefix_iff (close_not_mem_asciiClassText name hname negated)).1
    ⟨rest, hrest.symm⟩
  exact h _ (asciiClass?_eq_some_iff.2 ⟨name, hname, negated, rfl, hmore.symm⟩)

theorem length_lt_of_append {text rest : List Char} (htext : text ≠ []) (hd : d.rest = text ++ rest)
    (hlen : d.rest.length ≤ c.rest.length) : rest.length < c.rest.length := by
  have hpos := List.length_pos_iff.2 htext
  rw [hd, List.length_append] at hlen
  omega

theorem ne_nil_of_classBody {pending : Option (SetOperator × ClassForm)}
    {reversed : List ClassForm} {a : ClassForm}
    (h : (classBody n pending reversed).run c = some (a, d)) : c.rest ≠ [] := by
  rintro hnil
  obtain ⟨rest, verbose, names⟩ := c
  cases hnil
  cases n with
  | zero => cases h
  | succ n =>
      simp only [classBody] at h
      cases verbose <;> cases h

/-- What is read of a class with so much fuel is read in the other place with enough of it. Two
steps for each character of the text are enough. -/
structure CarriesClass (n : Nat) : Prop where
  body {e : Ends} {m : Nat} {c : Cursor} {o : Option Cursor} (hs : Beside e c o)
    (hm : 2 * c.rest.length ≤ m + 2 * e.near.length)
    (pending : Option (SetOperator × ClassForm)) (reversed : List ClassForm) :
    Carries e (Eats e c) (classBody n pending reversed) (classBody m pending reversed) c o
  bracketed {e : Ends} {m : Nat} {c : Cursor} {o : Option Cursor} (hs : Beside e c o)
    (hr : Ready c o) (hm : 2 * c.rest.length ≤ m + 1 + 2 * e.near.length) :
    Carries e (Eats e c) (bracketed n) (bracketed m) c o

namespace CarriesClass

theorem body_succ (ih : CarriesClass n) (hs : Beside e c o)
    (hm : 2 * c.rest.length ≤ m + 2 * e.near.length)
    (pending : Option (SetOperator × ClassForm)) (reversed : List ClassForm) :
    Carries e (Eats e c) (classBody (n + 1) pending reversed) (classBody m pending reversed) c
      o := by
  refine .of_ready hs (fun hnil a d ha => ne_nil_of_classBody ha hnil) fun o hs hr => ?_
  refine .of_fuel (R := fun m => classBody m pending reversed) ?_ fun k hk => ?_
  · rintro c' rfl
    have := hs.length_lt hr
    omega
  simp only [classBody]
  refine (carries_skipBlank hs).bind fun _ d o₁ hs₁ hd => ?_
  refine .of_ready hs₁ (fun hnil a y hy => ?_) fun o₂ hs₂ hr₂ => .get_bind ?_
  · obtain ⟨x, _, hx, hy⟩ := run_bind_eq_some.1 hy
    cases hx
    simp only [hnil] at hy
    cases hy
  have hnext {y : Cursor} {o₃ : Option Cursor} (hs₃ : Beside e y o₃)
      (hy : y.rest.length < d.rest.length) (pending : Option (SetOperator × ClassForm))
      (reversed : List ClassForm) :
      Carries e (Eats e c) (classBody n pending reversed) (classBody k pending reversed) y o₃ := by
    have hlt := hy.trans_le hd.length_le
    exact (ih.body hs₃ (by omega) pending reversed).imp fun z o' hz => hz.of_le hlt.le
  have hhead := hs₂.head?_getD hr₂
  split
  · exact .failure
  · rename_i xs hrest
    rw [hrest] at hhead
    obtain ⟨xs', hrest'⟩ := List.head?_eq_some_iff.1 hhead
    simp only [hrest']
    refine (carries_advance hs₂ hr₂).bind fun _ y o₃ hs₃ hy => ?_
    exact .pure hs₃ (hy.of_le hd.length_le) _
  · rename_i xs hrest
    rw [hrest] at hhead
    obtain ⟨xs', hrest'⟩ := List.head?_eq_some_iff.1 hhead
    split
    · rename_i item rest hclass
      obtain ⟨name, hname, negated, rfl, hd₁⟩ := asciiClass?_eq_some_iff.1 hclass
      have hclose := close_not_mem_asciiClassText name hname negated
      obtain ⟨rest', hd₂⟩ := (hs₂.isPrefix_iff hclose).2 ⟨rest, hd₁.symm⟩
      have hclass' := asciiClass?_eq_some_iff.2 ⟨name, hname, negated, rfl, hd₂.symm⟩
      simp only [hrest'] at hclass' ⊢
      simp only [hclass']
      refine .drop_bind hs₂ hclose hd₁ (hrest'.symm ▸ hd₂.symm) fun o₃ hs₃ => hnext hs₃ ?_ _ _
      exact length_lt_of_append (List.cons_ne_nil _ _) hd₁ le_rfl
    · rename_i hclass
      have hclass' := asciiClass?_getD_eq_none hs₂ hclass
      simp only [hrest'] at hclass' ⊢
      simp only [hclass']
      have hlen := hd.length_le
      refine (ih.bracketed hs₂ hr₂ (by omega)).bind fun item y o₃ hs₃ hy => ?_
      exact hnext hs₃ hy.shorter _ _
  · rename_i hnil hclose hopen
    obtain ⟨x, xs, hrest⟩ := List.exists_cons_of_ne_nil hnil
    rw [hrest] at hhead
    obtain ⟨xs', hrest'⟩ := List.head?_eq_some_iff.1 hhead
    -- The other text begins with the same character.
    have hother {y : Char} {ys : List Char} (hy : ∀ tail, d.rest = y :: tail → False)
        (h : (o₂.getD d).rest = y :: ys) : False := by
      rw [hrest'] at h
      cases h
      exact hy xs hrest
    have hnil' (h : (o₂.getD d).rest = []) : False :=
      List.cons_ne_nil x xs' (hrest'.symm.trans h)
    have hkinds := setOperator?_getD hs₂
    split
    · rename_i kind hkind
      split
      · exact (hnil' ‹_›).elim
      · exact (hother hclose ‹_›).elim
      · exact (hother hopen ‹_›).elim
      · rw [hkinds, hkind]
        obtain ⟨rest, hd₁⟩ := setOperator?_eq_some_iff.1 hkind
        obtain ⟨rest', hd₂⟩ := setOperator?_eq_some_iff.1 (hkinds.trans hkind)
        have hlen : (setOperatorText kind).length = 2 := by cases kind <;> rfl
        rw [← hd₁, ← hd₂, ← hlen, List.drop_left, List.drop_left]
        refine .drop_bind hs₂ (close_not_mem_setOperatorText kind) hd₁.symm hd₂.symm
          fun o₃ hs₃ => hnext hs₃ ?_ _ _
        exact length_lt_of_append (List.ne_nil_of_length_eq_add_one hlen) hd₁.symm le_rfl
    · rename_i hkind
      split
      · exact (hnil' ‹_›).elim
      · exact (hother hclose ‹_›).elim
      · exact (hother hopen ‹_›).elim
      · rw [hkinds, hkind]
        exact (carries_classRange hs₂).bind fun item y o₃ hs₃ hy => hnext hs₃ hy _ _

theorem bracketed_succ (ih : CarriesClass n) (hs : Beside e c o) (hr : Ready c o)
    (hm : 2 * c.rest.length ≤ m + 1 + 2 * e.near.length) :
    Carries e (Eats e c) (Read.bracketed (n + 1)) (Read.bracketed m) c o := by
  refine .of_fuel ?_ fun k hk => ?_
  · rintro c' rfl
    have := hs.length_lt hr
    omega
  · simp only [Read.bracketed]
    refine (carries_classOpen hs hr).bind fun p d o₁ hs₁ hd => ?_
    refine (ih.body hs₁ (by omega) none _).bind fun body y o₂ hs₂ hy => ?_
    exact .pure hs₂ (hy.of_le hd.le) _

end CarriesClass

theorem carriesClass (n : Nat) : CarriesClass n := by
  induction n with
  | zero => exact ⟨fun _ _ _ _ => .failure, fun _ _ _ => .failure⟩
  | succ n ih => exact ⟨ih.body_succ, ih.bracketed_succ⟩

end WideRow.Pattern.Read
