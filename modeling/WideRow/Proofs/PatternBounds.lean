import WideRow.Pattern.Meaning
import WideRow.Proofs.PatternPlaces

namespace WideRow.Pattern

def Bounds.Met (b : Bounds) : Prop := b.most.all (b.least ≤ ·)

inductive Form.Bounded : Form → Prop
  | empty : Bounded .empty
  | flags (change : FlagChange) : Bounded (.flags change)
  | letter (l : Literal) : Bounded (.letter l)
  | dot : Bounded .dot
  | caret : Bounded .caret
  | dollar : Bounded .dollar
  | anchor (kind : Anchor) : Bounded (.anchor kind)
  | set (c : ClassForm) : Bounded (.set c)
  | group {f : Form} (captures : Bool) (change : FlagChange) (h : Bounded f) :
    Bounded (.group captures change f)
  | repeated {f : Form} {bounds : Bounds} (lazy : Bool) (h : Bounded f) (hb : bounds.Met) :
    Bounded (.repeated f bounds lazy)
  | concat {fs : List Form} (h : ∀ f ∈ fs, Bounded f) : Bounded (.concat fs)
  | alternation {fs : List Form} (h : ∀ f ∈ fs, Bounded f) : Bounded (.alternation fs)

namespace Read

variable {α β : Type} {P : α → Prop} {Q : β → Prop} {r : Read α} {f : α → Read β}

/-- All that a reader reads is such. -/
def Yields (P : α → Prop) (r : Read α) : Prop := ∀ c a d, r.run c = some (a, d) → P a

theorem run_bind_eq_some {c d : Cursor} {b : β} :
    (r >>= f).run c = some (b, d) ↔ ∃ a e, r.run c = some (a, e) ∧ (f a).run e = some (b, d) := by
  rw [StateT.run_bind]
  simp [Option.bind_eq_some_iff]

namespace Yields

protected theorem pure {a : α} (h : P a) : Yields P (pure a : Read α) := by
  intro c b d hb
  cases hb
  exact h

protected theorem failure : Yields P (failure : Read α) := by
  intro c a d h
  cases h

protected theorem bind (h : Yields P r) (hf : ∀ a, P a → Yields Q (f a)) :
    Yields Q (r >>= f) := by
  intro c b d hb
  obtain ⟨a, e, ha, hb⟩ := run_bind_eq_some.1 hb
  exact hf a (h c a e ha) e b d hb

protected theorem imp {P' : α → Prop} (h : Yields P r) (hp : ∀ a, P a → P' a) : Yields P' r :=
  fun c a d ha => hp a (h c a d ha)

theorem any_bind (h : ∀ a, Yields Q (f a)) : Yields Q (r >>= f) := by
  intro c b d hb
  obtain ⟨a, e, -, hb⟩ := run_bind_eq_some.1 hb
  exact h a e b d hb

theorem guarded {p : Prop} [Decidable p] {f : Unit → Read β} (h : Yields Q (f ())) :
    Yields Q (if p then failure >>= f else f ()) := by
  split
  · exact any_bind fun _ => h
  · exact h

end Yields

theorem yields_escape : Yields Form.Bounded escape := by
  unfold escape
  refine .any_bind fun _ => ?_
  refine .any_bind fun c => ?_
  split
  · exact .any_bind fun l => .pure (.letter l)
  split
  · exact .any_bind fun s => .pure (.set s)
  refine .any_bind fun _ => ?_
  split
  · exact .pure (.set _)
  split
  · exact .pure (.letter _)
  split
  · exact .any_bind fun a => .pure (.anchor a)
  split
  · exact .pure (.letter _)
  split
  · exact .pure (.anchor _)
  · exact .failure

theorem yields_primitive : Yields Form.Bounded primitive := by
  unfold primitive
  refine .any_bind fun c => ?_
  split
  · exact yields_escape
  · refine .any_bind fun _ => ?_
    split
    · exact .pure .dot
    · exact .pure .caret
    · exact .pure .dollar
    · exact .pure (.letter _)

theorem yields_bounds : Yields Bounds.Met bounds := by
  have hend (least : Nat) (most : Option Nat) : Yields Bounds.Met (do
      if (← peek) != '}' then failure
      step
      if most.all (least ≤ ·) then return ⟨least, most⟩ else failure) := by
    refine .any_bind fun c => ?_
    refine .guarded ?_
    refine .any_bind fun _ => ?_
    split
    · rename_i h
      exact .pure h
    · exact .failure
  unfold bounds
  refine .any_bind fun _ => ?_
  refine .any_bind fun least => ?_
  refine .any_bind fun c => ?_
  split
  · refine .any_bind fun _ => ?_
    refine .any_bind fun d => ?_
    split
    · exact hend least none
    · refine .any_bind fun most => ?_
      exact hend least (some most)
  · exact hend least (some least)

theorem yields_repeatable (fs : List Form) :
    Yields (fun p => fs = p.1 :: p.2) (repeatable fs) := by
  cases fs with
  | nil => exact .failure
  | cons f before =>
      simp only [repeatable]
      split
      · exact .failure
      · exact .pure rfl

theorem bounded_ofSequence {fs : List Form} (h : ∀ f ∈ fs, f.Bounded) :
    (Form.ofSequence fs).Bounded := by
  unfold Form.ofSequence
  split
  · exact .empty
  · exact h _ List.mem_cons_self
  · exact .concat h

theorem bounded_ofAlternatives {fs : List Form} (h : ∀ f ∈ fs, f.Bounded) :
    (Form.ofAlternatives fs).Bounded := by
  unfold Form.ofAlternatives
  split
  · exact h _ List.mem_cons_self
  · exact .alternation h

theorem met_of_simpleBounds? {c : Char} {b : Bounds} (h : simpleBounds? c = some b) : b.Met := by
  unfold simpleBounds? at h
  split at h <;> cases h <;> rfl

theorem yields_forms (n : Nat) :
    (∀ reversed, (∀ f ∈ reversed, f.Bounded) → Yields Form.Bounded (sequence n reversed)) ∧
      (∀ reversed, (∀ f ∈ reversed, f.Bounded) → Yields Form.Bounded (alternatives n reversed)) ∧
        Yields Form.Bounded (group n) := by
  induction n with
  | zero => exact ⟨fun _ _ => .failure, fun _ _ => .failure, .failure⟩
  | succ n ih =>
      obtain ⟨hsequence, halternatives, hgroup⟩ := ih
      refine ⟨fun reversed h => ?_, fun reversed h => ?_, ?_⟩
      · simp only [sequence]
        refine .any_bind fun _ => ?_
        refine .any_bind fun c => ?_
        have hdone : (Form.ofSequence reversed.reverse).Bounded :=
          bounded_ofSequence fun f hf => h f (List.mem_reverse.1 hf)
        have hnext (f : Form) (hf : f.Bounded) : Yields Form.Bounded (sequence n (f :: reversed)) :=
          hsequence _ (List.forall_mem_cons.2 ⟨hf, h⟩)
        have hrepeated (f : Form) (before : List Form) (hrev : reversed = f :: before) (b : Bounds)
            (hb : b.Met) (lazy : Bool) :
            Yields Form.Bounded (sequence n (.repeated f b lazy :: before)) := by
          obtain ⟨hf, hbefore⟩ := List.forall_mem_cons.1 (hrev ▸ h)
          exact hsequence _ (List.forall_mem_cons.2 ⟨.repeated lazy hf hb, hbefore⟩)
        cases c with
        | none => exact .pure hdone
        | some c =>
            dsimp only
            split
            · exact .pure hdone
            split
            · exact hgroup.bind hnext
            split
            · refine .any_bind fun fuel => ?_
              refine .any_bind fun s => ?_
              exact hnext _ (.set s)
            split
            · refine Yields.bind (yields_repeatable reversed) fun p hp => ?_
              refine Yields.bind yields_bounds fun b hb => ?_
              refine .any_bind fun lazy => ?_
              exact hrepeated p.1 p.2 hp b hb lazy
            split
            · rename_i b hb
              refine Yields.bind (yields_repeatable reversed) fun p hp => ?_
              refine .any_bind fun _ => ?_
              refine .any_bind fun lazy => ?_
              exact hrepeated p.1 p.2 hp b (met_of_simpleBounds? hb) lazy
            · exact yields_primitive.bind hnext
      · simp only [alternatives]
        refine Yields.bind (hsequence [] (by simp)) fun f hf => ?_
        have hforms : ∀ g ∈ f :: reversed, g.Bounded := List.forall_mem_cons.2 ⟨hf, h⟩
        refine .any_bind fun c => ?_
        split
        · refine .any_bind fun _ => ?_
          exact halternatives _ hforms
        · exact .pure (bounded_ofAlternatives fun g hg => hforms g (List.mem_reverse.1 hg))
      · simp only [group]
        refine .any_bind fun _ => ?_
        refine .any_bind fun opening => ?_
        refine .any_bind fun _ => ?_
        split
        · exact .pure (.flags _)
        · refine Yields.bind (halternatives [] (by simp)) fun f hf => ?_
          refine .any_bind fun c => ?_
          refine .guarded ?_
          refine .any_bind fun _ => ?_
          refine .any_bind fun _ => ?_
          exact .pure (.group _ _ hf)

end Read

theorem Form.bounded_of_read? {s : String} {f : Form} (h : Form.read? s = some f) : f.Bounded := by
  unfold Form.read? at h
  dsimp only at h
  split at h
  · rename_i g c hrun
    obtain ⟨-, h⟩ := Option.ite_none_right_eq_some.1 h
    cases h
    exact (Read.yields_forms _).2.1 [] (by simp) _ _ _ hrun
  · cases h

namespace Reading

variable {r : Reading} {rs : List Reading}

theorem met_boundsFor {b : Bounds} (h : b.Met) (s : Shape) : (s.boundsFor b).Met := by
  unfold Shape.boundsFor
  split
  · cases b with
    | mk least most =>
        cases most <;> simp [Bounds.Met] at h ⊢
        omega
  · exact h

theorem bounded_seq (h : ∀ r ∈ rs, r.pattern.Bounded) (flags : Flags) :
    (Reading.seq flags rs).pattern.Bounded := by
  induction rs with
  | nil => exact trivial
  | cons r rs ih =>
      obtain ⟨hr, hrs⟩ := List.forall_mem_cons.1 h
      exact ⟨hr, ih hrs⟩

theorem bounded_either (h : ∀ r ∈ rs, r.pattern.Bounded) : (either rs).Bounded := by
  induction rs with
  | nil => exact trivial
  | cons r rs ih =>
      obtain ⟨hr, hrs⟩ := List.forall_mem_cons.1 h
      cases rs with
      | nil => exact hr
      | cons => exact ⟨hr, ih hrs⟩

theorem bounded_ofLetter (flags : Flags) (n : Nat) : (ofLetter flags n).pattern.Bounded := by
  unfold ofLetter
  split <;> exact trivial

end Reading

theorem bounded_of_meanings {fs : List Form}
    (h : ∀ f ∈ fs, ∀ flags r, f.meaning flags = some r → r.pattern.Bounded) {flags : Flags}
    {rs : List Reading} (hrs : Form.meanings flags fs = some rs) : ∀ r ∈ rs, r.pattern.Bounded := by
  induction fs generalizing flags rs with
  | nil =>
      cases hrs
      simp
  | cons f fs ih =>
      obtain ⟨hf, hfs⟩ := List.forall_mem_cons.1 h
      obtain ⟨r, hr, hrs⟩ := Option.bind_eq_some_iff.1 hrs
      obtain ⟨rs, hmore, hrs⟩ := Option.bind_eq_some_iff.1 hrs
      cases hrs
      exact List.forall_mem_cons.2 ⟨hf flags r hr, ih hfs hmore⟩

/-- What a form means asks for no more than the form does. -/
theorem Form.Bounded.meaning {f : Form} (hf : f.Bounded) {flags : Flags} {r : Reading}
    (h : f.meaning flags = some r) : r.pattern.Bounded := by
  induction hf generalizing flags r with
  | empty | flags | caret | dollar | anchor =>
      cases h
      exact trivial
  | letter l =>
      obtain ⟨-, h⟩ := Option.ite_none_left_eq_some.1 h
      cases h
      exact Reading.bounded_ofLetter flags l.code
  | dot =>
      obtain ⟨-, h⟩ := Option.ite_none_right_eq_some.1 h
      cases h
      exact trivial
  | set c =>
      obtain ⟨s, -, rfl⟩ := Option.map_eq_some_iff.1 h
      exact trivial
  | group captures change _ ih =>
      obtain ⟨q, hq, h⟩ := Option.bind_eq_some_iff.1 h
      have hbounded := ih hq
      cases h
      exact hbounded
  | repeated lazy _ hb ih =>
      obtain ⟨q, hq, h⟩ := Option.bind_eq_some_iff.1 h
      cases h
      exact ⟨ih hq, Reading.met_boundsFor hb q.shape⟩
  | concat _ ih =>
      obtain ⟨rs, hrs, h⟩ := Option.bind_eq_some_iff.1 h
      cases h
      exact Reading.bounded_seq (bounded_of_meanings (fun f hf _ _ => ih f hf) hrs) _
  | alternation _ ih =>
      obtain ⟨rs, hrs, h⟩ := Option.bind_eq_some_iff.1 h
      cases h
      exact Reading.bounded_either (bounded_of_meanings (fun f hf _ _ => ih f hf) hrs)

theorem bounded_of_read? {s : String} {p : Pattern} (h : read? s = some p) : p.Bounded := by
  obtain ⟨f, hf, h⟩ := Option.bind_eq_some_iff.1 h
  obtain ⟨r, hr, h⟩ := Option.bind_eq_some_iff.1 h
  obtain ⟨-, h⟩ := Option.ite_none_right_eq_some.1 h
  cases h
  exact (Form.bounded_of_read? hf).meaning hr

end WideRow.Pattern
