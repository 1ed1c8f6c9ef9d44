import Mathlib.Algebra.FreeMonoid.Basic
import Mathlib.Algebra.Group.Prod
import WideRow.Proofs.Additions
import WideRow.Proofs.Failures
import WideRow.Sink.Lines

namespace WideRow

open WideRow.Action (Adds adds_pure)

/-- Every call is taken, and adds to what is seen of the sink; closing it adds nothing. -/
structure Sink.Collects {σ M : Type} [AddMonoid M] (sink : Sink σ) (inUse closed : σ → Prop)
    (seen : σ → M) : Prop where
  write : ∀ r, ∃ j m, Adds inUse seen (sink.write r) (.ok (j, m))
  delete : ∀ rows, ∃ n m, Adds inUse seen (sink.delete rows) (.ok (n, m))
  flush : ∃ m, Adds inUse seen sink.flush (.ok ((), m))
  close : ∀ t, inUse t → ∃ t', sink.close t = .ok () t' ∧ closed t' ∧ seen t' = seen t

theorem Sink.Collects.neverFails {σ M : Type} [AddMonoid M] {sink : Sink σ}
    {inUse closed : σ → Prop} {seen : σ → M} (h : sink.Collects inUse closed seen) :
    sink.NeverFails inUse where
  write r t ht := by
    obtain ⟨j, m, hwrite⟩ := h.write r
    obtain ⟨t', hrun, ht', _⟩ := hwrite t ht
    exact ⟨j, t', hrun, ht'⟩
  delete rows t ht := by
    obtain ⟨n, m, hdelete⟩ := h.delete rows
    obtain ⟨t', hrun, ht', _⟩ := hdelete t ht
    exact ⟨n, t', hrun, ht'⟩
  flush t ht := by
    obtain ⟨m, hflush⟩ := h.flush
    obtain ⟨t', hrun, ht', _⟩ := hflush t ht
    exact ⟨t', hrun, ht'⟩
  close t ht := by
    obtain ⟨t', hclose, _⟩ := h.close t ht
    exact ⟨t', hclose⟩

namespace KeepingSink

def kept (t : KeepingSink) : FreeAddMonoid Record × FreeAddMonoid DeleteOrder :=
  (.ofList t.records, .ofList t.deletes)

theorem closed_empty : ({} : KeepingSink).closed = false := rfl

theorem kept_empty : kept {} = 0 := rfl

theorem adds_whenOpen {α : Type} {answer : α} {change : KeepingSink → KeepingSink}
    {m : FreeAddMonoid Record × FreeAddMonoid DeleteOrder}
    (hopen : ∀ t, t.closed = false → (change t).closed = false)
    (hkept : ∀ t, (change t).kept = t.kept + m) :
    Adds (·.closed = false) kept (whenOpen answer change) (.ok (answer, m)) := fun t ht =>
  ⟨change t, whenOpen_eq_ok ht, hopen t ht, hkept t⟩

theorem adds_write (r : Record) :
    Adds (·.closed = false) kept (sink.write r) (.ok (r.json, (.ofList [r], 0))) :=
  adds_whenOpen (fun _ ht => ht) fun t => by simp [kept, FreeAddMonoid.ofList_append]

theorem adds_delete (rows : List DeleteOrder) :
    Adds (·.closed = false) kept (sink.delete rows) (.ok (.ofRows rows, (0, .ofList rows))) :=
  adds_whenOpen (fun _ ht => ht) fun t => by simp [kept, FreeAddMonoid.ofList_append]

theorem adds_flush : Adds (·.closed = false) kept sink.flush (.ok ((), 0)) :=
  adds_whenOpen (fun _ ht => ht) fun t => (add_zero t.kept).symm

theorem collects : sink.Collects (·.closed = false) (fun _ => True) kept where
  write r := ⟨_, _, adds_write r⟩
  delete rows := ⟨_, _, adds_delete rows⟩
  flush := ⟨_, adds_flush⟩
  close _ ht := ⟨_, whenOpen_eq_ok ht, trivial, rfl⟩

end KeepingSink

namespace LineSink

namespace Output

variable {out : Output}

def seen (out : Output) : FreeAddMonoid UInt8 := .ofList (out.device.written ++ out.held)

def Works (out : Output) : Prop := out.device.broken = false

theorem pass_eq_some (h : out.Works) :
    ∃ out', out.pass = some out' ∧ out'.Works ∧ out'.held = [] ∧
      out'.device.written = out.seen.toList := by
  rw [pass]
  by_cases hheld : out.held = []
  · exact ⟨out, by simp [hheld], h, hheld, by simp [seen, hheld]⟩
  · refine ⟨⟨{ out.device with written := out.device.written ++ out.held }, []⟩, ?_, h, rfl, rfl⟩
    have hw : out.device.broken = false := h
    simp [hheld, hw]

theorem hold_eq_some (h : out.Works) (piece : Bytes)
    (hroom : out.held = [] ∨ piece.length < blockSize) :
    ∃ out', out.hold piece = some out' ∧ out'.Works ∧ out'.seen = out.seen + .ofList piece := by
  rw [hold]
  by_cases hsmall : piece.length < blockSize
  · refine ⟨{ out with held := out.held ++ piece }, if_pos hsmall, h, ?_⟩
    simp [seen, ← FreeAddMonoid.ofList_append]
  · have hw : out.device.broken = false := h
    refine ⟨{ out with device := { out.device with written := out.device.written ++ piece } },
      by simp [hsmall, hw], h, ?_⟩
    simp [seen, hroom.resolve_right hsmall, ← FreeAddMonoid.ofList_append]

theorem put_eq (h : out.Works) (piece : Bytes) :
    ∃ out', out.put piece = (true, out') ∧ out'.Works ∧ out'.seen = out.seen + .ofList piece := by
  rw [put]
  by_cases hroom : out.held.length + piece.length ≤ blockSize
  · have hfits : out.held = [] ∨ piece.length < blockSize := by
      by_cases hheld : out.held = []
      · exact .inl hheld
      · have := List.length_pos_iff.2 hheld
        exact .inr (by omega)
    obtain ⟨out', hhold, hworks, hseen⟩ := hold_eq_some h piece hfits
    exact ⟨out', by rw [if_pos hroom, hhold], hworks, hseen⟩
  · obtain ⟨out₁, hpass, hworks₁, hheld, hwritten⟩ := pass_eq_some h
    obtain ⟨out', hhold, hworks, hseen⟩ := hold_eq_some hworks₁ piece (.inl hheld)
    refine ⟨out', by rw [if_neg hroom, hpass]; simp [hhold], hworks, ?_⟩
    rw [hseen, seen, hheld, List.append_nil, hwritten]
    rfl

theorem putAll_eq (h : out.Works) (pieces : List Bytes) :
    ∃ out', out.putAll pieces = (true, out') ∧ out'.Works ∧
      out'.seen = out.seen + .ofList pieces.flatten := by
  induction pieces generalizing out with
  | nil => exact ⟨out, rfl, h, (add_zero out.seen).symm⟩
  | cons piece pieces ih =>
      obtain ⟨out₁, hput, hworks₁, hseen₁⟩ := put_eq h piece
      obtain ⟨out', hall, hworks, hseen⟩ := ih hworks₁
      refine ⟨out', by rw [putAll, hput]; exact hall, hworks, ?_⟩
      rw [hseen, hseen₁, List.flatten_cons, FreeAddMonoid.ofList_append, add_assoc]

end Output

def Works : State → Prop
  | .isOpen out => out.Works
  | _ => False

def IsClosed : State → Prop
  | .closed _ => True
  | _ => False

/-- All text so far, whether it is on the device or held back. -/
def seen : State → FreeAddMonoid UInt8
  | .isOpen out => out.seen
  | .closed text => .ofList text
  | .lost => 0

theorem works_start : Works start := rfl

theorem seen_start : seen start = 0 := rfl

theorem text_of_isClosed {t : State} (h : IsClosed t) : text t = .ok (seen t).toList := by
  cases t with
  | closed text => rfl
  | isOpen out => cases h
  | lost => cases h

theorem adds_onOutput {e : Error} {step : Output → Bool × Output} {m : FreeAddMonoid UInt8}
    (h : ∀ out, out.Works → ∃ out', step out = (true, out') ∧ out'.Works ∧
      out'.seen = out.seen + m) : Adds Works seen (onOutput e step) (.ok ((), m)) := by
  intro t ht
  cases t with
  | isOpen out =>
      obtain ⟨out', hstep, hworks, hseen⟩ := h out ht
      exact ⟨.isOpen out', by simp only [onOutput, hstep], hworks, hseen⟩
  | closed text => cases ht
  | lost => cases ht

def line (j : Json) : FreeAddMonoid UInt8 :=
  .ofList (j.pieces.map encode).flatten + .ofList (encode ['\n'])

theorem adds_putLine (j : Json) : Adds Works seen (putLine j) (.ok ((), line j)) :=
  Adds.bind (adds_onOutput fun _ h => Output.putAll_eq h _)
    (adds_onOutput fun _ h => Output.put_eq h _)

theorem adds_deleteLines (rows : List DeleteOrder) :
    Adds Works seen (deleteLines rows) (.ok ((), (rows.map fun row => line row.json).sum)) := by
  induction rows with
  | nil => exact adds_pure ()
  | cons row rows ih => exact Adds.bind (adds_putLine row.json) ih

theorem adds_write (r : Record) :
    Adds Works seen (sink.write r) (.ok (r.json, line r.json)) := by
  have hwrite := Adds.bind (f := fun _ => pure r.json) (adds_putLine r.json) (adds_pure r.json)
  rwa [add_zero] at hwrite

theorem adds_delete (rows : List DeleteOrder) :
    Adds Works seen (sink.delete rows)
      (.ok (.ofRows rows, (rows.map fun row => line row.json).sum)) := by
  have hdelete := Adds.bind (f := fun _ => pure (DeleteCounts.ofRows rows)) (adds_deleteLines rows)
    (adds_pure (DeleteCounts.ofRows rows))
  rwa [add_zero] at hdelete

theorem adds_flush : Adds Works seen sink.flush (.ok ((), 0)) :=
  adds_onOutput fun out h => by
    obtain ⟨out', hpass, hworks, hheld, hwritten⟩ := Output.pass_eq_some h
    refine ⟨out', by simp only [passOn, hpass], hworks, ?_⟩
    rw [Output.seen, hheld, List.append_nil, hwritten, add_zero]
    rfl

theorem collects : sink.Collects Works IsClosed seen where
  write r := ⟨_, _, adds_write r⟩
  delete rows := ⟨_, _, adds_delete rows⟩
  flush := ⟨_, adds_flush⟩
  close t ht := by
    cases t with
    | isOpen out =>
        obtain ⟨out', hpass, _, _, hwritten⟩ := Output.pass_eq_some ht
        exact ⟨.closed out'.device.written, by simp only [sink, close, hpass], trivial,
          congrArg FreeAddMonoid.ofList hwritten⟩
    | closed text => cases ht
    | lost => cases ht

end LineSink

end WideRow
