import WideRow.Proofs.Cuts
import WideRow.Proofs.Entries
import WideRow.Proofs.OpenSinks
import WideRow.Proofs.PrintedJson
import WideRow.Proofs.WrittenText

namespace WideRow

open WideRow.Action (Adds)

namespace Sink

variable {σ : Type} {sink : Sink σ} {calls : List Call}

def answers (sink : Sink σ) : List Call → σ → List (Option Error) × σ
  | [], t => ([], t)
  | call :: calls, t =>
    match sink.make call t with
    | .ok () t' => (none :: (answers sink calls t').1, (answers sink calls t').2)
    | .error e t' => (some e :: (answers sink calls t').1, (answers sink calls t').2)

def upToClose : List Call → List Call
  | [] => []
  | .close :: _ => [.close]
  | call :: calls => call :: upToClose calls

def behindClose : List Call → List Call
  | [] => []
  | .close :: calls => calls
  | _ :: calls => behindClose calls

theorem upToClose_append_behindClose (calls : List Call) :
    upToClose calls ++ behindClose calls = calls := by
  induction calls with
  | nil => rfl
  | cons call calls ih => cases call <;> simp [upToClose, behindClose, ih]

theorem upToClose_cons {call : Call} (h : call ≠ .close) (calls : List Call) :
    upToClose (call :: calls) = call :: upToClose calls ∧
      behindClose (call :: calls) = behindClose calls := by
  cases call <;> first | exact ⟨rfl, rfl⟩ | exact absurd rfl h

/-- Every call up to the first close is taken; later ones are refused as `refusal` says, and change
nothing. -/
structure ClosesOnce (sink : Sink σ) (refusal : Call → Option Error) (calls : List Call) (t : σ) :
    Prop where
  answers : (sink.answers calls t).1 =
    (upToClose calls).map (fun _ => none) ++ (behindClose calls).map refusal
  unchanged : (sink.answers calls t).2 = (sink.answers (upToClose calls) t).2

/-- An open sink takes every call and shows what the call is worth, and a closed one answers each as
`refusal` says and stays as it is. -/
structure Takes {M : Type} [AddMonoid M] (sink : Sink σ) (inUse closed : σ → Prop) (seen : σ → M)
    (worth : Call → M) (refusal : Call → Option Error) : Prop where
  call : ∀ call, call ≠ .close → Adds inUse seen (sink.make call) (.ok ((), worth call))
  close : ∀ t, inUse t → ∃ t', sink.close t = .ok () t' ∧ closed t' ∧ seen t' = seen t
  worth_close : worth .close = 0
  late : ∀ call t, closed t → sink.make call t =
    match refusal call with
    | none => .ok () t
    | some e => .error e t

section Run

variable {M : Type} [AddMonoid M] {inUse closed : σ → Prop} {seen : σ → M} {worth : Call → M}
  {refusal : Call → Option Error}

theorem Takes.answers_late (h : sink.Takes inUse closed seen worth refusal) {t : σ} (ht : closed t)
    (calls : List Call) : sink.answers calls t = (calls.map refusal, t) := by
  induction calls with
  | nil => rfl
  | cons call calls ih =>
      rw [answers, h.late call t ht, List.map_cons]
      cases refusal call <;> simp only [ih]

theorem answers_cons {call : Call} {t t' : σ} (h : sink.make call t = .ok () t')
    (calls : List Call) :
    sink.answers (call :: calls) t =
      (none :: (sink.answers calls t').1, (sink.answers calls t').2) := by
  rw [answers, h]

theorem Takes.closesOnce (h : sink.Takes inUse closed seen worth refusal) {t : σ} (ht : inUse t)
    (calls : List Call) :
    sink.ClosesOnce refusal calls t ∧
      (inUse (sink.answers calls t).2 ∨ closed (sink.answers calls t).2) ∧
      seen (sink.answers calls t).2 = seen t + ((upToClose calls).map worth).sum := by
  induction calls generalizing t with
  | nil => exact ⟨⟨rfl, rfl⟩, .inl ht, (add_zero _).symm⟩
  | cons call calls ih =>
      by_cases hcall : call = .close
      · -- the calls that are left are late ones, and the induction is not needed for them
        subst hcall
        obtain ⟨t', hclose, hclosed, hseen⟩ := h.close t ht
        have hmake : sink.make .close t = .ok () t' := hclose
        have hlate := h.answers_late hclosed calls
        refine ⟨⟨?_, ?_⟩, .inr ?_, ?_⟩
        · rw [answers_cons hmake, hlate]
          rfl
        · rw [upToClose, answers_cons hmake, answers_cons hmake, hlate]
          rfl
        · rwa [answers_cons hmake, hlate]
        · rw [answers_cons hmake, hlate, hseen, upToClose, List.map_singleton, h.worth_close]
          simp
      · obtain ⟨t', hmake, ht', hseen⟩ := h.call call hcall t ht
        obtain ⟨hup, hbehind⟩ := upToClose_cons hcall calls
        obtain ⟨honce, hstate, hrest⟩ := ih ht'
        refine ⟨⟨?_, ?_⟩, ?_, ?_⟩
        · rw [answers_cons hmake, hup, hbehind, honce.answers]
          rfl
        · rw [hup, answers_cons hmake, answers_cons hmake, honce.unchanged]
        · rwa [answers_cons hmake]
        · rw [answers_cons hmake, hrest, hseen, hup, List.map_cons, List.sum_cons, add_assoc]

end Run

theorem adds_unanswered {α M : Type} [AddMonoid M] {inUse : σ → Prop} {seen : σ → M}
    {a : Action σ α} {x : α} {m : M} (h : Adds inUse seen a (.ok (x, m))) :
    Adds inUse seen (do let _ ← a) (.ok ((), m)) := by
  have hbind := Adds.bind (f := fun _ => pure ()) h (Action.adds_pure ())
  rwa [add_zero] at hbind

def Call.values : Call → List Json
  | .write r => [r.json]
  | .delete rows => rows.map (·.json)
  | _ => []

end Sink

namespace KeepingSink

theorem whenOpen_of_closed {α : Type} {answer : α} {change : KeepingSink → KeepingSink}
    {t : KeepingSink} (h : t.closed = true) :
    whenOpen answer change t = .error Sink.afterClose t := by
  obtain ⟨records, deletes, flushes, closed⟩ := t
  cases h
  rfl

def worth : Sink.Call → FreeAddMonoid Record × FreeAddMonoid DeleteOrder
  | .write r => (.ofList [r], 0)
  | .delete rows => (0, .ofList rows)
  | _ => 0

theorem takes : sink.Takes (·.closed = false) (·.closed = true) kept worth
    fun _ => some Sink.afterClose where
  call call hcall := by
    cases call with
    | write r => exact Sink.adds_unanswered (adds_write r)
    | delete rows => exact Sink.adds_unanswered (adds_delete rows)
    | flush => exact adds_flush
    | close => exact absurd rfl hcall
  close t ht := ⟨_, whenOpen_eq_ok ht, rfl, rfl⟩
  worth_close := rfl
  late call t ht := by
    cases call with
    | write r => simp only [Sink.make, sink, Bind.bind, EStateM.bind, whenOpen_of_closed ht]
    | delete rows => simp only [Sink.make, sink, Bind.bind, EStateM.bind, whenOpen_of_closed ht]
    | flush => exact whenOpen_of_closed ht
    | close => exact whenOpen_of_closed ht

theorem sum_worth (calls : List Sink.Call) :
    (calls.map worth).sum = (.ofList (Sink.written calls), .ofList (Sink.deleted calls)) := by
  induction calls with
  | nil => rfl
  | cons call calls ih =>
      rw [List.map_cons, List.sum_cons, ih]
      cases call <;> rfl

end KeepingSink

namespace LineSink

variable {js : List Json} {j : Json}

def linesOf (js : List Json) : Bytes := js.flatMap fun j => Text.Utf8.encode j.print ++ [0x0A]

/-- Lines that hold these values: cut at every line end they are the texts of the values and nothing
behind the last, and each text is read as its value. -/
structure HoldsLines (js : List Json) (bytes : Bytes) : Prop where
  bytes_eq : bytes = linesOf js
  pieces_eq : Text.pieces [0x0A] 0 bytes = (js.map fun j => Text.Utf8.encode j.print) ++ [[]]
  not_mem : ∀ j ∈ js, 0x0A ∉ Text.Utf8.encode j.print
  read : ∀ j ∈ js, j.depth ≤ Json.nestingLimit ∧
    (Text.Utf8.decode? (Text.Utf8.encode j.print)).bind Json.read? = some j

theorem not_mem_encode (h : j.Exact) : (0x0A : UInt8) ∉ Text.Utf8.encode j.print := by
  intro hmem
  rw [Text.Utf8.encode, Json.print, String.toList_ofList] at hmem
  obtain ⟨c, hc, hbyte⟩ := List.mem_flatMap.1 hmem
  have hcontrol := Text.Utf8.toNat_of_mem_encodeChar (by decide) hbyte
  have hprintable := h.printable c hc
  rw [hcontrol] at hprintable
  exact absurd hprintable (by decide)

theorem pieces_linesOf (h : ∀ j ∈ js, (0x0A : UInt8) ∉ Text.Utf8.encode j.print) :
    Text.pieces [0x0A] 0 (linesOf js) = (js.map fun j => Text.Utf8.encode j.print) ++ [[]] := by
  induction js with
  | nil => rfl
  | cons j js ih =>
      have hclear : Text.Clear [0x0A] (Text.Utf8.encode j.print) := by
        intro hin
        have hmem := hin.subset List.mem_cons_self
        exact h j List.mem_cons_self (by simpa using hmem)
      have hrest := ih fun k hk => h k (List.mem_cons_of_mem j hk)
      rw [linesOf, List.flatMap_cons, ← linesOf, Text.pieces_of_clear (by simp) hclear, hrest]
      rfl

theorem holdsLines (h : ∀ j ∈ js, j.Exact ∧ j.depth ≤ Json.nestingLimit) :
    HoldsLines js (linesOf js) where
  bytes_eq := rfl
  pieces_eq := pieces_linesOf fun j hj => not_mem_encode (h j hj).1
  not_mem j hj := not_mem_encode (h j hj).1
  read j hj := ⟨(h j hj).2, by
    rw [Text.Utf8.decode?_encode, Option.bind_some, (h j hj).1.read?_print]⟩

theorem line_eq (j : Json) : line j = .ofList (linesOf [j]) := by
  have hpieces : (j.pieces.map encode).flatten = Text.Utf8.encode j.print := by
    rw [Text.Utf8.encode, Json.print, String.toList_ofList, List.flatMap_def, List.map_flatten,
      List.flatten_flatten, List.map_map]
    rfl
  have hline : linesOf [j] = Text.Utf8.encode j.print ++ encode ['\n'] := by
    rw [linesOf, List.flatMap_singleton]
    rfl
  rw [line, hpieces, hline, FreeAddMonoid.ofList_append]

theorem sum_line (js : List Json) : (js.map line).sum = .ofList (linesOf js) := by
  induction js with
  | nil => rfl
  | cons j js ih =>
      rw [List.map_cons, List.sum_cons, ih, line_eq, ← FreeAddMonoid.ofList_append]
      simp [linesOf]

def worth (call : Sink.Call) : FreeAddMonoid UInt8 := (call.values.map line).sum

/-- A closed sink lets pass a delete of no rows, which has no line to write. -/
def refusal : Sink.Call → Option Error
  | .delete [] => none
  | _ => some Sink.afterClose

theorem refuses_of_isClosed {t : State} (h : IsClosed t) :
    (∀ j, putLine j t = .error Sink.afterClose t) ∧ sink.flush t = .error Sink.afterClose t ∧
      sink.close t = .error Sink.afterClose t := by
  cases t with
  | closed text => exact ⟨fun _ => rfl, rfl, rfl⟩
  | isOpen out => cases h
  | lost => cases h

theorem takes : sink.Takes Works IsClosed seen worth refusal where
  call call hcall := by
    cases call with
    | write r =>
        rw [worth, Sink.Call.values, List.map_singleton, List.sum_singleton]
        exact Sink.adds_unanswered (adds_write r)
    | delete rows =>
        rw [worth, Sink.Call.values, List.map_map]
        exact Sink.adds_unanswered (adds_delete rows)
    | flush => exact adds_flush
    | close => exact absurd rfl hcall
  close := collects.close
  worth_close := rfl
  late call t ht := by
    obtain ⟨hline, hflush, hclose⟩ := refuses_of_isClosed ht
    cases call with
    | write r => simp only [Sink.make, sink, Bind.bind, EStateM.bind, hline, refusal]
    | delete rows =>
        cases rows with
        | nil => rfl
        | cons row rows =>
            simp only [Sink.make, sink, deleteLines, Bind.bind, EStateM.bind, hline, refusal]
    | flush => exact hflush
    | close => exact hclose

theorem sum_worth (calls : List Sink.Call) :
    (calls.map worth).sum = .ofList (linesOf (calls.flatMap (·.values))) := by
  induction calls with
  | nil => rfl
  | cons call calls ih =>
      rw [List.map_cons, List.sum_cons, ih, worth, sum_line, List.flatMap_cons, linesOf, linesOf,
        linesOf, List.flatMap_append, FreeAddMonoid.ofList_append]

theorem text_of_open_or_closed {t : State} (h : Works t ∨ IsClosed t) :
    text t = .ok (seen t).toList := by
  rcases h with h | h
  · cases t with
    | isOpen out =>
        obtain ⟨out', hpass, _, _, hwritten⟩ := Output.pass_eq_some h
        simp only [text, hpass, hwritten]
        rfl
    | closed text => cases h
    | lost => cases h
  · exact text_of_isClosed h

end LineSink

def Json.Shallow (n : Nat) (j : Json) : Prop := j.Exact ∧ j.depth ≤ n

namespace Json

variable {n : Nat}

theorem shallow_text (s : String) : Shallow n (text s) := ⟨.text s, Nat.zero_le n⟩

theorem shallow_members {ms : List (String × Json)} (h : ∀ m ∈ ms, Shallow n m.2) :
    Shallow (n + 1) (members ms) :=
  ⟨exact_members fun m hm => (h m hm).1, depth_members fun m hm => (h m hm).2⟩

theorem shallow_map {α : Type} {xs : List α} {f : α → String × Json}
    (h : ∀ x ∈ xs, Shallow n (f x).2) : Shallow (n + 1) (members (xs.map f)) :=
  shallow_members (List.forall_mem_map.2 h)

theorem Shallow.mono {m : Nat} {j : Json} (h : j.Shallow m) (hle : m ≤ n) : j.Shallow n :=
  ⟨h.1, h.2.trans hle⟩

end Json

theorem Field.shallow_json (f : Field) : f.json.Shallow 0 := by
  rw [Field.json]
  cases f.value with
  | none => exact ⟨.null, Nat.le_refl 0⟩
  | some s => exact Json.shallow_text s

theorem Record.shallow_keyJson (fs : List Field) : (keyJson fs).Shallow 1 :=
  Json.shallow_map fun f _ => f.shallow_json

theorem Record.shallow_json (r : Record) : r.json.Shallow 3 := by
  refine Json.shallow_members fun m hm => ?_
  rcases List.mem_cons.1 hm with rfl | hm
  · exact (shallow_keyJson r.key).mono (by decide)
  · rw [List.mem_singleton.1 hm]
    exact Json.shallow_map fun family _ => Json.shallow_map fun f _ => f.shallow_json

theorem DeleteOrder.shallow_json (d : DeleteOrder) (h : d.timestamp ≤ Window.lastTimestamp) :
    d.json.Shallow 3 := by
  have hreach : d.reach.groupJson.Shallow 1 := by
    cases d.reach with
    | key => exact ⟨.null, Nat.zero_le 1⟩
    | group id => exact Json.shallow_text id
  have htime : (Json.nat d.timestamp).Shallow 1 := by
    refine ⟨.integer (by omega) ?_, Nat.zero_le 1⟩
    exact Int.ofNat_le.2 h
  refine Json.shallow_members (List.forall_mem_singleton.2 (Json.shallow_members ?_))
  simp only [List.forall_mem_cons]
  exact ⟨Json.shallow_text _, Json.shallow_text _, Record.shallow_keyJson _, hreach, htime, nofun⟩

namespace LineSink

variable {calls : List Sink.Call}

theorem mem_deleted_of_upToClose {d : DeleteOrder} (h : d ∈ Sink.deleted (Sink.upToClose calls)) :
    d ∈ Sink.deleted calls := by
  rw [← Sink.upToClose_append_behindClose calls, Sink.deleted_append]
  exact List.mem_append_left _ h

theorem shallow_values (htime : ∀ d ∈ Sink.deleted calls, d.timestamp ≤ Window.lastTimestamp) :
    ∀ j ∈ calls.flatMap (·.values), j.Shallow 3 := by
  intro j hj
  obtain ⟨call, hcall, hj⟩ := List.mem_flatMap.1 hj
  cases call with
  | write r => exact List.mem_singleton.1 hj ▸ r.shallow_json
  | delete rows =>
      obtain ⟨d, hd, rfl⟩ := List.mem_map.1 hj
      exact d.shallow_json (htime d (List.mem_flatMap.2 ⟨_, hcall, hd⟩))
  | flush => cases hj
  | close => cases hj

/-- Whatever calls are made in whatever order, a sink of lines and one that keeps what it is given
take the same up to the first close, and then refuse all that would leave something in them. The
lines hold, in order, the records and deletes that the other sink keeps. -/
theorem lines_of_calls (calls : List Sink.Call)
    (htime : ∀ d ∈ Sink.deleted calls, d.timestamp ≤ Window.lastTimestamp) :
    (sink.ClosesOnce refusal calls start ∧
      ∃ bytes, text (sink.answers calls start).2 = .ok bytes ∧
        HoldsLines ((Sink.upToClose calls).flatMap (·.values)) bytes) ∧
    KeepingSink.sink.ClosesOnce (fun _ => some Sink.afterClose) calls {} ∧
      (KeepingSink.sink.answers calls {}).2.records = Sink.written (Sink.upToClose calls) ∧
      (KeepingSink.sink.answers calls {}).2.deletes = Sink.deleted (Sink.upToClose calls) := by
  obtain ⟨honce, hstate, hseen⟩ := takes.closesOnce works_start calls
  obtain ⟨hkeeps, _, hkept⟩ := KeepingSink.takes.closesOnce KeepingSink.closed_empty calls
  rw [sum_worth, seen_start, zero_add] at hseen
  rw [KeepingSink.sum_worth, KeepingSink.kept_empty, zero_add, KeepingSink.kept,
    Prod.mk.injEq] at hkept
  refine ⟨⟨honce, _, text_of_open_or_closed hstate, ?_⟩, hkeeps, hkept⟩
  rw [hseen]
  refine holdsLines fun j hj => ?_
  exact (shallow_values (fun d hd => htime d (mem_deleted_of_upToClose hd)) j hj).mono (by decide)

private def oddRecord : Record := .ofKey [.key "id" "a\"\n\x01" .string]

private def oddDelete : DeleteOrder := ⟨[107], oddRecord.key, .group "1\n2", [], 7⟩

private def oddCalls : List Sink.Call :=
  [.write oddRecord, .delete [oddDelete], .flush, .close, .delete [], .write oddRecord, .close]

theorem odd_key_on_one_line :
    (sink.answers oddCalls start).1 =
      [none, none, none, none, none, some Sink.afterClose, some Sink.afterClose] ∧
    (∃ bytes, text (sink.answers oddCalls start).2 = .ok bytes ∧
      HoldsLines [oddRecord.json, oddDelete.json] bytes) ∧
    (KeepingSink.sink.answers oddCalls {}).2.records = [oddRecord] ∧
      (KeepingSink.sink.answers oddCalls {}).2.deletes = [oddDelete] := by
  obtain ⟨⟨honce, hlines⟩, _, hkept⟩ := lines_of_calls oddCalls (by decide)
  exact ⟨honce.answers, hlines, hkept⟩

/-- A delete of no rows passes a closed sink of lines, and the other sink refuses it. -/
theorem empty_delete_passes_closed :
    (sink.answers [.close, .delete []] start).1 = [none, none] ∧
      (KeepingSink.sink.answers [.close, .delete []] {}).1 = [none, some Sink.afterClose] :=
  ⟨rfl, rfl⟩

end LineSink

end WideRow
