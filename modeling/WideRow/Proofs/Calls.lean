import WideRow.Worker

namespace WideRow

namespace Sink

variable {σ : Type} {sink : Sink σ} {e : Error} {t t' : σ}

def make (sink : Sink σ) : Call → Action σ Unit
  | .write r => do
    let _ ← sink.write r
  | .delete rows => do
    let _ ← sink.delete rows
  | .flush => sink.flush
  | .close => sink.close

/-- Calls one after another, up to the first that fails. -/
def makeAll (sink : Sink σ) (calls : List Call) : Action σ Unit := calls.forM sink.make

theorem makeAll_cons (call : Call) (calls : List Call) (t : σ) :
    sink.makeAll (call :: calls) t =
      match sink.make call t with
      | .ok () t' => sink.makeAll calls t'
      | .error e t' => .error e t' := by
  simp only [makeAll, List.forM_eq_forM, List.forM_cons, Bind.bind, EStateM.bind]
  cases sink.make call t <;> rfl

theorem makeAll_append (calls calls' : List Call) (t : σ) :
    sink.makeAll (calls ++ calls') t =
      match sink.makeAll calls t with
      | .ok () t' => sink.makeAll calls' t'
      | .error e t' => .error e t' := by
  induction calls generalizing t with
  | nil => rfl
  | cons call calls ih =>
      rw [List.cons_append, makeAll_cons, makeAll_cons]
      cases sink.make call t with
      | ok x t' => exact ih t'
      | error e t' => rfl

theorem makeAll_singleton (call : Call) (t : σ) : sink.makeAll [call] t = sink.make call t := by
  rw [makeAll_cons]
  cases sink.make call t <;> rfl

theorem makeAll_eq_error {calls : List Call} (h : sink.makeAll calls t = .error e t') :
    ∃ made call rest t₁, calls = made ++ call :: rest ∧ sink.makeAll made t = .ok () t₁ ∧
      sink.make call t₁ = .error e t' := by
  induction calls generalizing t with
  | nil => cases h
  | cons call calls ih =>
      rw [makeAll_cons] at h
      cases hcall : sink.make call t with
      | error e' t₁ =>
          rw [hcall] at h
          cases h
          exact ⟨[], call, calls, t, rfl, rfl, hcall⟩
      | ok x t₁ =>
          rw [hcall] at h
          obtain ⟨made, call', rest, t₂, rfl, hmade, hfails⟩ := ih h
          refine ⟨call :: made, call', rest, t₂, rfl, ?_, hfails⟩
          rw [makeAll_cons, hcall]
          exact hmade

end Sink

namespace Worker

variable {ρ σ α β : Type} {sink : Sink σ} {calls calls' : List Sink.Call} {Q : α → Prop}
  {Q' : β → Prop}

/-- A step makes these calls and nothing else, up to the first that fails, and fails only with
it. -/
def Makes (sink : Sink σ) (a : Action (State ρ σ) α) (calls : List Sink.Call) (Q : α → Prop) :
    Prop :=
  ∀ st, match a st with
    | .ok x st' => Q x ∧ st'.source = st.source ∧ sink.makeAll calls st.sink = .ok () st'.sink
    | .error e st' => st'.source = st.source ∧ sink.makeAll calls st.sink = .error e st'.sink

theorem Makes.bind {a : Action (State ρ σ) α} {f : α → Action (State ρ σ) β}
    (ha : Makes sink a calls Q) (hf : ∀ x, Q x → Makes sink (f x) calls' Q') :
    Makes sink (a >>= f) (calls ++ calls') Q' := by
  intro st
  have ha := ha st
  simp only [Bind.bind, EStateM.bind]
  cases h : a st with
  | error e st' =>
      rw [h] at ha
      obtain ⟨hsource, hmade⟩ := ha
      exact ⟨hsource, by rw [Sink.makeAll_append, hmade]⟩
  | ok x st' =>
      rw [h] at ha
      obtain ⟨hq, hsource, hmade⟩ := ha
      have hf := hf x hq st'
      simp only [Sink.makeAll_append, hmade]
      rwa [hsource] at hf

theorem Makes.after {a : Action (State ρ σ) α} {f : α → Action (State ρ σ) β}
    (ha : Makes sink a [] Q) (hf : ∀ x, Q x → Makes sink (f x) calls Q') :
    Makes sink (a >>= f) calls Q' := ha.bind hf

theorem Makes.andThen {a : Action (State ρ σ) α} {f : α → Action (State ρ σ) β}
    (ha : Makes sink a calls Q) (hf : ∀ x, Q x → Makes sink (f x) [] Q') :
    Makes sink (a >>= f) calls Q' := by
  have h := ha.bind hf
  rwa [List.append_nil] at h

theorem makes_pure {x : α} (h : Q x) :
    Makes sink (pure x : Action (State ρ σ) α) [] Q := fun _ => ⟨h, rfl, rfl⟩

theorem makes_ofExcept {x : α} {e : Except Error α} (h : e = .ok x) :
    Makes sink (MonadExcept.ofExcept e : Action (State ρ σ) α) [] (· = x) := by
  subst h
  exact makes_pure rfl

theorem makes_count (f : Stats → Stats) :
    Makes sink (count f : Action (State ρ σ) Unit) [] fun _ => True := fun _ =>
  ⟨trivial, rfl, rfl⟩

theorem makes_warn (warnings : List Warning) :
    Makes sink (warn warnings : Action (State ρ σ) Unit) [] fun _ => True := fun _ =>
  ⟨trivial, rfl, rfl⟩

theorem makes_skip (reason : Skip) :
    Makes sink (skip reason : Action (State ρ σ) (Outcome Nat)) [] (· = .skip reason) :=
  (makes_count _).after fun _ _ => makes_pure rfl

theorem makes_report (schema : Schema) (key : Bytes) (d : Dropped) :
    Makes sink (report schema key d : Action (State ρ σ) Unit) [] fun _ => True :=
  (makes_count _).after fun _ _ => makes_warn _

theorem makes_onSink {call : Sink.Call} {a : Action σ α}
    (h : sink.make call = (fun _ => ()) <$> a) :
    Makes sink (onSink a : Action (State ρ σ) α) [call] fun _ => True := by
  intro st
  rw [Sink.makeAll_singleton, h]
  simp only [onSink, Action.within, Functor.map, EStateM.map]
  cases a st.sink with
  | ok x t => exact ⟨trivial, rfl, rfl⟩
  | error e t => exact ⟨rfl, rfl⟩

theorem makes_flush : Makes sink (onSink sink.flush : Action (State ρ σ) Unit) [.flush]
    fun _ => True :=
  makes_onSink (id_map sink.flush).symm

theorem makes_close (w : Worker ρ σ) : Makes w.sink w.close [.close] fun _ => True :=
  makes_onSink (id_map w.sink.close).symm

variable (w : Worker ρ σ)

theorem makes_writeAll (records : List Record) :
    Makes w.sink (w.writeAll records) (records.map .write) fun _ => True := by
  induction records with
  | nil => exact makes_pure trivial
  | cons record records ih =>
      have hone : Makes w.sink (do
          let _ ← onSink (w.sink.write record) : Action (State ρ σ) Unit) [.write record]
            fun _ => True := (makes_onSink rfl).andThen fun _ _ => makes_pure trivial
      exact hone.bind fun _ _ => ih

theorem makes_deleteAll (rows : List DeleteOrder) :
    Makes w.sink (w.deleteAll rows) [.delete rows] fun _ => True :=
  (makes_onSink rfl).andThen fun _ _ => makes_count _

/-- The calls for a row that is handed over: its deletes if there are any, its records, a flush. -/
def handover (deletes : List DeleteOrder) (records : List Record) : List Sink.Call :=
  (if deletes.isEmpty then [] else [.delete deletes]) ++ records.map .write ++ [.flush]

theorem makes_deliver (deletes : List DeleteOrder) (records : List Record) :
    Makes w.sink (w.deliver deletes records) (handover deletes records) fun _ => True := by
  have htail : Makes w.sink (do
      w.writeAll records
      count (·.withRecords records.length)
      onSink w.sink.flush) (records.map .write ++ [.flush]) fun _ => True :=
    (makes_writeAll w records).bind fun _ _ => (makes_count _).after fun _ _ => makes_flush
  rw [deliver, handover, List.append_assoc]
  cases deletes with
  | nil => exact htail
  | cons d ds => exact (makes_deleteAll w (d :: ds)).bind fun _ _ => htail

end Worker

end WideRow
