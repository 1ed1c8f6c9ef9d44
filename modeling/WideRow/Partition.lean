import WideRow.Sink.Lines
import WideRow.Worker

namespace WideRow.Partition

variable {α ρ σ : Type}

def chunks (n : Nat) : List α → List (List α)
  | [] => []
  | x :: xs => (x :: xs.take n) :: chunks n (xs.drop n)
termination_by xs => xs.length
decreasing_by simp only [List.length_drop, List.length_cons]; omega

/-- The longest list of runs: each takes 24 bytes, and no list has more than `2 ^ 63 - 1`. -/
def mostRuns : Nat := 0x7FFFFFFFFFFFFFFF / 24

/-- At most `count` runs of equal length, the last one perhaps shorter. No rows make one run. Room
for `count` runs is reserved before any is made, so that too many end in none at all. -/
def split (rows : List α) (count : Nat) : Option (List (List α)) :=
  if rows.isEmpty then some [[]]
  else
    let parts := max count 1
    if mostRuns < parts then none
    else some (chunks ((rows.length + parts - 1) / parts - 1) rows)

/-- Each partition starts over with the source and the sink given; the first error counts. -/
def runAll (w : Worker ρ σ) (source : ρ) (sink : σ) :
    List (List RowCells) → Except Error (Stats × List σ)
  | [] => .ok ({}, [])
  | rows :: rest =>
    match w.run rows { source, sink } with
    | .error e _ => .error e
    | .ok _ s => do
      let (stats, sinks) ← runAll w source sink rest
      return (s.stats.merge stats, s.sink :: sinks)

def rows (job : Job) (window : Window) (store : Store) : List RowCells :=
  if job.settings.incremental then store.changes window else store.latest window

structure Written where
  stats : Stats
  texts : List Bytes

def write (job : Job) (plan : Plan) (window : Window) (store : Store) (count : Nat) :
    Except Error (Option Written) := do
  let w : Worker Unit LineSink.State :=
    ⟨plan, window, job.settings.incremental, .ofStore store, LineSink.sink⟩
  match split (rows job window store) count with
  | none => return none
  | some parts =>
    let (stats, sinks) ← runAll w () LineSink.start parts
    return some ⟨stats, ← sinks.mapM LineSink.text⟩

end WideRow.Partition
