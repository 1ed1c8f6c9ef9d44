import WideRow.Proofs.Calls
import WideRow.Proofs.Completion
import WideRow.Proofs.RowRecords

namespace WideRow

namespace Worker

variable {ρ σ : Type} {calls : List Sink.Call} {r r' : ρ} {row : RowCells}

theorem records_finishRow {plan : Plan} (hplan : plan.Sound) (rowKey : Bytes) (key : List Field)
    (cells : List Cell) : (finishRow plan rowKey key cells).records =
      .ok (RowOutput.settled plan key cells) := by
  rw [finishRow, RowOutput.settled]
  rcases RowOutput.ofFields_eq hplan key cells with ⟨hskip, _⟩ | ⟨out, hready, hoff⟩
  · rw [hskip]
  · rw [hready]
    cases he : out.error with
    | none => simp [RowOutput.result, he, settle]
    | some e =>
        have hkind : e.kind = .malformedDocument :=
          RowOutput.kind_of_offerAll (by rw [← RowOutput.offered, ← hoff, he])
        simp [RowOutput.result, he, settle, hkind]

theorem exists_mapM_eq_ok {α β : Type} {f : α → Except Error β} {xs : List α}
    (h : ∀ x ∈ xs, ∃ y, f x = .ok y) : ∃ ys, xs.mapM f = .ok ys := by
  cases hxs : xs.mapM f with
  | ok ys => exact ⟨ys, rfl⟩
  | error e =>
      obtain ⟨x, hx, he⟩ := RowOutput.exists_of_mapM_eq_error hxs
      obtain ⟨y, hy⟩ := h x hx
      rw [hy] at he
      cases he

theorem row_of_splits {schema : Schema} {d : Deletion}
    (h : ∀ g, d.reach = .group g → g = noGroup ∨ schema.splits g) (rowKey : Bytes)
    (key : List Field) : ∃ order, d.row schema rowKey key = .ok order := by
  obtain ⟨tail, ht⟩ : ∃ tail, Deletion.keyTail schema d.reach = .ok tail := by
    cases hr : d.reach with
    | key => exact ⟨[], rfl⟩
    | group g =>
        rw [Deletion.keyTail]
        cases hl : schema.layout? with
        | none => exact ⟨[], rfl⟩
        | some layout =>
            simp only
            split
            next => exact ⟨[], rfl⟩
            next hne =>
              have hs := (h g hr).resolve_left hne
              simp only [Schema.splits, hl, Option.any_some, Option.isSome_iff_exists] at hs
              obtain ⟨components, hc⟩ := hs
              exact ⟨layout.keyFields g components, by simp [Layout.components, hc, Except.map]⟩
  exact ⟨_, by rw [Deletion.row, ht]⟩

def settledOf (plan : Plan) (key : List Field) : Outcome (List Cell) → Outcome (List Record)
  | .ready cells => RowOutput.settled plan key cells
  | .skip reason => .skip reason

theorem records_finish {plan : Plan} (hplan : plan.Sound) (rowKey : Bytes) (key : List Field)
    (cells : Outcome (List Cell)) :
    (finish plan rowKey key cells).records = .ok (settledOf plan key cells) := by
  cases cells with
  | ready cells => exact records_finishRow hplan rowKey key cells
  | skip reason => rfl

variable (w : Worker ρ σ)

/-- What a row is put out from: its own cells, or what its changes are completed to. -/
def cellsOf (row : RowCells) : Action ρ (Outcome (List Cell)) :=
  if w.incremental then
    match ChangeSet.ofRow w.plan w.window row with
    | .skip reason => pure (.skip reason)
    | .ready c =>
      if c.isEmpty then pure (.skip .unchanged)
      else c.complete w.source w.plan w.window row.key
  else pure (.ready row.cells)

section Cells

variable {w} {c : ChangeSet} {reason : Skip}

theorem cellsOf_of_full (hi : w.incremental = false) (row : RowCells) :
    w.cellsOf row = pure (.ready row.cells) := by
  rw [cellsOf, hi]
  rfl

theorem cellsOf_of_skip (hi : w.incremental = true)
    (h : ChangeSet.ofRow w.plan w.window row = .skip reason) :
    w.cellsOf row = pure (.skip reason) := by
  simp only [cellsOf, hi, h, if_true]

theorem cellsOf_of_isEmpty (hi : w.incremental = true)
    (h : ChangeSet.ofRow w.plan w.window row = .ready c) (hempty : c.isEmpty = true) :
    w.cellsOf row = pure (.skip .unchanged) := by
  simp only [cellsOf, hi, h, hempty, if_true]

theorem cellsOf_of_ready (hi : w.incremental = true)
    (h : ChangeSet.ofRow w.plan w.window row = .ready c) (hempty : ¬c.isEmpty = true) :
    w.cellsOf row = c.complete w.source w.plan w.window row.key := by
  simp only [cellsOf, hi, h, hempty, if_true, if_false, Bool.false_eq_true]

end Cells

/-- A row is read where its changes have to be completed, and nowhere else. -/
theorem cellsOf_cases (row : RowCells) :
    (∃ o, w.cellsOf row = pure o) ∨ ∃ c, ChangeSet.ofRow w.plan w.window row = .ready c ∧
      w.cellsOf row = c.complete w.source w.plan w.window row.key := by
  cases hi : w.incremental with
  | false => exact .inl ⟨_, cellsOf_of_full hi row⟩
  | true =>
      cases hready : ChangeSet.ofRow w.plan w.window row with
      | skip reason => exact .inl ⟨_, cellsOf_of_skip hi hready⟩
      | ready c =>
          by_cases hempty : c.isEmpty
          · exact .inl ⟨_, cellsOf_of_isEmpty hi hready hempty⟩
          · exact .inr ⟨c, rfl, cellsOf_of_ready hi hready hempty⟩

def deletionsOf (row : RowCells) : List Deletion :=
  if w.incremental then
    match ChangeSet.ofRow w.plan w.window row with
    | .skip _ => []
    | .ready c => c.deletions
  else []

/-- What a row may be put out as, and the calls for it. The source goes from one state to the other
while the row is read. -/
inductive Turn (w : Worker ρ σ) (row : RowCells) : ρ → ρ → Outcome Nat → List Sink.Call → Prop
  | rejected {r : ρ} {reason : Skip} (hkey : screen w.plan row.key = .skip reason)
      (hreason : reason ∈ [.malformedRowKey, .rejectedByKey]) : Turn w row r r (.skip reason) []
  | unchanged {r r' : ρ} {key : List Field} (hkey : screen w.plan row.key = .ready key)
      (hcells : w.cellsOf row r = .ok (.skip .unchanged) r') : Turn w row r r' (.skip .unchanged) []
  | written {r r' : ρ} {key : List Field} {cells : List Cell} {records : List Record}
      {deletes : List DeleteOrder} (hkey : screen w.plan row.key = .ready key)
      (hcells : w.cellsOf row r = .ok (.ready cells) r')
      (hrecords : RowOutput.settled w.plan key cells = .ready records)
      (hdeletes : (w.deletionsOf row).mapM (·.row w.plan.schema row.key key) = .ok deletes) :
      Turn w row r r' (.ready records.length) (handover deletes records)
  /-- A row that is read and then passed over still has its deletes. -/
  | passedOver {r r' : ρ} {key : List Field} {cells : Outcome (List Cell)} {reason : Skip}
      {deletes : List DeleteOrder} (hkey : screen w.plan row.key = .ready key)
      (hcells : w.cellsOf row r = .ok cells r')
      (hskip : settledOf w.plan key cells = .skip reason)
      (hreason : reason ∈ [.rejectedByStatics, .vanished, .malformedDocument])
      (hdeletes : (w.deletionsOf row).mapM (·.row w.plan.schema row.key key) = .ok deletes) :
      Turn w row r r' (.skip reason) (handover deletes [])

def Unread (w : Worker ρ σ) (row : RowCells) (r : ρ) (e : Error) (r' : ρ) : Prop :=
  ∃ targets e', w.source.scan row.key targets w.window.toEnd r = .error e' r' ∧
    e = e'.atRow row.key

/-- How the work on a row ends. -/
inductive Worked (w : Worker ρ σ) (row : RowCells) (r : ρ) (t : σ) :
    EStateM.Result Error (State ρ σ) (Outcome Nat) → Prop
  | done {o : Outcome Nat} {calls : List Sink.Call} {st : State ρ σ}
      (hturn : Turn w row r st.source o calls) (hmade : w.sink.makeAll calls t = .ok () st.sink) :
      Worked w row r t (.ok o st)
  | unread {e : Error} {st : State ρ σ} (hread : Unread w row r e st.source)
      (hsink : st.sink = t) : Worked w row r t (.error e st)
  | refused {o : Outcome Nat} {calls : List Sink.Call} {e : Error} {st : State ρ σ}
      (hturn : Turn w row r st.source o calls) (hmade : w.sink.makeAll calls t = .error e st.sink) :
      Worked w row r t (.error e st)

variable {w}

theorem Makes.worked {a : Action (State ρ σ) (Outcome Nat)} {Q : Outcome Nat → Prop}
    (ha : Makes w.sink a calls Q) (hturn : ∀ o, Q o → Turn w row r r' o calls)
    (hsome : ∃ o, Q o) (st : State ρ σ) (hsource : st.source = r') :
    Worked w row r st.sink (a st) := by
  have ha := ha st
  obtain ⟨o, ho⟩ := hsome
  cases h : a st with
  | ok o' st' =>
      rw [h] at ha
      obtain ⟨hq, hsource', hmade⟩ := ha
      exact .done (by rw [hsource', hsource]; exact hturn o' hq) hmade
  | error e st' =>
      rw [h] at ha
      obtain ⟨hsource', hmade⟩ := ha
      exact .refused (by rw [hsource', hsource]; exact hturn o ho) hmade

theorem makes_conclude (hplan : w.plan.Sound) (rowKey : Bytes) (key : List Field)
    {deletions : List Deletion} {deletes : List DeleteOrder}
    (hdeletes : deletions.mapM (·.row w.plan.schema rowKey key) = .ok deletes) (dropped : Dropped)
    (cells : Outcome (List Cell)) :
    Makes w.sink (w.conclude rowKey key deletions dropped cells)
      (handover deletes (RowOutput.recordsOf (settledOf w.plan key cells)))
      (· = (settledOf w.plan key cells).map (·.length)) := by
  have hrecords := records_finish hplan rowKey key cells
  rw [conclude]
  refine (makes_warn _).after fun _ _ => (makes_report _ _ _).after fun _ _ =>
    (makes_ofExcept hrecords).after fun o ho => (makes_ofExcept hdeletes).after fun ds hds => ?_
  rw [hds, ← ho]
  cases o with
  | ready records => exact (makes_deliver w _ _).andThen fun _ _ => makes_pure rfl
  | skip reason => exact (makes_deliver w _ _).andThen fun _ _ => makes_skip _

/-- Documents and conditions on static columns pass rows over, and nothing else that is read. -/
theorem reason_of_settled {plan : Plan} {key : List Field} {cells : List Cell} {reason : Skip}
    (h : RowOutput.settled plan key cells = .skip reason) :
    reason = .rejectedByStatics ∨ reason = .malformedDocument := by
  rw [RowOutput.settled, RowOutput.ofFields] at h
  split at h
  next hskip =>
    cases h
    split at hskip <;> cases hskip
    exact .inl rfl
  next =>
    split at h <;> cases h
    exact .inr rfl

theorem reason_of_parse {spec : RowKey.Spec} {key : Bytes} {reason : Skip}
    (h : spec.parse key = .skip reason) : reason = .malformedRowKey := by
  rw [RowKey.Spec.parse] at h
  split at h <;> cases h
  rfl

theorem reason_of_screen {plan : Plan} {key : Bytes} {reason : Skip}
    (h : screen plan key = .skip reason) : reason = .malformedRowKey ∨ reason = .rejectedByKey := by
  rw [screen] at h
  split at h
  next hparse =>
    cases h
    exact .inl (reason_of_parse hparse)
  next =>
    split at h
    next => cases h
    next =>
      split at h <;> cases h
      exact .inr rfl

theorem reason_of_ofRow {plan : Plan} {window : Window} {reason : Skip}
    (h : ChangeSet.ofRow plan window row = .skip reason) : reason = .unchanged := by
  rcases ChangeSet.ofRow_cases plan window row with ⟨_, _, hrow⟩ | ⟨_, hrow⟩
  · cases hrow.symm.trans h
  · rw [hrow] at h
    split at h <;> cases h
    rfl

theorem reason_of_conclude {c : ChangeSet} {found : Option RowCells} {reason : Skip}
    (h : c.conclude found = .skip reason) : reason = .vanished := by
  simp only [ChangeSet.conclude] at h
  split at h
  next =>
    split at h <;> cases h
    rfl
  next => cases h

theorem complete_cases (c : ChangeSet) (source : Source ρ) (plan : Plan) (window : Window)
    (key : Bytes) (r : ρ) :
    (∃ found r', c.complete source plan window key r = .ok (c.conclude found) r' ∧
      (r' = r ∨ ∃ targets, source.scan key targets window.toEnd r = .ok found r')) ∨
      ∃ targets e r', source.scan key targets window.toEnd r = .error e r' ∧
        c.complete source plan window key r = .error (e.atRow key) r' := by
  cases hask : c.request? plan with
  | none =>
      simp only [ChangeSet.complete, hask]
      exact .inl ⟨none, r, rfl, .inl rfl⟩
  | some targets =>
      simp only [ChangeSet.complete, hask, Bind.bind, EStateM.bind, EStateM.adaptExcept]
      cases h : source.scan key targets window.toEnd r with
      | ok found r' => exact .inl ⟨found, r', rfl, .inr ⟨targets, h⟩⟩
      | error e r' => exact .inr ⟨targets, e, r', h, rfl⟩

theorem exists_deletes (row : RowCells) (key : List Field) :
    ∃ deletes, (w.deletionsOf row).mapM (·.row w.plan.schema row.key key) = .ok deletes := by
  refine exists_mapM_eq_ok fun d hd => ?_
  rw [deletionsOf] at hd
  split at hd
  next =>
    split at hd
    next => cases hd
    next c hready =>
      exact row_of_splits (fun g hg => ChangeSet.reach_of_mem_deletions hready hd hg) row.key key
  next => cases hd

theorem turn_of_settled {key : List Field} {cells : Outcome (List Cell)}
    {deletes : List DeleteOrder} (hkey : screen w.plan row.key = .ready key)
    (hcells : w.cellsOf row r = .ok cells r')
    (hreason : ∀ reason, cells = .skip reason → reason = .vanished)
    (hdeletes : (w.deletionsOf row).mapM (·.row w.plan.schema row.key key) = .ok deletes) :
    Turn w row r r' ((settledOf w.plan key cells).map (·.length))
      (handover deletes (RowOutput.recordsOf (settledOf w.plan key cells))) := by
  cases cells with
  | skip reason =>
      refine .passedOver hkey hcells rfl ?_ hdeletes
      simp [hreason reason rfl]
  | ready cells =>
      cases hsettled : settledOf w.plan key (.ready cells) with
      | ready records => exact .written hkey hcells hsettled hdeletes
      | skip reason =>
          refine .passedOver hkey hcells hsettled ?_ hdeletes
          rcases reason_of_settled hsettled with rfl | rfl <;> simp

theorem conclude_worked (hplan : w.plan.Sound) {key : List Field} {cells : Outcome (List Cell)}
    (hkey : screen w.plan row.key = .ready key) (hcells : w.cellsOf row r = .ok cells r')
    (hreason : ∀ reason, cells = .skip reason → reason = .vanished) (dropped : Dropped)
    (st : State ρ σ) (hsource : st.source = r') :
    Worked w row r st.sink (w.conclude row.key key (w.deletionsOf row) dropped cells st) := by
  obtain ⟨deletes, hdeletes⟩ := exists_deletes (w := w) row key
  exact (makes_conclude hplan row.key key hdeletes dropped cells).worked
    (fun _ ho => ho ▸ turn_of_settled hkey hcells hreason hdeletes) ⟨_, rfl⟩ st hsource

theorem unchanged_worked {key : List Field} (hkey : screen w.plan row.key = .ready key)
    (hcells : w.cellsOf row r = .ok (.skip .unchanged) r)
    {a : Action (State ρ σ) (Outcome Nat)} (ha : Makes w.sink a [] (· = .skip .unchanged))
    (st : State ρ σ) (hsource : st.source = r) : Worked w row r st.sink (a st) :=
  ha.worked (fun _ ho => ho ▸ .unchanged hkey hcells) ⟨_, rfl⟩ st hsource

theorem count_bind {α : Type} (f : Stats → Stats) (k : Unit → Action (State ρ σ) α)
    (st : State ρ σ) : (count f >>= k) st = k () { st with stats := f st.stats } := rfl

theorem onSource_bind {α β : Type} (a : Action ρ α) (k : α → Action (State ρ σ) β)
    (st : State ρ σ) : (onSource a >>= k) st =
      match a st.source with
      | .ok x r => k x { st with source := r }
      | .error e r => .error e { st with source := r } := by
  simp only [Bind.bind, EStateM.bind, onSource, Action.within]
  cases a st.source <;> rfl

theorem workOnChanges_worked (hplan : w.plan.Sound) (hi : w.incremental = true) {c : ChangeSet}
    {key : List Field} (hkey : screen w.plan row.key = .ready key)
    (hready : ChangeSet.ofRow w.plan w.window row = .ready c) (st : State ρ σ) :
    Worked w row st.source st.sink (w.workOnChanges row key c st) := by
  rw [workOnChanges]
  split
  next hempty =>
    have hcells := congrFun (cellsOf_of_isEmpty hi hready hempty) st.source
    exact unchanged_worked hkey hcells ((makes_report _ _ _).after fun _ _ => makes_skip _) st rfl
  next hempty =>
    have hread := cellsOf_of_ready hi hready hempty
    have hdeletions : w.deletionsOf row = c.deletions := by
      simp only [deletionsOf, hi, hready, if_true]
    rw [count_bind, onSource_bind]
    rcases complete_cases c w.source w.plan w.window row.key st.source with
      ⟨found, r', hcomplete, _⟩ | ⟨targets, e, r', hscan, hcomplete⟩
    · rw [hcomplete, ← hdeletions]
      exact conclude_worked hplan hkey (hread ▸ hcomplete) (fun _ h => reason_of_conclude h) _
        { st with source := r', stats := st.stats.withRead c.read } rfl
    · rw [hcomplete]
      exact .unread ⟨targets, e, hscan, rfl⟩ rfl

theorem workOn_eq (w : Worker ρ σ) (row : RowCells) (st : State ρ σ) :
    w.workOn row st = (match screen w.plan row.key with
      | .skip reason => skip reason
      | .ready key =>
        if w.incremental then
          match ChangeSet.ofRow w.plan w.window row with
          | .skip reason => skip reason
          | .ready c => w.workOnChanges row key c
        else w.conclude row.key key [] {} (.ready row.cells))
      { st with stats := st.stats.withRow } := rfl

/-- A row fails only with its source or with one of its calls. -/
theorem workOn_worked (hplan : w.plan.Sound) (row : RowCells) (st : State ρ σ) :
    Worked w row st.source st.sink (w.workOn row st) := by
  rw [workOn_eq]
  cases hkey : screen w.plan row.key with
  | skip reason =>
      have hreason : reason ∈ [.malformedRowKey, .rejectedByKey] := by
        rcases reason_of_screen hkey with rfl | rfl <;> simp
      exact (makes_skip reason).worked (fun _ ho => ho ▸ .rejected hkey hreason) ⟨_, rfl⟩
        { st with stats := st.stats.withRow } rfl
  | ready key =>
      cases hi : w.incremental with
      | false =>
          have hcells := congrFun (cellsOf_of_full hi row) st.source
          have hnone : w.deletionsOf row = [] := by simp [deletionsOf, hi]
          have hworked := conclude_worked hplan hkey hcells nofun {}
            { st with stats := st.stats.withRow } rfl
          rwa [hnone] at hworked
      | true =>
          cases hready : ChangeSet.ofRow w.plan w.window row with
          | skip reason =>
              cases reason_of_ofRow hready
              have hcells := congrFun (cellsOf_of_skip hi hready) st.source
              exact unchanged_worked hkey hcells (makes_skip _)
                { st with stats := st.stats.withRow } rfl
          | ready c =>
              exact workOnChanges_worked hplan hi hkey hready
                { st with stats := st.stats.withRow }

variable (w)

def workOnAll (rows : List RowCells) : Action (State ρ σ) Unit :=
  rows.forM fun row => do
    let _ ← w.workOn row

theorem workOnAll_cons (row : RowCells) (rows : List RowCells) (st : State ρ σ) :
    w.workOnAll (row :: rows) st =
      match w.workOn row st with
      | .ok _ st' => w.workOnAll rows st'
      | .error e st' => .error e st' := by
  simp only [workOnAll, List.forM_eq_forM, List.forM_cons, Bind.bind, EStateM.bind]
  cases w.workOn row st <;> rfl

theorem run_eq (rows : List RowCells) (st : State ρ σ) :
    w.run rows st =
      match w.workOnAll rows st with
      | .ok () st' => w.close st'
      | .error e st' => .error e st' := by
  have hrun : w.run rows = (w.workOnAll rows >>= fun _ => w.close) := rfl
  rw [hrun]
  simp only [Bind.bind, EStateM.bind]
  cases w.workOnAll rows st <;> rfl

end Worker

end WideRow
