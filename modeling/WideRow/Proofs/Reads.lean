import WideRow.Proofs.Turns

namespace WideRow

namespace Source

variable {ρ : Type} {source : Source ρ} {key : Bytes} {targets : List ReadTarget} {window : Window}
  {r : Nat × ρ}

theorem scan_counted (source : Source ρ) (key : Bytes) (targets : List ReadTarget)
    (window : Window) (r : Nat × ρ) :
    source.counted.scan key targets window r =
      match source.scan key targets window r.2 with
      | .ok found r' => .ok found (r.1 + 1, r')
      | .error e r' => .error e (r.1 + 1, r') := by
  have hcount : source.counted.scan key targets window r =
      Action.within (·.2) (fun s r => (s.1, r)) (source.scan key targets window)
        (r.1 + 1, r.2) := rfl
  rw [hcount, Action.within]
  cases source.scan key targets window r.2 <;> rfl

theorem reads_of_scan_eq_error {e : Error} {r' : Nat × ρ}
    (h : source.counted.scan key targets window r = .error e r') : r'.1 = r.1 + 1 := by
  rw [scan_counted] at h
  split at h <;> cases h
  rfl

end Source

namespace ChangeSet

variable {ρ : Type} {plan : Plan} {window : Window} {row : RowCells} {c : ChangeSet}
  {cells : List (String × Cell)} {found : List Cell} {x p : Cell}

theorem request?_eq_none_iff : c.request? plan = none ↔ c.read = .nothing := by
  rw [request?]
  cases c.read <;> simp

theorem complete_of_nothing (h : c.request? plan = none) (source : Source ρ) (window : Window)
    (key : Bytes) (r : ρ) : c.complete source plan window key r = .ok (c.conclude none) r := by
  simp only [complete, h]
  rfl

theorem complete_of_request {targets : List ReadTarget} (h : c.request? plan = some targets)
    (source : Source ρ) (window : Window) (key : Bytes) (r : ρ) :
    c.complete source plan window key r =
      match source.scan key targets window.toEnd r with
      | .ok found r' => .ok (c.conclude found) r'
      | .error e r' => .error (e.atRow key) r' := by
  simp only [complete, h, Bind.bind, EStateM.bind, EStateM.adaptExcept]
  cases source.scan key targets window.toEnd r <;> rfl

theorem reads_of_complete (c : ChangeSet) (source : Source ρ) (plan : Plan) (window : Window)
    (key : Bytes) (r : Nat × ρ) :
    match c.complete source.counted plan window key r with
    | .ok _ r' | .error _ r' => r'.1 = r.1 + if c.read = .nothing then 0 else 1 := by
  cases hask : c.request? plan with
  | none =>
      rw [complete_of_nothing hask]
      simp [request?_eq_none_iff.1 hask]
  | some targets =>
      have hread : c.read ≠ .nothing := fun h => by
        rw [request?_eq_none_iff.2 h] at hask
        cases hask
      rw [complete_of_request hask, Source.scan_counted]
      cases source.scan key targets window.toEnd r.2 <;> simp [hread]

theorem mustRescan_eq_false_or_backfill_eq_nil (h : ofRow plan window row = .ready c) :
    c.mustRescan = false ∨ c.backfill = [] := by
  rcases ofRow_eq_ready h with ⟨_, _, rfl⟩ | ⟨_, rfl⟩
  · exact .inr rfl
  · cases hm : (byCells plan window row).mustRescan with
    | false => exact .inl rfl
    | true =>
        right
        simp only [byCells, ofCells] at hm ⊢
        rw [hm]
        rfl

theorem isPut_of_mem_putCells (hc : c.groups = gather cells) (hx : x ∈ c.putCells) : x.isPut := by
  obtain ⟨g, _, hkept⟩ := kept_of_mem_putCells hc hx
  exact (mem_keptPuts.1 hkept).2.1

/-- A column is placed in one group, so it has one new value at most. -/
theorem eq_of_mem_putCells {schema : Schema} {cells : List Cell}
    (hc : c.groups = gather (inGroups schema cells)) (hx : x ∈ c.putCells) (hp : p ∈ c.putCells)
    (ha : x.address = p.address) : x = p := by
  obtain ⟨g, a, hg⟩ := mem_putCells.1 hx
  obtain ⟨g', a', hg'⟩ := mem_putCells.1 hp
  rw [hc] at hg hg'
  have placed {g : String} {a : Address} {y : Cell}
      (h : (putsOf (gather (inGroups schema cells)) g).get? a = some y) :
      y.address = a ∧ schema.place y.address = .inGroup g := by
    refine ⟨address_of_get?_putsOf h, ?_⟩
    rw [putsOf_gather, Cell.get?_latestByColumn_eq_some_iff] at h
    exact (mem_inGroups.1 (mem_keptPuts.1 (mem_cellsOf.1 h.2.1)).1).2
  obtain ⟨rfl, hplace⟩ := placed hg
  obtain ⟨rfl, hplace'⟩ := placed hg'
  rw [ha, hplace'] at hplace
  cases hplace
  rw [ha, hg'] at hg
  exact (Option.some.inj hg).symm

theorem mem_merge_at {a : Address} :
    x ∈ c.merge found ∧ x.address = a ↔
      (SortedMap.ofList ((found.filter (·.isPut) ++ c.putCells).map fun p =>
        (p.address, p))).get? a = some x := by
  rw [merge, SortedMap.mem_values]
  constructor
  · rintro ⟨⟨b, hb⟩, rfl⟩
    rwa [(SortedMap.key_of_get?_ofList hb).2]
  · exact fun h => ⟨⟨a, h⟩, (SortedMap.key_of_get?_ofList h).2⟩

theorem mem_merge_of_new (hp : p ∈ c.putCells)
    (hone : ∀ y ∈ c.putCells, y.address = p.address → y = p) :
    x ∈ c.merge found ∧ x.address = p.address ↔ x = p := by
  have hnew : ((c.putCells.map fun y => (y.address, y)).filter (·.1 = p.address)).getLast? =
      some (p.address, p) := by
    have hne : (c.putCells.map fun y => (y.address, y)).filter (·.1 = p.address) ≠ [] :=
      List.ne_nil_of_mem (List.mem_filter.2 ⟨List.mem_map_of_mem hp, by simp⟩)
    obtain ⟨hmem, hat⟩ := List.mem_filter.1 (List.getLast_mem hne)
    obtain ⟨y, hy, he⟩ := List.mem_map.1 hmem
    have ha : y.address = p.address := by simpa [← he] using hat
    rw [List.getLast?_eq_some_getLast hne, ← he, ha, hone y hy ha]
  rw [mem_merge_at, SortedMap.get?_ofList, List.map_append, List.filter_append,
    List.getLast?_append, hnew]
  simp [eq_comm]

/-- A row that ends with its new values: puts alone, in column order and one for each column, and
for a column with a new value that value. -/
structure EndsWith (c : ChangeSet) (cells : List Cell) : Prop where
  puts : ∀ x ∈ cells, x.isPut
  ascending : cells.Pairwise fun a b => compare a.address b.address = .lt
  new : ∀ g diff a p, c.groups.get? g = some diff → diff.puts.get? a = some p →
    ∀ x, x ∈ cells ∧ x.address = a ↔ x = p

theorem endsWith_merge {schema : Schema} {cells : List Cell}
    (hc : c.groups = gather (inGroups schema cells)) (found : List Cell) :
    c.EndsWith (c.merge found) where
  puts x hx := by
    rcases mem_of_mem_merge hx with hx | hx
    · exact (List.mem_filter.1 hx).2
    · exact isPut_of_mem_putCells hc hx
  ascending := SortedMap.values_ofList_ascending _ _
  new g diff a p hg hp x := by
    have hget : (putsOf c.groups g).get? a = some p := by
      rw [putsOf, hg]
      exact hp
    have ha : p.address = a := by
      rw [hc] at hget
      exact address_of_get?_putsOf hget
    have hmem : p ∈ c.putCells := mem_putCells.2 ⟨g, a, hget⟩
    rw [← ha]
    exact mem_merge_of_new hmem fun y hy => eq_of_mem_putCells hc hy hmem

theorem endsWith_of_conclude (hready : ofRow plan window row = .ready c) (hread : c.read ≠ .rescan)
    (found : Option RowCells) :
    ∃ cells, c.conclude found = .ready cells ∧ c.EndsWith cells := by
  rcases ofRow_eq_ready hready with ⟨_, _, rfl⟩ | ⟨_, rfl⟩
  · exact absurd rfl hread
  · have hno : (byCells plan window row).mustRescan = false := Bool.eq_false_iff.2 fun hm =>
      hread (if_pos hm)
    exact ⟨_, conclude_eq_ready hno found, endsWith_merge rfl _⟩

end ChangeSet

namespace Worker

variable {ρ σ : Type} {source : Source ρ} {w : Worker (Nat × ρ) σ} {row : RowCells}
  {r r' : Nat × ρ} {o : Outcome Nat} {calls : List Sink.Call}

theorem reads_of_cellsOf (hw : w.source = source.counted) {cells : Outcome (List Cell)}
    (h : w.cellsOf row r = .ok cells r') : r'.1 ≤ r.1 + 1 := by
  rcases cellsOf_cases w row with ⟨o, hpure⟩ | ⟨c, _, hcomplete⟩
  · rw [hpure] at h
    cases h
    exact Nat.le_succ _
  · have hreads := c.reads_of_complete source w.plan w.window row.key r
    rw [← hw, ← hcomplete, h] at hreads
    dsimp only at hreads
    split at hreads <;> omega

theorem reads_of_turn (hw : w.source = source.counted) (h : Turn w row r r' o calls) :
    r'.1 ≤ r.1 + 1 := by
  cases h with
  | rejected => exact Nat.le_succ _
  | unchanged _ hcells => exact reads_of_cellsOf hw hcells
  | written _ hcells => exact reads_of_cellsOf hw hcells
  | passedOver _ hcells => exact reads_of_cellsOf hw hcells

theorem reads_of_workOn (hplan : w.plan.Sound) (hw : w.source = source.counted) (row : RowCells)
    (st : State (Nat × ρ) σ) :
    match w.workOn row st with
    | .ok _ st' | .error _ st' => st'.source.1 ≤ st.source.1 + 1 := by
  have hworked := workOn_worked hplan row st
  generalize w.workOn row st = result at hworked
  cases hworked with
  | done hturn _ => exact reads_of_turn hw hturn
  | refused hturn _ => exact reads_of_turn hw hturn
  | unread hread _ =>
      obtain ⟨targets, e, hscan, _⟩ := hread
      rw [hw] at hscan
      exact Nat.le_of_eq (Source.reads_of_scan_eq_error hscan)

/-- A row is read once at most, and exactly once where its changes ask for a read, whatever the
source answers. A read that fails gives its error, and after any other read but a rescan the row
ends with its new values. -/
theorem row_read_at_most_once {plan : Plan} (hplan : plan.Built) (window : Window)
    (source : Source ρ) (sink : Sink σ) (row : RowCells) :
    (∀ st, match workOn ⟨plan, window, true, source.counted, sink⟩ row st with
      | .ok _ st' | .error _ st' => st'.source.1 ≤ st.source.1 + 1) ∧
    ∀ c, ChangeSet.ofRow plan window row = .ready c →
      (c.mustRescan = false ∨ c.backfill = []) ∧
      ∀ key,
        (∀ r, match c.complete source.counted plan window key r with
          | .ok _ r' | .error _ r' => r'.1 = r.1 + if c.read = .nothing then 0 else 1) ∧
        (∀ targets r e r', c.request? plan = some targets →
          source.scan key targets window.toEnd r = .error e r' →
            c.complete source plan window key r = .error (e.atRow key) r') ∧
        (c.read ≠ .rescan → ∀ r o r', c.complete source plan window key r = .ok o r' →
          ∃ cells, o = .ready cells ∧ c.EndsWith cells) := by
  refine ⟨fun st => reads_of_workOn hplan.sound rfl row st, fun c hready => ⟨?_, fun key => ?_⟩⟩
  · exact ChangeSet.mustRescan_eq_false_or_backfill_eq_nil hready
  refine ⟨fun r => c.reads_of_complete source plan window key r, ?_, ?_⟩
  · intro targets r e r' hask hscan
    rw [ChangeSet.complete_of_request hask, hscan]
  · intro hread r o r' hcomplete
    rcases complete_cases c source plan window key r with
      ⟨found, r₁, hdone, _⟩ | ⟨_, e, r₁, _, hfails⟩
    · cases hdone.symm.trans hcomplete
      exact ChangeSet.endsWith_of_conclude hready hread found
    · cases hfails.symm.trans hcomplete

private def staleSource : Source Unit :=
  ⟨fun key _ _ => pure (some ⟨key, [⟨"D", 5, .put (Text.Utf8.encode "RC1") (Text.Utf8.encode "a")⟩,
    ⟨"D", 10, .put (Text.Utf8.encode "SR1") (Text.Utf8.encode "N")⟩,
    ⟨"D", 20, .put (Text.Utf8.encode "SR1") (Text.Utf8.encode "Y")⟩,
    ⟨"D", 30, .deleteColumn (Text.Utf8.encode "SR1")⟩]⟩)⟩

private def renewedLine : Cell := ⟨"D", 60, .put (Text.Utf8.encode "RC1") (Text.Utf8.encode "b")⟩

private def lineDiff : ChangeSet := ChangeSet.ofCells .invoices .empty false none [renewedLine]

theorem renewed_line_read_once :
    Plan.invoices.Built ∧
      ChangeSet.ofRow .invoices ⟨50, 200⟩ ⟨[107], [renewedLine]⟩ = .ready lineDiff ∧
      lineDiff.read = .backfill [⟨"D", Text.Utf8.encode "SR1"⟩] ∧
      (∃ st', workOn ⟨.invoices, ⟨50, 200⟩, true, staleSource.counted, KeepingSink.sink⟩
          ⟨[107], [renewedLine]⟩ { source := (0, ()), sink := {} } = .ok (.ready 1) st' ∧
        st'.source.1 = 1 ∧ st'.source.1 ≤ 0 + 1) ∧
      lineDiff.complete staleSource .invoices ⟨50, 200⟩ [107] () = .ok (.ready
        [renewedLine, ⟨"D", 20, .put (Text.Utf8.encode "SR1") (Text.Utf8.encode "Y")⟩]) () ∧
      lineDiff.EndsWith
        [renewedLine, ⟨"D", 20, .put (Text.Utf8.encode "SR1") (Text.Utf8.encode "Y")⟩] := by
  have hready : ChangeSet.ofRow .invoices ⟨50, 200⟩ ⟨[107], [renewedLine]⟩ = .ready lineDiff := by
    decide
  have honce := row_read_at_most_once Plan.invoices_built ⟨50, 200⟩ staleSource KeepingSink.sink
    ⟨[107], [renewedLine]⟩
  have hread : lineDiff.read = .backfill [⟨"D", Text.Utf8.encode "SR1"⟩] := by decide
  obtain ⟨cells, hcells, hends⟩ := ((honce.2 lineDiff hready).2 [107]).2.2
    (by rw [hread]; nofun) () _ () rfl
  cases hcells
  exact ⟨Plan.invoices_built, hready, hread,
    ⟨_, rfl, rfl, honce.1 { source := (0, ()), sink := {} }⟩, rfl, hends⟩

end Worker

end WideRow
