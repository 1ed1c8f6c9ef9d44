import Mathlib.Data.List.Perm.Basic
import Mathlib.Data.Multiset.Bind
import WideRow.Proofs.FlatRows
import WideRow.Proofs.Ways

namespace WideRow.Document

/-- Rows without regard to their order and to that of the items in them. -/
def bag (rows : List Row) : Multiset (Multiset Item) :=
  (Multiset.ofList rows).map Multiset.ofList

def times (s t : Multiset (Multiset Item)) : Multiset (Multiset Item) :=
  s.bind fun a => t.map fun b => a + b

theorem times_comm (s t : Multiset (Multiset Item)) : times s t = times t s := by
  rw [times, Multiset.bind_map_comm]
  simp only [times, add_comm]

theorem times_assoc (s t u : Multiset (Multiset Item)) :
    times (times s t) u = times s (times t u) := by
  simp only [times, Multiset.bind_assoc, Multiset.bind_map, Multiset.map_bind, Multiset.map_map,
    Function.comp_def, add_assoc]

theorem one_times (s : Multiset (Multiset Item)) : times {0} s = s := by
  simp [times]

theorem times_one (s : Multiset (Multiset Item)) : times s {0} = s := by
  rw [times_comm, one_times]

instance : Std.Commutative times := ⟨times_comm⟩

instance : Std.Associative times := ⟨times_assoc⟩

theorem bag_append (l r : List Row) : bag (l ++ r) = bag l + bag r := by
  rw [bag, ← Multiset.coe_add, Multiset.map_add, bag, bag]

theorem bag_eq_zero {rows : List Row} : bag rows = 0 ↔ rows = [] := by
  rw [bag, Multiset.map_eq_zero, Multiset.coe_eq_zero]

theorem bag_cons (row : Row) (rows : List Row) :
    bag (row :: rows) = (row : Multiset Item) ::ₘ bag rows := by
  rw [bag, ← Multiset.cons_coe, Multiset.map_cons, bag]

theorem bag_product (l r : List Row) : bag (product l r) = times (bag l) (bag r) := by
  have hproduct : (product l r : Multiset Row) =
      (l : Multiset Row).bind fun a => (r : Multiset Row).map fun b => a ++ b :=
    (Multiset.coe_bind l fun a => r.map (a ++ ·)).symm
  rw [bag, hproduct, Multiset.map_bind, times, bag, Multiset.bind_map]
  simp only [bag, Multiset.map_map, Function.comp_def, Multiset.coe_add]

theorem bag_filter (rows : List Row) :
    bag (rows.filter fun row => !row.isEmpty) = (bag rows).filter (· ≠ 0) := by
  induction rows with
  | nil => rfl
  | cons row rows ih =>
      rw [bag_cons]
      cases row with
      | nil =>
          rw [Multiset.filter_cons_of_neg _ (by simp), ← ih]
          rfl
      | cons i row =>
          rw [Multiset.filter_cons_of_pos _ (by simp), ← ih, ← bag_cons]
          rfl

def bagAll (parts : List (List Row)) : Multiset (Multiset Item) := (parts.map bag).foldr times {0}

theorem bagAll_append (parts parts' : List (List Row)) :
    bagAll (parts ++ parts') = times (bagAll parts) (bagAll parts') := by
  induction parts with
  | nil => exact (one_times _).symm
  | cons part parts ih => exact (congrArg (times (bag part)) ih).trans (times_assoc _ _ _).symm

theorem bag_foldl_product (parts : List (List Row)) (first : List Row) :
    bag (parts.foldl product first) = times (bag first) (bagAll parts) := by
  induction parts generalizing first with
  | nil => exact (times_one _).symm
  | cons part parts ih => rw [List.foldl_cons, ih, bag_product, times_assoc]; rfl

namespace Yield

variable {y : Yield}

theorem bag_combined (y : Yield) :
    bag y.combined = times (bag [y.fields]) (times (bagAll y.nested) (bagAll y.listed)) := by
  rw [combined, bag_foldl_product, bagAll_append]

theorem bag_combined_append (a b : Yield) :
    bag (a.append b).combined = times (bag a.combined) (bag b.combined) := by
  have hfields : bag [a.fields ++ b.fields] = times (bag [a.fields]) (bag [b.fields]) :=
    bag_product [a.fields] [b.fields]
  simp only [bag_combined, append, bagAll_append, hfields]
  ac_rfl

theorem foldl_present (rows : List Row) :
    (present rows).foldl product [[]] = if rows.isEmpty then [[]] else rows := by
  rw [present]
  split <;> simp [product]

theorem combined_nested (rows : List Row) :
    combined { nested := present rows } = if rows.isEmpty then [[]] else rows := by
  rw [combined, List.append_nil, foldl_present]

theorem combined_listed (rows : List Row) :
    combined { listed := present rows } = if rows.isEmpty then [[]] else rows := by
  rw [combined, List.nil_append, foldl_present]

theorem Sound.combined_ne_nil (h : y.Sound) : y.combined ≠ [] := by
  have hparts {parts : List (List Row)} (hparts : ∀ rows ∈ parts, rows ≠ []) {first : List Row}
      (hfirst : first ≠ []) : parts.foldl product first ≠ [] := by
    induction parts generalizing first with
    | nil => exact hfirst
    | cons part parts ih =>
        refine ih (fun rows hrows => hparts rows (List.mem_cons_of_mem part hrows)) ?_
        obtain ⟨a, ha⟩ := List.exists_mem_of_ne_nil first hfirst
        obtain ⟨b, hb⟩ := List.exists_mem_of_ne_nil part (hparts part List.mem_cons_self)
        exact List.ne_nil_of_mem (mem_product.2 ⟨a, ha, b, hb, rfl⟩)
  exact hparts (fun rows hrows => (h rows hrows).1) (List.cons_ne_nil y.fields [])

/-- Nothing is lost where the rows of an object are handed on. -/
theorem Sound.combined_nested (h : y.Sound) :
    combined { nested := present y.rows } = y.combined := by
  have hrows : y.rows = if y.combined = [[]] then [] else y.combined := rfl
  rw [Yield.combined_nested, hrows]
  by_cases hempty : y.combined = [[]]
  · simp [hempty]
  · simp [hempty, h.combined_ne_nil]

end Yield

def Way.row (path : List String) (w : Way) : Row := w.taken.map (Site.item path)

variable {d : DocumentColumn} {path : List String} {name : String} {node : Node}
  {items : List Node} {members : List (String × Node)} {ws rest : List Way} {w : Way} {k : Nat}

theorem Way.row_beside (path : List String) (name : String) (w w' : Way) :
    (w.beside name w').row path = w.row (path ++ [name]) ++ w'.row path := by
  simp [Way.row, Way.beside, Site.item, Site.under, names, Function.comp_def]

theorem Way.row_ofElement (path : List String) (i : Nat) (w : Way) :
    (w.ofElement i).row path = w.row path := by
  simp [Way.row, Way.ofElement, Site.item, Site.under, names, Function.comp_def]

theorem map_row_besides (path : List String) (name : String) (ws rest : List Way) :
    (ws.flatMap fun w => rest.map (w.beside name)).map (Way.row path) =
      product (ws.map (Way.row (path ++ [name]))) (rest.map (Way.row path)) := by
  simp [product, List.map_flatMap, List.flatMap_map, Function.comp_def, Way.row_beside]

theorem map_row_elements (path : List String) (i : Nat) (ws : List Way) :
    (((ws.filter (!·.taken.isEmpty)).map (·.ofElement i)).map (Way.row path)) =
      (ws.map (Way.row path)).filter fun row => !row.isEmpty := by
  have hrow : Way.row path ∘ Way.ofElement i = Way.row path := funext (Way.row_ofElement path i)
  have hempty : ((fun row => !row.isEmpty) ∘ Way.row path) = fun w => !w.taken.isEmpty := by
    funext w
    simp [Way.row]
  rw [List.map_map, hrow, List.filter_map, hempty]

theorem map_row_orEmpty (path : List String) (ws : List Way) :
    (orEmpty ws).map (Way.row path) =
      if (ws.map (Way.row path)).isEmpty then [[]] else ws.map (Way.row path) := by
  rw [orEmpty]
  cases ws <;> simp [Way.row, Way.empty]

theorem map_row_scalars (hscalars : items.all (·.isScalar) = true) :
    (elementWays d path k items).map (Way.row path) =
      if isIncluded d path then scalarRows path items else [] := by
  induction items generalizing k with
  | nil => simp [elementWays, scalarRows]
  | cons node items ih =>
      rw [List.all_cons, Bool.and_eq_true] at hscalars
      rw [elementWays, List.map_append, map_row_elements, ih hscalars.2]
      cases node with
      | scalar value =>
          cases hincluded : isIncluded d path
          · simp [ways, hincluded, Way.row]
          · simp [ways, hincluded, Way.row, scalarRows, Site.item, names]
      | list _ => simp [Node.isScalar] at hscalars
      | branch _ => simp [Node.isScalar] at hscalars

theorem elementWays_closed (hbranches : items.all (·.isBranch) = true) (hpath : path ≠ [])
    (hclosed : d.opensBelow (DocumentColumn.pathText path) = false) :
    elementWays d path k items = [] := by
  induction items generalizing k with
  | nil => rfl
  | cons node items ih =>
      rw [List.all_cons, Bool.and_eq_true] at hbranches
      rw [elementWays, ih hbranches.2]
      cases node with
      | scalar _ => simp [Node.isBranch] at hbranches
      | list _ => simp [Node.isBranch] at hbranches
      | branch members => simp [ways, hclosed, hpath, Way.empty]

theorem ite_isEmpty_congr {rows rows' : List Row} (h : bag rows = bag rows') :
    bag (if rows.isEmpty then [[]] else rows) = bag (if rows'.isEmpty then [[]] else rows') := by
  have hnil : rows = [] ↔ rows' = [] := by rw [← bag_eq_zero, h, bag_eq_zero]
  by_cases hrows : rows = []
  · rw [hrows, hnil.1 hrows]
  · simpa [hrows, mt hnil.2 hrows] using h

mutual

/-- The rows of a member are those of its ways. -/
theorem bag_memberYield (path : List String) (node : Node) {y : Yield} (hpath : path ≠ [])
    (h : memberYield d path node = .ok y) :
    bag y.combined = bag ((ways d path node).map (Way.row path)) := by
  match node with
  | .scalar value =>
      cases h
      cases hincluded : isIncluded d path <;>
        simp [ways, hincluded, Yield.combined, Way.row, Site.item, names]
  | .branch members =>
      obtain ⟨hclosed, rfl⟩ | ⟨hopen, z, hz, rfl⟩ := memberYield_branch h
      · simp [ways, hclosed, hpath, Yield.combined, Way.row, Way.empty]
      · rw [(sound_yield path members hz).combined_nested, bag_yield path members hz]
        simp [ways, hopen]
  | .list items =>
      obtain ⟨hbranches, ⟨hclosed, rfl⟩ | ⟨hopen, rows, hrows, rfl⟩⟩ | ⟨hscalars, rfl⟩ :=
        memberYield_list h
      · simp [ways, elementWays_closed hbranches hpath hclosed, orEmpty, hbranches, Yield.combined,
          Way.row, Way.empty]
      · rw [ways, hbranches, Bool.true_or, if_pos rfl, map_row_orEmpty, Yield.combined_listed]
        exact ite_isEmpty_congr (bag_elementRows path items hpath hopen hbranches 0 hrows)
      · rw [ways, hscalars, Bool.or_true, if_pos rfl, map_row_orEmpty, map_row_scalars hscalars]
        split
        · rw [Yield.combined_listed]
        · simp [Yield.combined]

theorem bag_yield (path : List String) (members : List (String × Node)) {y : Yield}
    (h : yield d path members = .ok y) :
    bag y.combined = bag ((memberWays d path members).map (Way.row path)) := by
  match members with
  | [] =>
      cases h
      simp [memberWays, Yield.combined, Way.row, Way.empty]
  | (name, node) :: members =>
      obtain ⟨a, b, ha, hb, rfl⟩ := yield_cons h
      rw [memberWays, map_row_besides, bag_product, Yield.bag_combined_append,
        bag_memberYield (path ++ [name]) node (by simp) ha, bag_yield path members hb]

theorem bag_elementRows (path : List String) (items : List Node) {rows : List Row}
    (hpath : path ≠ []) (hopen : d.opensBelow (DocumentColumn.pathText path) = true)
    (hbranches : items.all (·.isBranch) = true) (k : Nat)
    (h : elementRows d path items = .ok rows) :
    bag rows = bag ((elementWays d path k items).map (Way.row path)) := by
  match items with
  | [] =>
      cases h
      rfl
  | .branch members :: items =>
      obtain ⟨y, rest, hy, hrest, rfl⟩ := elementRows_cons h
      rw [List.all_cons, Bool.and_eq_true] at hbranches
      -- the rows of an element lack the empty one, its ways those on which nothing is taken
      rw [elementWays, List.map_append, map_row_elements, bag_append, bag_append, bag_filter,
        (sound_yield path members hy).rows_eq, bag_filter, bag_yield path members hy,
        bag_elementRows path items hpath hopen hbranches.2 (k + 1) hrest]
      simp [ways, hopen]
  | .scalar _ :: items => simp [Node.isBranch] at hbranches
  | .list _ :: items => simp [Node.isBranch] at hbranches

end

theorem forall₂_of_bag {α : Type} {as : List α} {f : α → Row} {rows : List Row}
    (h : bag rows = bag (as.map f)) :
    ∃ as' : List α, as'.Perm as ∧ List.Forall₂ (fun a row => row.Perm (f a)) as' rows := by
  have hperm : (rows.map Multiset.ofList).Perm ((as.map f).map Multiset.ofList) :=
    Multiset.coe_eq_coe.1 h
  have hself : List.Forall₂ (fun s a => s = Multiset.ofList (f a))
      ((as.map f).map Multiset.ofList) as := by
    rw [List.forall₂_map_left_iff, List.forall₂_map_left_iff, List.forall₂_same]
    exact fun _ _ => rfl
  obtain ⟨as', hall, has⟩ := List.perm_comp_forall₂ hperm hself
  refine ⟨as', has, .flip ?_⟩
  exact (List.forall₂_map_left_iff.1 hall).imp fun row a he => Multiset.coe_eq_coe.1 he

/-- The row holds each scalar that is put out on the choice, and nothing else. -/
def IsRowOf (d : DocumentColumn) (doc : Node) (c : Choice) (row : Row) : Prop :=
  ∃ sites : List Site, (sites.map (·.place)).Nodup ∧
    (∀ site, site ∈ sites ↔ Included d [] doc site ∧ On c site.place) ∧
    row.Perm (sites.map (Site.item []))

theorem Lists.isRowOf (h : Lists d [] node ws) (hw : w ∈ ws) {row : Row}
    (hrow : row.Perm (w.row [])) : IsRowOf d node w.choice row :=
  ⟨w.taken, h.apart w hw, h.taken_iff w hw, hrow⟩

theorem bag_rows {y : Yield} (h : yield d [] members = .ok y) :
    bag y.rows =
      bag (((memberWays d [] members).map (Way.row [])).filter fun row => !row.isEmpty) := by
  rw [(sound_yield [] members h).rows_eq, bag_filter, bag_filter, bag_yield [] members h]

theorem Lists.rows_eq_nil_iff (h : Lists d [] node ws) :
    (ws.map (Way.row [])).filter (fun row => !row.isEmpty) = [] ↔
      ¬∃ site, Included d [] node site := by
  constructor
  · intro hrows hsome
    obtain ⟨w, hw⟩ := List.exists_mem_of_ne_nil ws h.ne_nil
    have hrow := List.filter_eq_nil_iff.1 hrows (w.row []) (List.mem_map_of_mem hw)
    exact h.filled hsome w hw (by simpa [Way.row] using hrow)
  · intro hnone
    refine List.filter_eq_nil_iff.2 fun row hrow => ?_
    obtain ⟨w, hw, rfl⟩ := List.mem_map.1 hrow
    have htaken : w.taken = [] := List.eq_nil_iff_forall_not_mem.2 fun site hsite =>
      hnone ⟨site, ((h.taken_iff w hw site).1 hsite).1⟩
    simp [Way.row, htaken]

theorem Lists.filter_rows (h : Lists d [] node ws) (hsome : ∃ site, Included d [] node site) :
    (ws.map (Way.row [])).filter (fun row => !row.isEmpty) = ws.map (Way.row []) := by
  refine List.filter_eq_self.2 fun row hrow => ?_
  obtain ⟨w, hw, rfl⟩ := List.mem_map.1 hrow
  simpa [Way.row] using h.filled hsome w hw

/-- A document that is flattened has one row for every choice in it, unless nothing in it is put
out: then it has no rows. No row is empty. -/
theorem exists_choices_of_flatten {s : String} {rows : List Row} (h : flatten d s = .ok rows) :
    ∃ doc, read? s = some doc ∧ [] ∉ rows ∧ (rows = [] ↔ ¬∃ site, Included d [] doc site) ∧
      ((∃ site, Included d [] doc site) → ∃ choices : List Choice, choices.Nodup ∧
        (∀ c, c ∈ choices ↔ IsChoice d [] doc c) ∧
        List.Forall₂ (IsRowOf d doc) choices rows) := by
  have hempty := not_mem_flatten h
  obtain ⟨members, y, hread, hy, rfl⟩ := flatten_eq_ok h
  have hlists := lists_memberWays [] members (Node.distinct_of_read? hread) (.inl rfl : IsOpen d [])
  have hbag := bag_rows hy
  refine ⟨.branch members, hread, hempty, ?_, fun hsome => ?_⟩
  · rw [← bag_eq_zero, hbag, bag_eq_zero, hlists.rows_eq_nil_iff]
  · rw [hlists.filter_rows hsome] at hbag
    obtain ⟨ws, hperm, hrows⟩ := forall₂_of_bag hbag
    refine ⟨ws.map (·.choice), (hperm.map _).nodup_iff.2 hlists.nodup, fun c => ?_, ?_⟩
    · rw [(hperm.map _).mem_iff, List.mem_map, hlists.choice_iff]
    · have hall := (List.forall₂_and_left _ _).2 ⟨fun w hw => hperm.mem_iff.1 hw, hrows⟩
      exact List.forall₂_map_left_iff.2 (hall.imp fun w row hw => hlists.isRowOf hw.1 hw.2)

private def order : DocumentColumn := ⟨"M", "DOC", .ofList ["lines>n", "lines>tags"]⟩

private def twoLines : String :=
  "\x7b\"id\":\"7\",\"lines\":[\x7b\"n\":\"1\",\"tags\":[\"a\",\"b\"]\x7d,\x7b\"n\":\"2\"\x7d]\x7d"

private def twoLinesRows : List Row :=
  [[⟨"id", some "7"⟩, ⟨"lines_n", some "1"⟩, ⟨"lines_tags", some "a"⟩],
    [⟨"id", some "7"⟩, ⟨"lines_n", some "1"⟩, ⟨"lines_tags", some "b"⟩],
    [⟨"id", some "7"⟩, ⟨"lines_n", some "2"⟩]]

theorem twoLines_choices :
    flatten order twoLines = .ok twoLinesRows ∧
      ∃ doc, read? twoLines = some doc ∧ [] ∉ twoLinesRows ∧
        (twoLinesRows = [] ↔ ¬∃ site, Included order [] doc site) ∧
        ((∃ site, Included order [] doc site) → ∃ choices : List Choice, choices.Nodup ∧
          (∀ c, c ∈ choices ↔ IsChoice order [] doc c) ∧
          List.Forall₂ (IsRowOf order doc) choices twoLinesRows) := by
  have hrows : flatten order twoLines = .ok twoLinesRows := by decide +kernel
  exact ⟨hrows, exists_choices_of_flatten hrows⟩

end WideRow.Document
