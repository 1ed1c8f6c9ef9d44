import WideRow.Proofs.AuthorizedMembers

namespace WideRow

namespace DocumentColumn

variable {d : DocumentColumn} {above below : List String}

theorem opensBelow_of_allows (ha : above ≠ []) (hb : below ≠ [])
    (h : d.allows (pathText (above ++ below))) : d.opensBelow (pathText above) := by
  rw [opensBelow_iff]
  refine ⟨_, allows_iff.1 h, startsWith_iff.2 ?_⟩
  rw [pathText, pathText, Text.join, Text.join, String.intercalate_append_of_ne_nil ha hb,
    String.toList_append (s := _ ++ _)]
  exact List.prefix_append _ _

end DocumentColumn

namespace Document

variable {d : DocumentColumn} {path : List String} {name : String} {node : Node}
  {items : List Node} {members : List (String × Node)} {y : Yield} {rows : List Row}
  {place : Place} {site : Site} {value : Option String} {w : Way}

theorem exists_memberYield_of_mem (h : yield d path members = .ok y)
    (hmem : (name, node) ∈ members) : ∃ z, memberYield d (path ++ [name]) node = .ok z := by
  induction members generalizing y with
  | nil => cases hmem
  | cons m members ih =>
      obtain ⟨a, b, ha, hb, _⟩ := yield_cons h
      rcases List.mem_cons.1 hmem with rfl | hmem
      · exact ⟨a, ha⟩
      · exact ih hb hmem

theorem exists_yield_of_mem (hbranches : items.all (·.isBranch) = true)
    (h : elementRows d path items = .ok rows) (hmem : node ∈ items) :
    ∃ members y, node = .branch members ∧ yield d path members = .ok y := by
  induction items generalizing rows with
  | nil => cases hmem
  | cons item items ih =>
      rw [List.all_cons, Bool.and_eq_true] at hbranches
      cases item with
      | scalar _ => exact absurd hbranches.1 nofun
      | list _ => exact absurd hbranches.1 nofun
      | branch members =>
          obtain ⟨y, rest, hy, hrest, _⟩ := elementRows_cons h
          rcases List.mem_cons.1 hmem with rfl | hmem
          · exact ⟨members, y, rfl, hy⟩
          · exact ih hbranches.2 hrest hmem

theorem memberYield_of_opens (h : d.opensBelow (DocumentColumn.pathText path)) :
    (∀ members, memberYield d path (.branch members) = do
      let y ← yield d path members
      return { nested := present y.rows }) ∧
    ∀ items : List Node, items.all (·.isBranch) → memberYield d path (.list items) = do
      let rows ← elementRows d path items
      return { listed := present rows } := by
  constructor
  · intro members
    rw [memberYield, if_pos h]
  · intro items hbranches
    rw [memberYield, if_pos hbranches, if_pos h]

theorem included_of_holds (h : node.Holds place value) (hy : memberYield d path node = .ok y)
    (hpath : path ≠ []) (hallows : d.allows (DocumentColumn.pathText (path ++ names place))) :
    Included d path node ⟨place, value⟩ := by
  induction h generalizing path y with
  | scalar =>
      rw [names, List.append_nil] at hallows
      exact .scalar (.inr (DocumentColumn.allows_iff.1 hallows))
  | @member members name node place value hmem hnode ih =>
      have hopens := DocumentColumn.opensBelow_of_allows hpath (List.cons_ne_nil _ _) hallows
      obtain ⟨hclosed, _⟩ | ⟨_, z, hz, _⟩ := memberYield_branch hy
      · rw [hopens] at hclosed
        cases hclosed
      · obtain ⟨a, ha⟩ := exists_memberYield_of_mem hz hmem
        refine .member (isOpen_iff.2 (.inr hopens)) hmem (ih ha (by simp) ?_)
        rwa [List.append_assoc]
  | @element items i node place value hi hnode ih =>
      have hmem := List.mem_of_getElem? hi
      obtain ⟨hbranches, hcases⟩ | ⟨hscalars, _⟩ := memberYield_list hy
      · -- an element is an object, so that there is a name on the way through it
        have hbranch : node.isBranch := List.all_eq_true.1 hbranches node hmem
        have hnames : names place ≠ [] := by
          cases node with
          | scalar _ => cases hbranch
          | list _ => cases hbranch
          | branch members => exact names_ne_nil_of_holds hnode
        have hopens := DocumentColumn.opensBelow_of_allows hpath hnames hallows
        obtain ⟨hclosed, _⟩ | ⟨_, rows, hrows, _⟩ := hcases
        · rw [hopens] at hclosed
          cases hclosed
        · obtain ⟨members, z, rfl, hz⟩ := exists_yield_of_mem hbranches hrows hmem
          have hmember : memberYield d path (.branch members) =
              .ok { nested := present z.rows } := by
            rw [(memberYield_of_opens hopens).1, hz]
            rfl
          exact .element (.inl hbranches) hi (ih hmember hpath hallows)
      · have hscalar : node.isScalar := List.all_eq_true.1 hscalars node hmem
        cases node with
        | scalar value => exact .element (.inr hscalars) hi (ih rfl hpath hallows)
        | list _ => cases hscalar
        | branch _ => cases hscalar

theorem exists_taken_of_mem (hdistinct : (Node.branch members).Distinct) (hopen : IsOpen d path)
    (hmem : (name, node) ∈ members) (hw : w ∈ ways d (path ++ [name]) node)
    (hsite : site ∈ w.taken) :
    ∃ v ∈ memberWays d path members, site.under (.member name) ∈ v.taken := by
  induction members with
  | nil => cases hmem
  | cons m members ih =>
      obtain ⟨first, value⟩ := m
      rw [memberWays]
      rcases List.mem_cons.1 hmem with he | hmem
      · cases he
        have hrest := lists_memberWays path members hdistinct.rest hopen
        obtain ⟨v, hv⟩ := List.exists_mem_of_ne_nil _ hrest.ne_nil
        exact ⟨_, mem_besides.2 ⟨w, hw, v, hv, rfl⟩,
          List.mem_append_left _ (mem_map_under.2 ⟨site, hsite, rfl⟩)⟩
      · have hfirst := lists_ways (d := d) (path ++ [first]) value
          (hdistinct.of_member List.mem_cons_self)
        obtain ⟨u, hu⟩ := List.exists_mem_of_ne_nil _ hfirst.ne_nil
        obtain ⟨v, hv, hin⟩ := ih hdistinct.rest hmem
        exact ⟨_, mem_besides.2 ⟨u, hu, v, hv, rfl⟩, List.mem_append_right _ hin⟩

/-- A scalar that is put out is taken on one of the ways. The elements of other lists beside it do
not matter: each member has a way, and any of them will do. -/
theorem Included.exists_way (h : Included d path node site) (hdistinct : node.Distinct) :
    ∃ w ∈ ways d path node, site ∈ w.taken := by
  induction h with
  | scalar hshown =>
      rw [ways, if_pos (isShown_iff.1 hshown)]
      exact ⟨_, List.mem_singleton_self _, List.mem_singleton_self _⟩
  | @member path members name node site hopen hmem _ ih =>
      obtain ⟨w, hw, hsite⟩ := ih (hdistinct.of_member hmem)
      rw [ways, if_pos (by simpa using isOpen_iff.1 hopen)]
      exact exists_taken_of_mem hdistinct hopen hmem hw hsite
  | @element path items i node site huniform hi _ ih =>
      obtain ⟨w, hw, hsite⟩ := ih (hdistinct.of_element (List.mem_of_getElem? hi))
      have hmem : w.ofElement (0 + i) ∈ elementWays d path 0 items :=
        mem_elementWays.2 ⟨i, node, w, hi, hw, List.ne_nil_of_mem hsite, rfl⟩
      have hne : (elementWays d path 0 items).isEmpty = false := by
        simpa using List.ne_nil_of_mem hmem
      rw [ways, if_pos (isUniform_iff.1 huniform), orEmpty, hne]
      refine ⟨_, hmem, mem_map_under.2 ⟨site, hsite, ?_⟩⟩
      rw [Nat.zero_add]

theorem Included.exists_row {y : Yield} (h : Included d [] (.branch members) site)
    (hdistinct : (Node.branch members).Distinct) (hy : yield d [] members = .ok y) :
    ∃ row ∈ y.rows, site.item [] ∈ row := by
  obtain ⟨w, hw, hsite⟩ := h.exists_way hdistinct
  have hitem : site.item [] ∈ w.row [] := List.mem_map_of_mem hsite
  have hrow : w.row [] ∈ ((memberWays d [] members).map (Way.row [])).filter (!·.isEmpty) := by
    refine List.mem_filter.2 ⟨List.mem_map_of_mem hw, ?_⟩
    simpa using List.ne_nil_of_mem hitem
  obtain ⟨row, hrow, hperm⟩ := exists_perm_of_bag (bag_rows hy).symm hrow
  exact ⟨row, hrow, hperm.mem_iff.1 hitem⟩

theorem exists_row_of_authorized {s : String} (h : flatten d s = .ok rows) :
    ∃ doc, read? s = some doc ∧ ∀ place value, doc.Holds place value →
      d.allows (DocumentColumn.pathText (names place)) →
        ∃ row ∈ rows, item (names place) value ∈ row := by
  obtain ⟨members, y, hread, hy, rfl⟩ := flatten_eq_ok h
  refine ⟨.branch members, hread, fun place value hholds hallows => ?_⟩
  have hincluded : Included d [] (.branch members) ⟨place, value⟩ := by
    cases hholds with
    | @member _ name node place _ hmem hnode =>
        obtain ⟨z, hz⟩ := exists_memberYield_of_mem hy hmem
        exact .member (.inl rfl) hmem (included_of_holds hnode hz (List.cons_ne_nil _ _) hallows)
  exact hincluded.exists_row (Node.distinct_of_read? hread) hy

/-- Whether a path lies below is told exactly, so that every object on the way to an authorized
member is walked through, and what is found at the member is in one of the rows. The document itself
is walked through without a test. -/
theorem authorized_reached (d : DocumentColumn) :
    (∀ path, d.opensBelow path ↔ ∃ p ∈ d.paths.members, (path ++ ">").toList <+: p.toList) ∧
    (∀ above below, above ≠ [] → below ≠ [] →
      d.allows (DocumentColumn.pathText (above ++ below)) →
        d.opensBelow (DocumentColumn.pathText above) ∧
        (∀ members, memberYield d above (.branch members) = do
          let y ← yield d above members
          return { nested := present y.rows }) ∧
        ∀ items : List Node, items.all (·.isBranch) → memberYield d above (.list items) = do
          let rows ← elementRows d above items
          return { listed := present rows }) ∧
    ∀ s rows, flatten d s = .ok rows → ∃ doc, read? s = some doc ∧ ∀ place value,
      doc.Holds place value → d.allows (DocumentColumn.pathText (names place)) →
        ∃ row ∈ rows, item (names place) value ∈ row := by
  refine ⟨fun path => ?_, fun above below ha hb hallows => ?_,
    fun s rows h => exists_row_of_authorized h⟩
  · simp only [DocumentColumn.opensBelow_iff, startsWith_iff, DocumentColumn.pathMark]
  · have hopens := DocumentColumn.opensBelow_of_allows ha hb hallows
    exact ⟨hopens, memberYield_of_opens hopens⟩

private def accented : DocumentColumn := ⟨"M", "DOC", .ofList ["éa>b", "é>à>x", "é!"]⟩

private def accentedText : String :=
  "\x7b\"é\":\x7b\"à\":[\x7b\"x\":\"1\"\x7d,\x7b\"x\":\"2\"\x7d],\"q\":\"3\"\x7d\x7d"

private def accentedRows : List Row := [[⟨"é_à_x", some "1"⟩], [⟨"é_à_x", some "2"⟩]]

theorem accented_member_reached :
    accented.opensBelow "é" ∧ accented.opensBelow "é>à" ∧ accented.opensBelow "éa>b" = false ∧
      flatten accented accentedText = .ok accentedRows ∧
      ∃ doc, read? accentedText = some doc ∧ ∀ place value, doc.Holds place value →
        accented.allows (DocumentColumn.pathText (names place)) →
          ∃ row ∈ accentedRows, item (names place) value ∈ row := by
  obtain ⟨hbelow, hopens, hreached⟩ := authorized_reached accented
  have hallows : accented.allows (DocumentColumn.pathText ["é", "à", "x"]) := by decide +kernel
  have hrows : flatten accented accentedText = .ok accentedRows := by decide +kernel
  have hclosed : accented.opensBelow "éa>b" = false :=
    Bool.eq_false_iff.2 (mt (hbelow "éa>b").1 (by decide +kernel))
  have houter := hopens ["é"] ["à", "x"] (List.cons_ne_nil _ _) (List.cons_ne_nil _ _) hallows
  have hinner := hopens ["é", "à"] ["x"] (List.cons_ne_nil _ _) (List.cons_ne_nil _ _) hallows
  exact ⟨houter.1, hinner.1, hclosed, hrows, hreached _ _ hrows⟩

end Document

end WideRow
