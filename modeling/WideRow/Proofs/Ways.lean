import Mathlib.Data.List.Nodup
import Mathlib.Data.List.ProdSigma
import WideRow.Proofs.Choices

namespace WideRow

inductive Node.Distinct : Node → Prop where
  | scalar {value : Option String} : Distinct (.scalar value)
  | list {items : List Node} : (∀ node ∈ items, node.Distinct) → Distinct (.list items)
  | branch {members : List (String × Node)} :
      (members.map (·.1)).Nodup → (∀ m ∈ members, m.2.Distinct) → Distinct (.branch members)

namespace Node.Distinct

variable {members : List (String × Node)} {m : String × Node} {items : List Node} {node : Node}

theorem rest (h : (Node.branch (m :: members)).Distinct) : (Node.branch members).Distinct := by
  cases h with
  | branch hnames hmembers =>
      exact .branch (List.nodup_cons.1 hnames).2 fun n hn => hmembers n (List.mem_cons_of_mem m hn)

theorem of_member (h : (Node.branch members).Distinct) (hm : m ∈ members) : m.2.Distinct := by
  cases h with
  | branch _ hmembers => exact hmembers m hm

theorem of_element (h : (Node.list items).Distinct) (hnode : node ∈ items) : node.Distinct := by
  cases h with
  | list hitems => exact hitems node hnode

end Node.Distinct

namespace Document

/-- A choice with the scalars that are put out on it. -/
structure Way where
  choice : Choice
  taken : List Site

namespace Way

def empty : Way := ⟨fun _ => none, []⟩

def ofElement (i : Nat) (w : Way) : Way :=
  ⟨.ofElement i w.choice, w.taken.map (·.under (.element i))⟩

def beside (name : String) (w rest : Way) : Way :=
  ⟨.beside name w.choice rest.choice, w.taken.map (·.under (.member name)) ++ rest.taken⟩

end Way

def orEmpty (ws : List Way) : List Way := if ws.isEmpty then [.empty] else ws

mutual

def ways (d : DocumentColumn) (path : List String) : Node → List Way
  | .scalar value => [⟨fun _ => none, if isIncluded d path then [⟨[], value⟩] else []⟩]
  | .branch members =>
    if path.isEmpty || d.opensBelow (DocumentColumn.pathText path) then memberWays d path members
    else [.empty]
  | .list items =>
    if items.all (·.isBranch) || items.all (·.isScalar) then orEmpty (elementWays d path 0 items)
    else [.empty]

def memberWays (d : DocumentColumn) (path : List String) : List (String × Node) → List Way
  | [] => [.empty]
  | (name, node) :: members =>
    (ways d (path ++ [name]) node).flatMap fun w => (memberWays d path members).map (w.beside name)

/-- Elements that put nothing out are passed over; the first one has number `i`. -/
def elementWays (d : DocumentColumn) (path : List String) (i : Nat) : List Node → List Way
  | [] => []
  | node :: items =>
    ((ways d path node).filter (!·.taken.isEmpty)).map (·.ofElement i) ++
      elementWays d path (i + 1) items

end

/-- All choices in a value, each once, with the places of what they take. -/
structure Lists (d : DocumentColumn) (path : List String) (node : Node) (ws : List Way) :
    Prop where
  ne_nil : ws ≠ []
  nodup : (ws.map (·.choice)).Nodup
  choice_iff : ∀ c, (∃ w ∈ ws, w.choice = c) ↔ IsChoice d path node c
  apart : ∀ w ∈ ws, (w.taken.map (·.place)).Nodup
  taken_iff : ∀ w ∈ ws, ∀ site, site ∈ w.taken ↔ Included d path node site ∧ On w.choice site.place
  filled : (∃ site, Included d path node site) → ∀ w ∈ ws, w.taken ≠ []

variable {d : DocumentColumn} {path : List String} {name : String} {node : Node}
  {value : Option String} {items : List Node} {members : List (String × Node)} {site : Site}
  {ws rest : List Way} {w : Way} {i k : Nat}

theorem lists_nothing (h : ∀ site, ¬ Included d path node site) : Lists d path node [.empty] := by
  have hno (place : Place) (i : Nat) : ¬ Contributes d path node (place ++ [.element i]) :=
    fun ⟨site, hsite, _⟩ => h site hsite
  refine ⟨by simp, by simp, fun c => ?_, by simp [Way.empty], by simp [Way.empty, h],
    fun ⟨site, hsite⟩ => absurd hsite (h site)⟩
  rw [isChoice_iff_of_no_list hno]
  simp [Way.empty, eq_comm]

theorem lists_scalar (path : List String) (value : Option String) :
    Lists d path (.scalar value) (ways d path (.scalar value)) := by
  rw [ways]
  split
  next hincluded =>
    have hshown : IsShown d path := isShown_iff.2 hincluded
    refine ⟨by simp, by simp, fun c => ?_, by simp, ?_, by simp⟩
    · rw [isChoice_iff_of_no_list not_contributes_scalar]
      simp [eq_comm]
    · simp [included_scalar_iff, hshown, on_nil]
  next hincluded =>
    refine lists_nothing fun site h => hincluded ?_
    exact isShown_iff.1 (included_scalar_iff.1 h).1

theorem included_cons_iff (hopen : IsOpen d path) :
    Included d path (.branch ((name, node) :: members)) site ↔
      (∃ s, Included d (path ++ [name]) node s ∧ site = s.under (.member name)) ∨
        Included d path (.branch members) site := by
  rw [included_branch_iff, included_branch_iff]
  constructor
  · rintro ⟨_, m, node', s, hmem, hs, rfl⟩
    rcases List.mem_cons.1 hmem with he | hmem
    · cases he
      exact .inl ⟨s, hs, rfl⟩
    · exact .inr ⟨hopen, m, node', s, hmem, hs, rfl⟩
  · rintro (⟨s, hs, rfl⟩ | ⟨_, m, node', s, hmem, hs, rfl⟩)
    · exact ⟨hopen, name, node, s, List.mem_cons_self, hs, rfl⟩
    · exact ⟨hopen, m, node', s, List.mem_cons_of_mem _ hmem, hs, rfl⟩

theorem exists_member_of_included (h : Included d path (.branch members) site) :
    ∃ m rest, site.place = .member m :: rest ∧ m ∈ members.map (·.1) := by
  obtain ⟨_, m, node, s, hmem, _, rfl⟩ := included_branch_iff.1 h
  exact ⟨m, s.place, rfl, List.mem_map_of_mem hmem⟩

theorem map_place_under (s : Step) (sites : List Site) :
    (sites.map (·.under s)).map (·.place) = (sites.map (·.place)).map (s :: ·) := by
  rw [List.map_map, List.map_map]
  rfl

theorem nodup_map_under {s : Step} {sites : List Site} (h : (sites.map (·.place)).Nodup) :
    ((sites.map (·.under s)).map (·.place)).Nodup := by
  rw [map_place_under]
  exact h.map List.cons_injective

theorem mem_map_under {s : Step} {sites : List Site} :
    site ∈ sites.map (·.under s) ↔ ∃ t ∈ sites, site = t.under s := by
  simp only [List.mem_map, eq_comm]

theorem Lists.apart_beside (hname : name ∉ members.map (·.1))
    (h : Lists d (path ++ [name]) node ws) (hrest : Lists d path (.branch members) rest)
    {w w' : Way} (hw : w ∈ ws) (hw' : w' ∈ rest) :
    ((w.beside name w').taken.map (·.place)).Nodup := by
  rw [Way.beside, List.map_append, List.nodup_append']
  refine ⟨nodup_map_under (h.apart w hw), hrest.apart w' hw', fun place hplace hplace' => ?_⟩
  rw [map_place_under] at hplace
  obtain ⟨_, _, rfl⟩ := List.mem_map.1 hplace
  obtain ⟨site, hsite, he⟩ := List.mem_map.1 hplace'
  obtain ⟨m, _, hm, hmem⟩ := exists_member_of_included ((hrest.taken_iff w' hw' site).1 hsite).1
  cases hm.symm.trans he
  exact hname hmem

theorem Lists.taken_beside (hopen : IsOpen d path) (hname : name ∉ members.map (·.1))
    (h : Lists d (path ++ [name]) node ws) (hrest : Lists d path (.branch members) rest)
    {w w' : Way} (hw : w ∈ ws) (hw' : w' ∈ rest) :
    site ∈ (w.beside name w').taken ↔ Included d path (.branch ((name, node) :: members)) site ∧
      On (w.beside name w').choice site.place := by
  rw [Way.beside, List.mem_append, mem_map_under, included_cons_iff hopen, or_and_right,
    hrest.taken_iff w' hw']
  refine or_congr ?_ (and_congr_right fun hsite => ?_)
  · constructor
    · rintro ⟨s, hs, rfl⟩
      obtain ⟨hincluded, hon⟩ := (h.taken_iff w hw s).1 hs
      exact ⟨⟨s, hincluded, rfl⟩, (on_beside_iff name _ _ _).2 hon⟩
    · rintro ⟨⟨s, hs, rfl⟩, hon⟩
      exact ⟨s, (h.taken_iff w hw s).2 ⟨hs, (on_beside_iff name _ _ _).1 hon⟩, rfl⟩
  · obtain ⟨m, place, hm, hmem⟩ := exists_member_of_included hsite
    have hne : m ≠ name := fun he => hname (he ▸ hmem)
    rw [hm, on_beside_of_ne hne]

theorem mem_besides {w : Way} :
    w ∈ (ws.flatMap fun w => rest.map (w.beside name)) ↔
      ∃ v ∈ ws, ∃ v' ∈ rest, w = v.beside name v' := by
  simp only [List.mem_flatMap, List.mem_map, eq_comm]

theorem Lists.nodup_besides (hname : name ∉ members.map (·.1))
    (h : Lists d (path ++ [name]) node ws) (hrest : Lists d path (.branch members) rest) :
    ((ws.flatMap fun w => rest.map (w.beside name)).map (·.choice)).Nodup := by
  have hproduct : (ws.flatMap fun w => rest.map (w.beside name)).map (·.choice) =
      ((ws.map (·.choice)) ×ˢ (rest.map (·.choice))).map fun p => .beside name p.1 p.2 := by
    simp [SProd.sprod, List.product, List.map_flatMap, List.flatMap_map, Way.beside,
      Function.comp_def]
  rw [hproduct]
  refine (h.nodup.product hrest.nodup).map_on ?_
  rintro ⟨c, r⟩ hc ⟨c', r'⟩ hc' he
  have hr (r : Choice) (hr : r ∈ rest.map (·.choice)) : IsChoice d path (.branch members) r := by
    obtain ⟨w, hw, he⟩ := List.mem_map.1 hr
    exact (hrest.choice_iff r).1 ⟨w, hw, he⟩
  have hfirst : c = c' := by
    rw [← Choice.within_beside name c r, ← Choice.within_beside name c' r']
    exact congrArg (Choice.within (.member name)) he
  -- a choice in the other members does not look at the first, so it can be blanked there
  have hsecond : r = r' := by
    rw [← (hr r (List.mem_product.1 hc).2).beside_none hname c,
      ← (hr r' (List.mem_product.1 hc').2).beside_none hname c']
    exact congrArg (Choice.beside name fun _ => none) he
  rw [hfirst, hsecond]

theorem Lists.beside (hopen : IsOpen d path) (hname : name ∉ members.map (·.1))
    (h : Lists d (path ++ [name]) node ws) (hrest : Lists d path (.branch members) rest) :
    Lists d path (.branch ((name, node) :: members))
      (ws.flatMap fun w => rest.map (w.beside name)) := by
  refine ⟨?_, h.nodup_besides hname hrest, fun c => ?_, fun w hw => ?_, fun w hw site => ?_, ?_⟩
  · obtain ⟨w, hw⟩ := List.exists_mem_of_ne_nil ws h.ne_nil
    obtain ⟨w', hw'⟩ := List.exists_mem_of_ne_nil rest hrest.ne_nil
    exact List.ne_nil_of_mem (mem_besides.2 ⟨w, hw, w', hw', rfl⟩)
  · rw [isChoice_branch_iff hopen hname]
    constructor
    · rintro ⟨_, hw, rfl⟩
      obtain ⟨v, hv, v', hv', rfl⟩ := mem_besides.1 hw
      exact ⟨v.choice, v'.choice, (h.choice_iff _).1 ⟨v, hv, rfl⟩,
        (hrest.choice_iff _).1 ⟨v', hv', rfl⟩, rfl⟩
    · rintro ⟨c', r, hc', hr, rfl⟩
      obtain ⟨v, hv, rfl⟩ := (h.choice_iff c').2 hc'
      obtain ⟨v', hv', rfl⟩ := (hrest.choice_iff r).2 hr
      exact ⟨v.beside name v', mem_besides.2 ⟨v, hv, v', hv', rfl⟩, rfl⟩
  · obtain ⟨v, hv, v', hv', rfl⟩ := mem_besides.1 hw
    exact h.apart_beside hname hrest hv hv'
  · obtain ⟨v, hv, v', hv', rfl⟩ := mem_besides.1 hw
    exact h.taken_beside hopen hname hrest hv hv'
  · rintro ⟨site, hsite⟩ w hw
    obtain ⟨v, hv, v', hv', rfl⟩ := mem_besides.1 hw
    rw [Way.beside, ne_eq, List.append_eq_nil_iff, List.map_eq_nil_iff, not_and_or]
    rcases (included_cons_iff hopen).1 hsite with ⟨s, hs, _⟩ | hs
    · exact .inl (h.filled ⟨s, hs⟩ v hv)
    · exact .inr (hrest.filled ⟨site, hs⟩ v' hv')

theorem mem_elementWays : w ∈ elementWays d path k items ↔ ∃ i node w', items[i]? = some node ∧
    w' ∈ ways d path node ∧ w'.taken ≠ [] ∧ w = w'.ofElement (k + i) := by
  induction items generalizing k with
  | nil => simp [elementWays]
  | cons node items ih =>
      rw [elementWays, List.mem_append, ih]
      constructor
      · rintro (hw | ⟨i, node', w', hi, hw', hne, rfl⟩)
        · obtain ⟨w', hw', rfl⟩ := List.mem_map.1 hw
          obtain ⟨hw', hne⟩ := List.mem_filter.1 hw'
          exact ⟨0, node, w', rfl, hw', by simpa using hne, rfl⟩
        · exact ⟨i + 1, node', w', hi, hw', hne, by rw [Nat.add_assoc, Nat.add_comm 1 i]⟩
      · rintro ⟨i, node', w', hi, hw', hne, rfl⟩
        cases i with
        | zero =>
            cases hi
            refine .inl (List.mem_map.2 ⟨w', List.mem_filter.2 ⟨hw', ?_⟩, rfl⟩)
            simpa using hne
        | succ i =>
            exact .inr ⟨i, node', w', hi, hw', hne, by rw [Nat.add_assoc, Nat.add_comm 1 i]⟩

theorem nodup_elementWays (h : ∀ node ∈ items, Lists d path node (ways d path node)) :
    ((elementWays d path k items).map (·.choice)).Nodup := by
  induction items generalizing k with
  | nil => simp [elementWays]
  | cons node items ih =>
      have hnode := h node List.mem_cons_self
      rw [elementWays, List.map_append, List.nodup_append']
      refine ⟨?_, ih fun n hn => h n (List.mem_cons_of_mem node hn), fun c hc hc' => ?_⟩
      · have hinj : Function.Injective (Choice.ofElement k) := fun c c' he => by
          rw [← Choice.within_ofElement k c, he, Choice.within_ofElement]
        have hfilter : (((ways d path node).filter (!·.taken.isEmpty)).map (·.choice)).Nodup :=
          hnode.nodup.sublist (List.filter_sublist.map _)
        simpa [List.map_map, Function.comp_def, Way.ofElement] using hfilter.map hinj
      · simp only [List.mem_map] at hc hc'
        obtain ⟨_, ⟨v, _, rfl⟩, rfl⟩ := hc
        obtain ⟨w, hw, he⟩ := hc'
        obtain ⟨i, _, w', _, _, _, rfl⟩ := mem_elementWays.1 hw
        have hk : k + 1 + i = k := Option.some.inj (congrFun he [])
        omega

theorem mem_element_taken_iff (huniform : IsUniform items) (hi : items[i]? = some node)
    (h : Lists d path node ws) (hw : w ∈ ws) :
    site ∈ (w.ofElement i).taken ↔
      Included d path (.list items) site ∧ On (w.ofElement i).choice site.place := by
  rw [Way.ofElement, mem_map_under]
  constructor
  · rintro ⟨s, hs, rfl⟩
    obtain ⟨hincluded, hon⟩ := (h.taken_iff w hw s).1 hs
    exact ⟨.element huniform hi hincluded, (on_ofElement_iff i w.choice s.place).2 hon⟩
  · rintro ⟨hsite, hon⟩
    obtain ⟨_, j, node', s, hj, hs, rfl⟩ := included_list_iff.1 hsite
    cases (on_element_iff.1 hon).1
    cases hi.symm.trans hj
    exact ⟨s, (h.taken_iff w hw s).2 ⟨hs, (on_ofElement_iff i w.choice s.place).1 hon⟩, rfl⟩

theorem lists_elements (huniform : IsUniform items)
    (hsome : ∃ site, Included d path (.list items) site)
    (h : ∀ node ∈ items, Lists d path node (ways d path node)) :
    Lists d path (.list items) (elementWays d path 0 items) := by
  have hlists {i : Nat} {node : Node} (hi : items[i]? = some node) :
      Lists d path node (ways d path node) := h node (List.mem_of_getElem? hi)
  refine ⟨?_, nodup_elementWays h, fun c => ?_, fun v hv => ?_, fun v hv site => ?_,
    fun _ v hv => ?_⟩
  · obtain ⟨site, hsite⟩ := hsome
    obtain ⟨_, i, node, s, hi, hs, _⟩ := included_list_iff.1 hsite
    obtain ⟨w, hw⟩ := List.exists_mem_of_ne_nil _ (hlists hi).ne_nil
    exact List.ne_nil_of_mem
      (mem_elementWays.2 ⟨i, node, w, hi, hw, (hlists hi).filled ⟨s, hs⟩ w hw, rfl⟩)
  · rw [isChoice_list_iff huniform hsome]
    constructor
    · rintro ⟨v, hv, rfl⟩
      obtain ⟨i, node, w, hi, hw, hne, rfl⟩ := mem_elementWays.1 hv
      obtain ⟨s, hs⟩ := List.exists_mem_of_ne_nil _ hne
      refine ⟨0 + i, node, w.choice, ?_, ⟨s, ?_⟩, ?_, rfl⟩
      · rwa [Nat.zero_add]
      · exact (((hlists hi).taken_iff w hw s).1 hs).1
      · exact ((hlists hi).choice_iff w.choice).1 ⟨w, hw, rfl⟩
    · rintro ⟨i, node, c', hi, hnode, hc', rfl⟩
      -- the element contributes, so none of its ways is empty and this one is not passed over
      obtain ⟨w, hw, rfl⟩ := ((hlists hi).choice_iff c').2 hc'
      refine ⟨w.ofElement (0 + i), mem_elementWays.2 ⟨i, node, w, hi, hw, ?_, rfl⟩, ?_⟩
      · exact (hlists hi).filled hnode w hw
      · rw [Nat.zero_add]
        rfl
  · obtain ⟨i, node, w, hi, hw, _, rfl⟩ := mem_elementWays.1 hv
    exact nodup_map_under ((hlists hi).apart w hw)
  · obtain ⟨i, node, w, hi, hw, _, rfl⟩ := mem_elementWays.1 hv
    rw [Nat.zero_add]
    exact mem_element_taken_iff huniform hi (hlists hi) hw
  · obtain ⟨i, node, w, _, _, hne, rfl⟩ := mem_elementWays.1 hv
    simpa [Way.ofElement] using hne

theorem lists_list (huniform : IsUniform items)
    (h : ∀ node ∈ items, Lists d path node (ways d path node)) :
    Lists d path (.list items) (orEmpty (elementWays d path 0 items)) := by
  by_cases hsome : ∃ site, Included d path (.list items) site
  · have hlist := lists_elements huniform hsome h
    have hne : (elementWays d path 0 items).isEmpty = false := by simpa using hlist.ne_nil
    rw [orEmpty, hne]
    exact hlist
  · have hnil : elementWays d path 0 items = [] := by
      refine List.eq_nil_iff_forall_not_mem.2 fun w hw => ?_
      obtain ⟨i, node, w, hi, hw, hne, _⟩ := mem_elementWays.1 hw
      obtain ⟨s, hs⟩ := List.exists_mem_of_ne_nil _ hne
      have hincluded := (((h node (List.mem_of_getElem? hi)).taken_iff w hw s).1 hs).1
      exact hsome ⟨_, .element huniform hi hincluded⟩
    rw [hnil]
    exact lists_nothing fun site hsite => hsome ⟨site, hsite⟩

theorem isUniform_iff :
    IsUniform items ↔ (items.all (·.isBranch) || items.all (·.isScalar)) = true :=
  Bool.or_eq_true _ _ ▸ Iff.rfl

mutual

/-- Every choice in a value is among its ways, and each of them once. -/
theorem lists_ways (path : List String) (node : Node) (h : node.Distinct) :
    Lists d path node (ways d path node) := by
  match node with
  | .scalar value => exact lists_scalar path value
  | .branch members =>
      rw [ways]
      split
      next hopen =>
        exact lists_memberWays path members h (isOpen_iff.2 (by simpa using hopen))
      next hclosed =>
        refine lists_nothing fun site hsite => hclosed ?_
        simpa using isOpen_iff.1 (included_branch_iff.1 hsite).1
  | .list items =>
      cases h with
      | list hitems =>
          rw [ways]
          split
          next huniform =>
            exact lists_list (isUniform_iff.2 huniform) (lists_items path items hitems)
          next hmixed =>
            refine lists_nothing fun site hsite => hmixed ?_
            exact isUniform_iff.1 (included_list_iff.1 hsite).1

theorem lists_memberWays (path : List String) (members : List (String × Node))
    (h : (Node.branch members).Distinct) (hopen : IsOpen d path) :
    Lists d path (.branch members) (memberWays d path members) := by
  match members with
  | [] =>
      refine lists_nothing fun site hsite => ?_
      obtain ⟨_, _, _, _, hmem, _⟩ := included_branch_iff.1 hsite
      cases hmem
  | (name, node) :: members =>
      have hname : name ∉ members.map (·.1) := by
        cases h with
        | branch hnames _ => exact (List.nodup_cons.1 hnames).1
      have hfirst := lists_ways (path ++ [name]) node (h.of_member List.mem_cons_self)
      exact hfirst.beside hopen hname (lists_memberWays path members h.rest hopen)

theorem lists_items (path : List String) (items : List Node) (h : ∀ node ∈ items, node.Distinct) :
    ∀ node ∈ items, Lists d path node (ways d path node) := by
  match items with
  | [] => exact nofun
  | first :: items =>
      intro node hnode
      rcases List.mem_cons.1 hnode with he | hnode
      · rw [he]
        exact lists_ways path first (h first List.mem_cons_self)
      · exact lists_items path items (fun n hn => h n (List.mem_cons_of_mem first hn)) node hnode

end

end Document

namespace Node

theorem distinct_entries {members : List (String × Node)} (h : ∀ m ∈ members, m.2.Distinct) :
    (Node.branch (SortedMap.ofList members).entries).Distinct := by
  refine .branch ?_ fun m hm => h m (SortedMap.mem_of_get?_ofList (SortedMap.get?_of_mem hm))
  exact nodup_of_ascending id (SortedMap.keys_ascending (SortedMap.ofList members))

mutual

theorem distinct_ofJson (j : Json) : (ofJson j).Distinct := by
  match j with
  | .null => exact .scalar
  | .bool _ => exact .scalar
  | .integer _ => exact .scalar
  | .real _ => exact .scalar
  | .text _ => exact .scalar
  | .array items => exact .list (distinct_ofItems items)
  | .object members => exact distinct_entries (distinct_ofMembers members)
  | .unreadable => exact .scalar

theorem distinct_ofItems (items : List Json) : ∀ node ∈ ofItems items, node.Distinct := by
  match items with
  | [] => exact nofun
  | j :: items =>
      intro node hnode
      rcases List.mem_cons.1 hnode with rfl | hnode
      · exact distinct_ofJson j
      · exact distinct_ofItems items node hnode

theorem distinct_ofMembers (members : List (String × Json)) :
    ∀ m ∈ ofMembers members, m.2.Distinct := by
  match members with
  | [] => exact nofun
  | (name, j) :: members =>
      intro m hm
      rcases List.mem_cons.1 hm with rfl | hm
      · exact distinct_ofJson j
      · exact distinct_ofMembers members m hm

end

theorem distinct_of_read? {s : String} {node : Node} (h : Document.read? s = some node) :
    node.Distinct := by
  rw [Document.read?] at h
  split at h
  next j _ =>
    split at h
    next =>
      cases h
      exact distinct_ofJson j
    next => cases h
  next => cases h

end Node

end WideRow
