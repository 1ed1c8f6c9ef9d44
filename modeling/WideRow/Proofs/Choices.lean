import WideRow.Document.Rows
import WideRow.Proofs.AuthorizedPaths

namespace WideRow.Document

inductive Step where
  | member (name : String)
  | element (i : Nat)
  deriving DecidableEq, Repr

/-- The way from a value to one within it. -/
abbrev Place := List Step

def names : Place → List String
  | [] => []
  | .member name :: place => name :: names place
  | .element _ :: place => names place

structure Site where
  place : Place
  value : Option String

namespace Site

def under (s : Step) (site : Site) : Site := { site with place := s :: site.place }

def item (path : List String) (site : Site) : Item :=
  Document.item (path ++ names site.place) site.value

end Site

/-- The document itself, or a member with an authorized path below it. -/
def IsOpen (d : DocumentColumn) (path : List String) : Prop :=
  path = [] ∨ ∃ p ∈ d.paths.members,
    startsWith (DocumentColumn.pathText path ++ DocumentColumn.pathMark) p

/-- A member of the document itself, or one whose path is authorized. -/
def IsShown (d : DocumentColumn) (path : List String) : Prop :=
  path.length ≤ 1 ∨ DocumentColumn.pathText path ∈ d.paths.members

theorem isOpen_iff {d : DocumentColumn} {path : List String} :
    IsOpen d path ↔ path = [] ∨ d.opensBelow (DocumentColumn.pathText path) :=
  or_congr_right DocumentColumn.opensBelow_iff.symm

theorem isShown_iff {d : DocumentColumn} {path : List String} :
    IsShown d path ↔ isIncluded d path := by
  rw [IsShown, isIncluded, Bool.or_eq_true, decide_eq_true_eq, DocumentColumn.allows_iff]

def IsUniform (items : List Node) : Prop :=
  items.all (·.isBranch) ∨ items.all (·.isScalar)

/-- The scalars within the value at `path` that are put out. -/
inductive Included (d : DocumentColumn) : List String → Node → Site → Prop where
  | scalar {path : List String} {value : Option String} :
      IsShown d path → Included d path (.scalar value) ⟨[], value⟩
  | member {path : List String} {members : List (String × Node)} {name : String} {node : Node}
      {site : Site} :
      IsOpen d path → (name, node) ∈ members → Included d (path ++ [name]) node site →
      Included d path (.branch members) (site.under (.member name))
  | element {path : List String} {items : List Node} {i : Nat} {node : Node} {site : Site} :
      IsUniform items → items[i]? = some node → Included d path node site →
      Included d path (.list items) (site.under (.element i))

/-- The element that is chosen of each list, by the place of the list. -/
abbrev Choice := Place → Option Nat

/-- All elements on the way are chosen. -/
def On (c : Choice) (place : Place) : Prop :=
  ∀ front i back, place = front ++ .element i :: back → c front = some i

/-- Something is put out at the place or within it. -/
def Contributes (d : DocumentColumn) (path : List String) (node : Node) (place : Place) : Prop :=
  ∃ site, Included d path node site ∧ place <+: site.place

/-- One contributing element is chosen of each list that has one and stands on chosen elements. -/
structure IsChoice (d : DocumentColumn) (path : List String) (node : Node) (c : Choice) : Prop where
  chosen : ∀ place i, c place = some i →
    On c place ∧ Contributes d path node (place ++ [.element i])
  complete : ∀ place i, On c place → Contributes d path node (place ++ [.element i]) →
    (c place).isSome

variable {d : DocumentColumn} {path : List String} {name : String} {node : Node}
  {value : Option String} {items : List Node} {members : List (String × Node)} {site : Site}
  {place : Place} {c c' : Choice} {i j : Nat}

theorem included_scalar_iff :
    Included d path (.scalar value) site ↔ IsShown d path ∧ site = ⟨[], value⟩ := by
  constructor
  · rintro ⟨h⟩
    exact ⟨h, rfl⟩
  · rintro ⟨h, rfl⟩
    exact .scalar h

theorem included_branch_iff :
    Included d path (.branch members) site ↔ IsOpen d path ∧ ∃ name node s,
      (name, node) ∈ members ∧ Included d (path ++ [name]) node s ∧
        site = s.under (.member name) := by
  constructor
  · rintro (_ | ⟨hopen, hmem, h⟩)
    exact ⟨hopen, _, _, _, hmem, h, rfl⟩
  · rintro ⟨hopen, name, node, s, hmem, h, rfl⟩
    exact .member hopen hmem h

theorem included_list_iff :
    Included d path (.list items) site ↔ IsUniform items ∧ ∃ i node s,
      items[i]? = some node ∧ Included d path node s ∧ site = s.under (.element i) := by
  constructor
  · rintro (_ | _ | ⟨huniform, hi, h⟩)
    exact ⟨huniform, _, _, _, hi, h, rfl⟩
  · rintro ⟨huniform, i, node, s, hi, h, rfl⟩
    exact .element huniform hi h

def Choice.within (s : Step) (c : Choice) : Choice := fun place => c (s :: place)

theorem on_nil : On c [] := by
  intro front i back h
  simp at h

theorem on_member_iff : On c (.member name :: place) ↔ On (c.within (.member name)) place := by
  constructor
  · rintro h front i back rfl
    exact h (.member name :: front) i back rfl
  · intro h front i back hplace
    cases front with
    | nil => simp at hplace
    | cons s front =>
        obtain ⟨rfl, rfl⟩ := List.cons.inj hplace
        exact h front i back rfl

theorem on_element_iff :
    On c (.element i :: place) ↔ c [] = some i ∧ On (c.within (.element i)) place := by
  constructor
  · intro h
    refine ⟨h [] i place rfl, ?_⟩
    rintro front j back rfl
    exact h (.element i :: front) j back rfl
  · rintro ⟨hi, h⟩ front j back hplace
    cases front with
    | nil =>
        obtain ⟨hij, _⟩ := List.cons.inj hplace
        rw [hi, Step.element.inj hij]
    | cons s front =>
        obtain ⟨rfl, rfl⟩ := List.cons.inj hplace
        exact h front j back rfl

theorem contributes_nil_iff : Contributes d path node [] ↔ ∃ site, Included d path node site :=
  exists_congr fun _ => and_iff_left List.nil_prefix

theorem not_contributes_scalar (place : Place) (i : Nat) :
    ¬ Contributes d path (.scalar value) (place ++ [.element i]) := by
  rintro ⟨site, h, hprefix⟩
  obtain ⟨_, rfl⟩ := included_scalar_iff.1 h
  exact absurd hprefix (by simp)

theorem contributes_branch_iff {s : Step} :
    Contributes d path (.branch members) (s :: place) ↔ IsOpen d path ∧ ∃ name node,
      s = .member name ∧ (name, node) ∈ members ∧ Contributes d (path ++ [name]) node place := by
  constructor
  · rintro ⟨site, h, hprefix⟩
    obtain ⟨hopen, name, node, site, hmem, hs, rfl⟩ := included_branch_iff.1 h
    obtain ⟨hstep, hplace⟩ := List.cons_prefix_cons.1 hprefix
    exact ⟨hopen, name, node, hstep, hmem, site, hs, hplace⟩
  · rintro ⟨hopen, name, node, rfl, hmem, site, h, hprefix⟩
    exact ⟨_, .member hopen hmem h, List.cons_prefix_cons.2 ⟨rfl, hprefix⟩⟩

theorem contributes_list_iff {s : Step} :
    Contributes d path (.list items) (s :: place) ↔ IsUniform items ∧ ∃ i node,
      s = .element i ∧ items[i]? = some node ∧ Contributes d path node place := by
  constructor
  · rintro ⟨site, h, hprefix⟩
    obtain ⟨huniform, i, node, site, hi, hs, rfl⟩ := included_list_iff.1 h
    obtain ⟨hstep, hplace⟩ := List.cons_prefix_cons.1 hprefix
    exact ⟨huniform, i, node, hstep, hi, site, hs, hplace⟩
  · rintro ⟨huniform, i, node, rfl, hi, site, h, hprefix⟩
    exact ⟨_, .element huniform hi h, List.cons_prefix_cons.2 ⟨rfl, hprefix⟩⟩

theorem isChoice_iff_of_no_list (h : ∀ place i, ¬ Contributes d path node (place ++ [.element i])) :
    IsChoice d path node c ↔ c = fun _ => none := by
  constructor
  · intro hc
    funext place
    exact Option.eq_none_iff_forall_ne_some.2 fun i hi => h place i (hc.chosen place i hi).2
  · rintro rfl
    exact ⟨nofun, fun place i _ hcontributes => absurd hcontributes (h place i)⟩

namespace Choice

def ofElement (i : Nat) (c : Choice) : Choice
  | [] => some i
  | .element j :: place => if j = i then c place else none
  | .member _ :: _ => none

/-- A choice within one member of an object, and `rest` for all others. -/
def beside (name : String) (c rest : Choice) : Choice
  | [] => none
  | .element _ :: _ => none
  | .member m :: place => if m = name then c place else rest (.member m :: place)

@[simp] theorem ofElement_nil (i : Nat) (c : Choice) : ofElement i c [] = some i := rfl

@[simp] theorem within_ofElement (i : Nat) (c : Choice) :
    (ofElement i c).within (.element i) = c := by
  funext place
  simp [within, ofElement]

@[simp] theorem within_beside (name : String) (c rest : Choice) :
    (beside name c rest).within (.member name) = c := by
  funext place
  simp [within, beside]

theorem within_beside_of_ne {m : String} (h : m ≠ name) (c rest : Choice) :
    (beside name c rest).within (.member m) = rest.within (.member m) := by
  funext place
  simp [within, beside, h]

end Choice

theorem contributes_element_iff (huniform : IsUniform items) (hi : items[i]? = some node) :
    Contributes d path (.list items) (.element i :: place) ↔ Contributes d path node place := by
  rw [contributes_list_iff]
  constructor
  · rintro ⟨_, j, node', hij, hj, h⟩
    cases hij
    cases hi.symm.trans hj
    exact h
  · intro h
    exact ⟨huniform, i, node, rfl, hi, h⟩

theorem contributes_first_iff (hopen : IsOpen d path) (hname : name ∉ members.map (·.1)) :
    Contributes d path (.branch ((name, node) :: members)) (.member name :: place) ↔
      Contributes d (path ++ [name]) node place := by
  rw [contributes_branch_iff]
  constructor
  · rintro ⟨_, m, node', hm, hmem, h⟩
    cases hm
    rcases List.mem_cons.1 hmem with he | hmem
    · cases he
      exact h
    · exact absurd (List.mem_map_of_mem hmem) hname
  · intro h
    exact ⟨hopen, name, node, rfl, List.mem_cons_self, h⟩

theorem contributes_rest_iff {s : Step} (hs : s ≠ .member name) :
    Contributes d path (.branch ((name, node) :: members)) (s :: place) ↔
      Contributes d path (.branch members) (s :: place) := by
  rw [contributes_branch_iff, contributes_branch_iff, and_congr_right_iff]
  intro _
  constructor
  · rintro ⟨m, node', hm, hmem, h⟩
    rcases List.mem_cons.1 hmem with he | hmem
    · cases he
      exact absurd hm hs
    · exact ⟨m, node', hm, hmem, h⟩
  · rintro ⟨m, node', hm, hmem, h⟩
    exact ⟨m, node', hm, List.mem_cons_of_mem _ hmem, h⟩

theorem IsChoice.within {s : Step} {path' : List String} {node' : Node}
    (h : IsChoice d path node c)
    (hc : ∀ place, Contributes d path node (s :: place) ↔ Contributes d path' node' place)
    (hon : ∀ place, On c (s :: place) ↔ On (c.within s) place) :
    IsChoice d path' node' (c.within s) := by
  constructor
  · intro place i hi
    obtain ⟨hplace, hcontributes⟩ := h.chosen (s :: place) i hi
    exact ⟨(hon place).1 hplace, (hc _).1 hcontributes⟩
  · intro place i hplace hcontributes
    exact h.complete (s :: place) i ((hon place).2 hplace) ((hc _).2 hcontributes)

theorem on_ofElement_iff (i : Nat) (c : Choice) (place : Place) :
    On (.ofElement i c) (.element i :: place) ↔ On c place := by
  rw [on_element_iff, Choice.within_ofElement]
  exact and_iff_right rfl

theorem IsChoice.element_of_list (h : IsChoice d path (.list items) c) {s : Step}
    (hk : c (s :: place) = some j) (hi : c [] = some i) : s = .element i := by
  obtain ⟨hplace, hcontributes⟩ := h.chosen (s :: place) j hk
  obtain ⟨_, i', _, rfl, _, _⟩ := contributes_list_iff.1 hcontributes
  have hi' := (on_element_iff.1 hplace).1
  rw [Option.some.inj (hi'.symm.trans hi)]

theorem IsChoice.eq_ofElement (h : IsChoice d path (.list items) c) (hi : c [] = some i) :
    c = .ofElement i (c.within (.element i)) := by
  have hnone {s : Step} {place : Place} (hs : s ≠ .element i) : c (s :: place) = none :=
    Option.eq_none_iff_forall_ne_some.2 fun k hk => hs (h.element_of_list hk hi)
  funext place
  match place with
  | [] => exact hi
  | .member m :: place => exact hnone nofun
  | .element j :: place =>
      rw [Choice.ofElement]
      split
      next hj => rw [hj]; rfl
      next hj => exact hnone fun he => hj (Step.element.inj he)

theorem IsChoice.ofElement (h : IsChoice d path node c) (huniform : IsUniform items)
    (hi : items[i]? = some node) (hnode : ∃ site, Included d path node site) :
    IsChoice d path (.list items) (.ofElement i c) := by
  constructor
  · intro place k hk
    match place with
    | [] =>
        cases hk
        exact ⟨on_nil, (contributes_element_iff huniform hi).2 (contributes_nil_iff.2 hnode)⟩
    | .member m :: place => cases hk
    | .element j :: place =>
        rw [Choice.ofElement] at hk
        split at hk
        next he =>
          subst he
          obtain ⟨hplace, hcontributes⟩ := h.chosen place k hk
          exact ⟨(on_ofElement_iff j c place).2 hplace,
            (contributes_element_iff huniform hi).2 hcontributes⟩
        next => cases hk
  · intro place k hplace hcontributes
    match place with
    | [] => rfl
    | s :: place =>
        obtain ⟨_, j, node', rfl, hj, hcontributes⟩ := contributes_list_iff.1 hcontributes
        cases (on_element_iff.1 hplace).1
        cases hi.symm.trans hj
        have hsome := h.complete place k ((on_ofElement_iff i c place).1 hplace) hcontributes
        simpa [Choice.ofElement] using hsome

/-- A list in which something is put out: one element that does so is chosen, and the choice goes on
within it. -/
theorem isChoice_list_iff (huniform : IsUniform items)
    (hsome : ∃ site, Included d path (.list items) site) :
    IsChoice d path (.list items) c ↔ ∃ i node c', items[i]? = some node ∧
      (∃ site, Included d path node site) ∧ IsChoice d path node c' ∧ c = .ofElement i c' := by
  constructor
  · intro h
    obtain ⟨i, hci⟩ : ∃ i, c [] = some i := by
      obtain ⟨site, hsite⟩ := hsome
      obtain ⟨_, j, node, s, hj, hs, _⟩ := included_list_iff.1 hsite
      refine Option.isSome_iff_exists.1 (h.complete [] j on_nil ?_)
      exact (contributes_element_iff huniform hj).2 (contributes_nil_iff.2 ⟨s, hs⟩)
    obtain ⟨_, _, node, he, hi, hnode⟩ := contributes_list_iff.1 (h.chosen [] i hci).2
    cases he
    refine ⟨i, node, c.within (.element i), hi, contributes_nil_iff.1 hnode, ?_,
      h.eq_ofElement hci⟩
    refine h.within (fun place => contributes_element_iff huniform hi) fun place => ?_
    rw [on_element_iff, hci, eq_self_iff_true, true_and]
  · rintro ⟨i, node, c', hi, hnode, hc', rfl⟩
    exact hc'.ofElement huniform hi hnode

theorem on_beside_iff (name : String) (c rest : Choice) (place : Place) :
    On (.beside name c rest) (.member name :: place) ↔ On c place := by
  rw [on_member_iff, Choice.within_beside]

theorem on_beside_of_ne {m : String} (h : m ≠ name) (c rest : Choice) (place : Place) :
    On (.beside name c rest) (.member m :: place) ↔ On rest (.member m :: place) := by
  rw [on_member_iff, on_member_iff, Choice.within_beside_of_ne h]

theorem member_of_contributes
    (h : Contributes d path (.branch members) (place ++ [.element i])) :
    ∃ m rest, place = .member m :: rest ∧ m ∈ members.map (·.1) := by
  cases place with
  | nil =>
      obtain ⟨_, _, _, he, _⟩ := contributes_branch_iff.1 h
      cases he
  | cons s rest =>
      obtain ⟨_, m, node, rfl, hmem, _⟩ := contributes_branch_iff.1 h
      exact ⟨m, rest, rfl, List.mem_map_of_mem hmem⟩

theorem IsChoice.step_of_branch (h : IsChoice d path (.branch members) c) (hi : c place = some i) :
    ∃ m rest, place = .member m :: rest ∧ m ∈ members.map (·.1) :=
  member_of_contributes (h.chosen place i hi).2

theorem IsChoice.beside_none (h : IsChoice d path (.branch members) c)
    (hname : name ∉ members.map (·.1)) (c' : Choice) :
    .beside name (fun _ => none) (.beside name c' c) = c := by
  funext place
  cases hplace : c place with
  | some i =>
      obtain ⟨m, rest, rfl, hm⟩ := h.step_of_branch hplace
      have hne : m ≠ name := fun he => hname (he ▸ hm)
      simp [Choice.beside, hne, hplace]
  | none =>
      match place with
      | [] => rfl
      | .element j :: place => rfl
      | .member m :: place => by_cases hm : m = name <;> simp [Choice.beside, hm, ← hplace]

theorem IsChoice.eq_beside (h : IsChoice d path (.branch members) c) (name : String) :
    c = .beside name (c.within (.member name)) (.beside name (fun _ => none) c) := by
  funext place
  match place with
  | [] =>
      refine Option.eq_none_iff_forall_ne_some.2 fun i hi => ?_
      obtain ⟨_, _, he, _⟩ := h.step_of_branch hi
      cases he
  | .element j :: place =>
      refine Option.eq_none_iff_forall_ne_some.2 fun i hi => ?_
      obtain ⟨_, _, he, _⟩ := h.step_of_branch hi
      cases he
  | .member m :: place => by_cases hm : m = name <;> simp [Choice.beside, Choice.within, hm]

theorem IsChoice.rest (h : IsChoice d path (.branch ((name, node) :: members)) c)
    (hname : name ∉ members.map (·.1)) :
    IsChoice d path (.branch members) (.beside name (fun _ => none) c) := by
  have hstep {m : String} (hm : m ≠ name) : Step.member m ≠ .member name := by simpa using hm
  constructor
  · intro place i hi
    match place with
    | [] => cases hi
    | .element j :: place => cases hi
    | .member m :: place =>
        rw [Choice.beside] at hi
        split at hi
        next => cases hi
        next hm =>
          obtain ⟨hplace, hcontributes⟩ := h.chosen _ i hi
          exact ⟨(on_beside_of_ne hm _ c place).2 hplace,
            (contributes_rest_iff (hstep hm)).1 hcontributes⟩
  · intro place i hplace hcontributes
    obtain ⟨m, place, rfl, hmem⟩ := member_of_contributes hcontributes
    have hm : m ≠ name := fun he => hname (he ▸ hmem)
    have hsome := h.complete _ i ((on_beside_of_ne hm _ c place).1 hplace)
      ((contributes_rest_iff (hstep hm)).2 hcontributes)
    simpa [Choice.beside, hm] using hsome

theorem IsChoice.beside (h : IsChoice d (path ++ [name]) node c)
    (hrest : IsChoice d path (.branch members) c') (hopen : IsOpen d path)
    (hname : name ∉ members.map (·.1)) :
    IsChoice d path (.branch ((name, node) :: members)) (.beside name c c') := by
  have hstep {m : String} (hm : m ≠ name) : Step.member m ≠ .member name := by simpa using hm
  constructor
  · intro place i hi
    match place with
    | [] => cases hi
    | .element j :: place => cases hi
    | .member m :: place =>
        rw [Choice.beside] at hi
        split at hi
        next he =>
          subst he
          obtain ⟨hplace, hcontributes⟩ := h.chosen place i hi
          exact ⟨(on_beside_iff m c c' place).2 hplace,
            (contributes_first_iff hopen hname).2 hcontributes⟩
        next hm =>
          obtain ⟨hplace, hcontributes⟩ := hrest.chosen _ i hi
          exact ⟨(on_beside_of_ne hm c c' place).2 hplace,
            (contributes_rest_iff (hstep hm)).2 hcontributes⟩
  · intro place i hplace hcontributes
    obtain ⟨m, place, rfl, _⟩ := member_of_contributes hcontributes
    rw [Choice.beside]
    split
    next he =>
      subst he
      exact h.complete place i ((on_beside_iff m c c' place).1 hplace)
        ((contributes_first_iff hopen hname).1 hcontributes)
    next hm =>
      exact hrest.complete _ i ((on_beside_of_ne hm c c' place).1 hplace)
        ((contributes_rest_iff (hstep hm)).1 hcontributes)

theorem isChoice_branch_iff (hopen : IsOpen d path) (hname : name ∉ members.map (·.1)) :
    IsChoice d path (.branch ((name, node) :: members)) c ↔ ∃ c' rest,
      IsChoice d (path ++ [name]) node c' ∧ IsChoice d path (.branch members) rest ∧
        c = .beside name c' rest := by
  constructor
  · intro h
    refine ⟨c.within (.member name), .beside name (fun _ => none) c, ?_, h.rest hname,
      h.eq_beside name⟩
    exact h.within (fun place => contributes_first_iff hopen hname) fun place => on_member_iff
  · rintro ⟨c', rest, hc', hrest, rfl⟩
    exact hc'.beside hrest hopen hname

end WideRow.Document
