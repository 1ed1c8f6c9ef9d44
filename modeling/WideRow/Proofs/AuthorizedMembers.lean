import Mathlib
import WideRow.Proofs.RowChoices

namespace WideRow

inductive Node.Holds : Node → Document.Place → Option String → Prop where
  | scalar {value : Option String} : Holds (.scalar value) [] value
  | member {members : List (String × Node)} {name : String} {node : Node} {place : Document.Place}
      {value : Option String} :
      (name, node) ∈ members → node.Holds place value →
      Holds (.branch members) (.member name :: place) value
  | element {items : List Node} {i : Nat} {node : Node} {place : Document.Place}
      {value : Option String} :
      items[i]? = some node → node.Holds place value →
      Holds (.list items) (.element i :: place) value

namespace Document

/-- The names lead to a member of the root, or they are the segments of an authorized path. -/
def IsAuthorized (d : DocumentColumn) (keys : List String) : Prop :=
  keys.length = 1 ∨ ∃ p ∈ d.paths.members, DocumentColumn.segments p = keys

variable {d : DocumentColumn} {path : List String} {node : Node} {members : List (String × Node)}
  {site : Site} {place : Place} {value : Option String}

theorem Included.holds (h : Included d path node site) : node.Holds site.place site.value := by
  induction h with
  | scalar _ => exact .scalar
  | member _ hmem _ ih => exact .member hmem ih
  | element _ hi _ ih => exact .element hi ih

theorem Included.isShown (h : Included d path node site) :
    IsShown d (path ++ names site.place) := by
  induction h with
  | scalar hshown => simpa [names] using hshown
  | member _ _ _ ih => simpa [names, Site.under] using ih
  | element _ _ _ ih => exact ih

theorem names_ne_nil_of_holds (h : (Node.branch members).Holds place value) : names place ≠ [] := by
  cases h with
  | member _ _ => exact List.cons_ne_nil _ _

theorem flatMap_segments_of_no_mark {keys : List String} (h : ∀ name ∈ keys, '>' ∉ name.toList) :
    keys.flatMap DocumentColumn.segments = keys := by
  have hsegments : keys.flatMap DocumentColumn.segments = keys.flatMap fun name => [name] :=
    List.flatMap_congr fun name hname => DocumentColumn.segments_of_not_mem (h name hname)
  rw [hsegments, List.flatMap_singleton']

theorem exists_perm_of_bag {rows rows' : List Row} (h : bag rows = bag rows') {row : Row}
    (hrow : row ∈ rows) : ∃ row' ∈ rows', row.Perm row' := by
  have hmem : (row : Multiset Item) ∈ bag rows' := h ▸ Multiset.mem_map_of_mem _ hrow
  obtain ⟨row', hrow', he⟩ := Multiset.mem_map.1 hmem
  exact ⟨row', hrow', Multiset.coe_eq_coe.1 he.symm⟩

/-- Every item of a row is a scalar that is put out. -/
theorem exists_included_of_mem_row {s : String} {rows : List Row} (h : flatten d s = .ok rows) :
    ∃ members, read? s = some (.branch members) ∧ ∀ row ∈ rows, ∀ i ∈ row,
      ∃ site, Included d [] (.branch members) site ∧ i = site.item [] := by
  obtain ⟨members, y, hread, hy, rfl⟩ := flatten_eq_ok h
  refine ⟨members, hread, fun row hrow i hi => ?_⟩
  obtain ⟨row', hrow', hperm⟩ := exists_perm_of_bag (bag_rows hy) hrow
  obtain ⟨w, hw, rfl⟩ := List.mem_map.1 (List.mem_filter.1 hrow').1
  obtain ⟨site, hsite, rfl⟩ := List.mem_map.1 (hperm.mem_iff.1 hi)
  have hlists := lists_memberWays [] members (Node.distinct_of_read? hread) (.inl rfl : IsOpen d [])
  exact ⟨site, ((hlists.taken_iff w hw site).1 hsite).1, rfl⟩

/-- Members below the root are put out where their names, cut at the marks in them, are the segments
of an authorized path. Where no name has a mark in it, the names are the segments. -/
theorem authorized_of_mem_row {s : String} {rows : List Row} (h : flatten d s = .ok rows) :
    ∃ doc, read? s = some doc ∧ ∀ row ∈ rows, ∀ i ∈ row, ∃ place value,
      doc.Holds place value ∧ i = item (names place) value ∧
        ((names place).length = 1 ∨ ∃ p ∈ d.paths.members,
          DocumentColumn.segments p = (names place).flatMap DocumentColumn.segments) ∧
        ((∀ name ∈ names place, '>' ∉ name.toList) → IsAuthorized d (names place)) := by
  obtain ⟨members, hread, hrows⟩ := exists_included_of_mem_row h
  refine ⟨.branch members, hread, fun row hrow i hi => ?_⟩
  obtain ⟨site, hsite, hitem⟩ := hrows row hrow i hi
  have hne : names site.place ≠ [] := names_ne_nil_of_holds hsite.holds
  have hkeys : (names site.place).length = 1 ∨ ∃ p ∈ d.paths.members,
      DocumentColumn.segments p = (names site.place).flatMap DocumentColumn.segments := by
    rcases hsite.isShown with hlength | hmem
    · exact .inl (le_antisymm hlength (List.length_pos_iff.2 hne))
    · exact .inr ⟨_, hmem, DocumentColumn.segments_pathText hne⟩
  refine ⟨site.place, site.value, hsite.holds, hitem, hkeys, fun hmark => ?_⟩
  rwa [flatMap_segments_of_no_mark hmark] at hkeys

private def deep : DocumentColumn := ⟨"M", "DOC", .ofList ["A>B>C"]⟩

private def nested : String := "\x7b\"A\":\x7b\"B\":\x7b\"C\":\"x\",\"D\":\"y\"\x7d\x7d\x7d"

/-- Beside the authorized member there is one that is not. -/
theorem nested_member_authorized :
    flatten deep nested = .ok [[⟨"A_B_C", some "x"⟩]] ∧
      ∃ doc, read? nested = some doc ∧ ∀ row ∈ [[⟨"A_B_C", some "x"⟩]], ∀ i ∈ row, ∃ place value,
        doc.Holds place value ∧ i = item (names place) value ∧
          ((names place).length = 1 ∨ ∃ p ∈ deep.paths.members,
            DocumentColumn.segments p = (names place).flatMap DocumentColumn.segments) ∧
          ((∀ name ∈ names place, '>' ∉ name.toList) → IsAuthorized deep (names place)) := by
  have hrows : flatten deep nested = .ok [[⟨"A_B_C", some "x"⟩]] := by decide +kernel
  exact ⟨hrows, authorized_of_mem_row hrows⟩

private def marked : String := "\x7b\"A\":\x7b\"B>C\":\"x\"\x7d\x7d"

/-- A name with a mark in it goes for two: the only path that is authorized has three segments, and
the member that is put out has two names. -/
theorem marked_member_unauthorized :
    flatten deep marked = .ok [[⟨"A_B>C", some "x"⟩]] ∧
      ∃ doc, read? marked = some doc ∧ ∀ place value, doc.Holds place value →
        names place = ["A", "B>C"] ∧ ¬ IsAuthorized deep (names place) := by
  refine ⟨by decide +kernel, .branch [("A", .branch [("B>C", .scalar (some "x"))])], by cbv, ?_⟩
  intro place value hholds
  cases hholds with
  | member hA hholds =>
    cases List.mem_singleton.1 hA
    cases hholds with
    | member hB hholds =>
      cases List.mem_singleton.1 hB
      cases hholds with
      | scalar =>
        refine ⟨rfl, ?_⟩
        have hsegments : ∀ p ∈ deep.paths.members, DocumentColumn.segments p ≠ ["A", "B>C"] := by
          decide +kernel
        rintro (hlength | ⟨p, hp, he⟩)
        · cases hlength
        · exact hsegments p hp he

end Document

end WideRow
