import Mathlib
import WideRow.Document.Rows
import WideRow.Proofs.AuthorizedPaths

namespace WideRow

def Node.isMixed : Node → Bool
  | .list items => !(items.all (·.isBranch) || items.all (·.isScalar))
  | _ => false

namespace Document

/-- The same values but for one member: it is found along the keys, and it is `v` in the one and
`v'` in the other. Lists on the way add no key. -/
inductive Differ (v v' : Node) : List String → Node → Node → Prop where
  | here (name : String) (front back : List (String × Node)) :
      Differ v v' [name] (.branch (front ++ (name, v) :: back))
        (.branch (front ++ (name, v') :: back))
  | member (name : String) (front back : List (String × Node)) {keys : List String}
      {node node' : Node} :
      Differ v v' keys node node' →
      Differ v v' (name :: keys) (.branch (front ++ (name, node) :: back))
        (.branch (front ++ (name, node') :: back))
  | element (front back : List Node) {keys : List String} {node node' : Node} :
      Differ v v' keys node node' →
      Differ v v' keys (.list (front ++ node :: back)) (.list (front ++ node' :: back))

/-- Below the root, not authorized, and no authorized path lies below. -/
structure IsHidden (d : DocumentColumn) (keys : List String) : Prop where
  nested : 2 ≤ keys.length
  not_authorized : DocumentColumn.pathText keys ∉ d.paths.members
  none_below : ∀ p ∈ d.paths.members,
    ¬ startsWith (DocumentColumn.pathText keys ++ DocumentColumn.pathMark) p

/-- The same result, or the error of a mixed list where only one of the values is such a list. -/
def Alike (v v' : Node) (keys : List String) {α : Type} (r r' : Except Fault α) : Prop :=
  r = r' ∨
    v.isMixed ∧ ¬ v'.isMixed ∧ r = .error (.mixedList (DocumentColumn.pathText keys)) ∨
    v'.isMixed ∧ ¬ v.isMixed ∧ r' = .error (.mixedList (DocumentColumn.pathText keys))

variable {d : DocumentColumn} {path keys : List String} {name : String} {v v' node node' : Node}
  {members members' : List (String × Node)} {α β : Type}

namespace Alike

theorem refl (r : Except Fault α) : Alike v v' keys r r := .inl rfl

theorem bind {r r' : Except Fault α} (h : Alike v v' keys r r') (f : α → Except Fault β) :
    Alike v v' keys (r >>= f) (r' >>= f) := by
  rcases h with rfl | ⟨hv, hv', rfl⟩ | ⟨hv', hv, rfl⟩
  · exact .refl _
  · exact .inr (.inl ⟨hv, hv', rfl⟩)
  · exact .inr (.inr ⟨hv', hv, rfl⟩)

theorem after {f f' : α → Except Fault β} (h : ∀ a, Alike v v' keys (f a) (f' a))
    (r : Except Fault α) : Alike v v' keys (r >>= f) (r >>= f') := by
  cases r with
  | error fault => exact .refl _
  | ok a => exact h a

end Alike

/-- A member that is hidden gives nothing, or it is a mixed list. -/
theorem memberYield_of_hidden (h : IsHidden d path) (node : Node) :
    memberYield d path node =
      if node.isMixed then .error (.mixedList (DocumentColumn.pathText path)) else .ok {} := by
  have hincluded : isIncluded d path = false := by
    have hallows : ¬ d.allows (DocumentColumn.pathText path) :=
      fun hallows => h.not_authorized (DocumentColumn.allows_iff.1 hallows)
    have hlength : ¬ path.length ≤ 1 := by have := h.nested; omega
    simp [isIncluded, hlength, hallows]
  have hopens : d.opensBelow (DocumentColumn.pathText path) = false := by
    refine Bool.eq_false_iff.2 fun hopens => ?_
    obtain ⟨p, hp, hstart⟩ := DocumentColumn.opensBelow_iff.1 hopens
    exact h.none_below p hp hstart
  cases node with
  | scalar value => simp [memberYield, hincluded, Node.isMixed]
  | branch members => simp [memberYield, hopens, Node.isMixed]
  | list items =>
      rw [memberYield, Node.isMixed, hopens, hincluded]
      cases items.all (·.isBranch) <;> cases items.all (·.isScalar) <;> rfl

theorem alike_hidden (h : IsHidden d path) :
    Alike v v' path (memberYield d path v) (memberYield d path v') := by
  rw [memberYield_of_hidden h, memberYield_of_hidden h]
  cases hv : v.isMixed <;> cases hv' : v'.isMixed
  · exact .refl _
  · exact .inr (.inr ⟨hv', by simp [hv], rfl⟩)
  · exact .inr (.inl ⟨hv, by simp [hv'], rfl⟩)
  · exact .refl _

def content (d : DocumentColumn) (path : List String) : Node → Except Fault Yield
  | .branch members => yield d path members
  | _ => .ok {}

theorem elementRows_eq (d : DocumentColumn) (path : List String) (node : Node) (items : List Node) :
    elementRows d path (node :: items) = do
      let y ← content d path node
      let rows ← elementRows d path items
      return y.rows ++ rows := by
  cases node with
  | branch members => rw [elementRows, content]
  | scalar value =>
      simp only [elementRows, content]
      cases elementRows d path items <;> rfl
  | list items' =>
      simp only [elementRows, content]
      cases elementRows d path items <;> rfl

theorem alike_members (front back : List (String × Node))
    (h : Alike v v' keys (memberYield d (path ++ [name]) node)
      (memberYield d (path ++ [name]) node')) :
    Alike v v' keys (yield d path (front ++ (name, node) :: back))
      (yield d path (front ++ (name, node') :: back)) := by
  induction front with
  | nil =>
      rw [List.nil_append, List.nil_append, yield, yield]
      exact h.bind _
  | cons m front ih =>
      obtain ⟨first, value⟩ := m
      rw [List.cons_append, List.cons_append, yield, yield]
      exact .after (fun y => ih.bind _) _

theorem alike_elements (front back : List Node)
    (h : Alike v v' keys (content d path node) (content d path node')) :
    Alike v v' keys (elementRows d path (front ++ node :: back))
      (elementRows d path (front ++ node' :: back)) := by
  induction front with
  | nil =>
      rw [List.nil_append, List.nil_append, elementRows_eq, elementRows_eq]
      exact h.bind _
  | cons item front ih =>
      rw [List.cons_append, List.cons_append, elementRows_eq, elementRows_eq]
      exact .after (fun y => ih.bind _) _

theorem alike_branch (h : Alike v v' keys (yield d path members) (yield d path members')) :
    Alike v v' keys (memberYield d path (.branch members))
      (memberYield d path (.branch members')) := by
  rw [memberYield, memberYield]
  split
  · exact h.bind _
  · exact .refl _

theorem alike_list {items items' : List Node}
    (hbranches : items.all (·.isBranch) = items'.all (·.isBranch))
    (hscalars : items.all (·.isScalar) = false) (hscalars' : items'.all (·.isScalar) = false)
    (h : Alike v v' keys (elementRows d path items) (elementRows d path items')) :
    Alike v v' keys (memberYield d path (.list items)) (memberYield d path (.list items')) := by
  rw [memberYield, memberYield, hbranches, hscalars, hscalars']
  split
  · split
    · exact h.bind _
    · exact .refl _
  · exact .refl _

namespace Differ

theorem isBranch_eq (h : Differ v v' keys node node') : node.isBranch = node'.isBranch := by
  cases h <;> rfl

theorem isScalar_eq (h : Differ v v' keys node node') :
    node.isScalar = false ∧ node'.isScalar = false := by
  cases h <;> exact ⟨rfl, rfl⟩

theorem alike (h : Differ v v' keys node node') (path : List String)
    (hhidden : IsHidden d (path ++ keys)) :
    Alike v v' (path ++ keys) (content d path node) (content d path node') ∧
      Alike v v' (path ++ keys) (memberYield d path node) (memberYield d path node') := by
  -- an object gives what its members give, a list what is within its elements: hence both at once
  induction h generalizing path with
  | here name front back =>
      have hmembers := alike_members front back (alike_hidden hhidden : Alike v v' _ _ _)
      exact ⟨hmembers, alike_branch hmembers⟩
  | member name front back _ ih =>
      have hpath : ∀ keys, path ++ name :: keys = path ++ [name] ++ keys := by simp
      rw [hpath] at hhidden ⊢
      have hmembers := alike_members front back (ih (path ++ [name]) hhidden).2
      exact ⟨hmembers, alike_branch hmembers⟩
  | element front back hnode ih =>
      refine ⟨.refl _, alike_list ?_ ?_ ?_ (alike_elements front back (ih path hhidden).1)⟩
      · simp [hnode.isBranch_eq]
      · simp [hnode.isScalar_eq.1]
      · simp [hnode.isScalar_eq.2]

end Differ

theorem rootRows_eq (d : DocumentColumn) (members : List (String × Node)) :
    rootRows d (.branch members) = do
      let y ← yield d [] members
      return y.rows := by
  rw [rootRows]
  cases yield d [] members <;> rfl

theorem Differ.alike_rootRows (h : Differ v v' keys node node') (hhidden : IsHidden d keys) :
    Alike v v' keys (rootRows d node) (rootRows d node') := by
  have hcontent := (h.alike [] hhidden).1
  cases h with
  | here _ _ _ =>
      rw [rootRows_eq, rootRows_eq]
      exact hcontent.bind _
  | member _ _ _ _ =>
      rw [rootRows_eq, rootRows_eq]
      exact hcontent.bind _
  | element _ _ _ => exact .refl _

/-- A hidden member has no influence, whatever its value, save that a mixed list is an error. -/
theorem flatten_of_differ {s s' : String} {doc doc' : Node} (hread : read? s = some doc)
    (hread' : read? s' = some doc') (h : Differ v v' keys doc doc') (hhidden : IsHidden d keys) :
    flatten d s = flatten d s' ∨
      v.isMixed ∧ ¬ v'.isMixed ∧
        flatten d s = .error (.mixedList (DocumentColumn.pathText keys)) ∨
      v'.isMixed ∧ ¬ v.isMixed ∧
        flatten d s' = .error (.mixedList (DocumentColumn.pathText keys)) := by
  have hrows := h.alike_rootRows hhidden
  rw [flatten, flatten, hread, hread']
  exact hrows

private def leafColumn : DocumentColumn := ⟨"M", "DOC", .ofList ["A>y"]⟩

private def withText : String := "\x7b\"A\":\x7b\"x\":\"n\",\"y\":\"1\"\x7d\x7d"

private def withObject : String := "\x7b\"A\":\x7b\"x\":\x7b\"z\":[1,[]]\x7d,\"y\":\"1\"\x7d\x7d"

private def withMixed : String := "\x7b\"A\":\x7b\"x\":[1,[]],\"y\":\"1\"\x7d\x7d"

private def leafRoot (x : Node) : Node :=
  .branch [("A", .branch [("x", x), ("y", .scalar (some "1"))])]

private def mixedNode : Node := .list [.scalar (some "1"), .list []]

private theorem leaf_hidden : IsHidden leafColumn ["A", "x"] :=
  ⟨by decide, by decide +kernel, by decide +kernel⟩

private theorem leaf_differ (v v' : Node) : Differ v v' ["A", "x"] (leafRoot v) (leafRoot v') :=
  .member "A" [] [] (.here "x" [] [("y", .scalar (some "1"))])

theorem hidden_object_passed_over :
    read? withText = some (leafRoot (.scalar (some "n"))) ∧
      read? withObject = some (leafRoot (.branch [("z", mixedNode)])) ∧
      Differ (.scalar (some "n")) (.branch [("z", mixedNode)]) ["A", "x"]
        (leafRoot (.scalar (some "n"))) (leafRoot (.branch [("z", mixedNode)])) ∧
      IsHidden leafColumn ["A", "x"] ∧
      flatten leafColumn withText = flatten leafColumn withObject := by
  have hread : read? withText = some (leafRoot (.scalar (some "n"))) := by cbv
  have hread' : read? withObject = some (leafRoot (.branch [("z", mixedNode)])) := by cbv
  have hdiffer := leaf_differ (.scalar (some "n")) (.branch [("z", mixedNode)])
  refine ⟨hread, hread', hdiffer, leaf_hidden, ?_⟩
  rcases flatten_of_differ hread hread' hdiffer leaf_hidden with h | ⟨hmixed, _⟩ | ⟨hmixed, _⟩
  · exact h
  · cases hmixed
  · cases hmixed

/-- Nothing of the list would be put out, and it is an error all the same. -/
theorem hidden_list_refused :
    read? withText = some (leafRoot (.scalar (some "n"))) ∧
      read? withMixed = some (leafRoot mixedNode) ∧
      Differ (.scalar (some "n")) mixedNode ["A", "x"] (leafRoot (.scalar (some "n")))
        (leafRoot mixedNode) ∧
      IsHidden leafColumn ["A", "x"] ∧
      flatten leafColumn withText = .ok [[⟨"A_y", some "1"⟩]] ∧
      flatten leafColumn withMixed = .error (.mixedList "A>x") :=
  ⟨by cbv, by cbv, leaf_differ _ _, leaf_hidden, by decide +kernel, by decide +kernel⟩

end Document

end WideRow
