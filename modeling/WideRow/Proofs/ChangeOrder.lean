import WideRow.Proofs.BuiltPlan
import WideRow.Proofs.ChangeGroups

namespace WideRow

namespace ChangeSet

variable {cells cells' : List Cell}

theorem familyMarker?_congr (key : Bytes) (h : ∀ c, c ∈ cells ↔ c ∈ cells') (family : String) :
    RowCells.familyMarker? ⟨key, cells⟩ family = RowCells.familyMarker? ⟨key, cells'⟩ family := by
  refine Cell.latest?_congr (fun c hc => (Cell.mem_atAddress.1 hc).2) fun c => ?_
  simp [h]

theorem findTombstones_congr (plan : Plan) (window : Window) (key : Bytes)
    (h : ∀ c, c ∈ cells ↔ c ∈ cells') :
    findTombstones plan window ⟨key, cells⟩ = findTombstones plan window ⟨key, cells'⟩ := by
  have ht : tombstone? window ⟨key, cells⟩ = tombstone? window ⟨key, cells'⟩ := by
    funext family
    rw [tombstone?, tombstone?, familyMarker?_congr key h]
  rw [findTombstones, findTombstones, ht]

theorem unrecognizedOf_congr (schema : Schema) (h : ∀ c, c ∈ cells ↔ c ∈ cells') :
    unrecognizedOf schema cells = unrecognizedOf schema cells' := by
  refine SortedSet.ofList_congr fun a => ?_
  simp [h]

theorem unsplitOf_congr (schema : Schema) (h : ∀ c, c ∈ cells ↔ c ∈ cells') :
    unsplitOf schema cells = unsplitOf schema cells' := by
  refine SortedSet.ofList_congr fun g => ?_
  simp [h]

theorem ofCells_congr (plan : Plan) (tombstones : SortedMap String Nat) (all : Bool)
    (deletion : Option Deletion) (h : ∀ c, c ∈ cells ↔ c ∈ cells') :
    ofCells plan tombstones all deletion cells = ofCells plan tombstones all deletion cells' := by
  have hg : gather (inGroups plan.schema cells) = gather (inGroups plan.schema cells') := by
    refine gather_congr fun ⟨g, c⟩ => ?_
    rw [mem_inGroups, mem_inGroups, h]
  simp only [ofCells, hg, unrecognizedOf_congr plan.schema h, unsplitOf_congr plan.schema h]

/-- Rows of one key with the same cells come to the same changes, or are passed over alike. -/
theorem ofRow_eq_of_mem_iff (plan : Plan) (window : Window) (key : Bytes) (cells cells' : List Cell)
    (h : ∀ c, c ∈ cells ↔ c ∈ cells') :
    ofRow plan window ⟨key, cells⟩ = ofRow plan window ⟨key, cells'⟩ := by
  have hf := findTombstones_congr plan window key h
  have hc (tombstones : SortedMap String Nat) (all : Bool) (deletion : Option Deletion) :
      ofCells plan tombstones all deletion (cells.filter (takesPart window tombstones)) =
        ofCells plan tombstones all deletion (cells'.filter (takesPart window tombstones)) :=
    ofCells_congr plan tombstones all deletion fun c => by
      rw [List.mem_filter, List.mem_filter, h]
  simp only [ofRow, hf, hc]

private def changedInvoice : List Cell :=
  [⟨"D", 100, .put (Text.Utf8.encode "SR1") (Text.Utf8.encode "Y")⟩,
    ⟨"D", 100, .put (Text.Utf8.encode "SR1") (Text.Utf8.encode "N")⟩,
    ⟨"D", 140, .deleteColumn (Text.Utf8.encode "RC2")⟩]

theorem ofRow_reversed_and_repeated :
    (∀ c, c ∈ changedInvoice ↔ c ∈ changedInvoice.reverse ++ changedInvoice) ∧
      (ofRow .invoices ⟨50, 200⟩ ⟨[107], changedInvoice⟩).reason? = none ∧
      ofRow .invoices ⟨50, 200⟩ ⟨[107], changedInvoice⟩ =
        ofRow .invoices ⟨50, 200⟩ ⟨[107], changedInvoice.reverse ++ changedInvoice⟩ :=
  ⟨by simp, by decide, ofRow_eq_of_mem_iff _ _ _ _ _ (by simp)⟩

end ChangeSet

end WideRow
