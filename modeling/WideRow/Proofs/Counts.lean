import Mathlib.Algebra.Group.Defs
import Mathlib.Algebra.GroupWithZero.Nat
import WideRow.Proofs.Maps
import WideRow.Stats

namespace WideRow

namespace SortedMap

variable {κ : Type} [Ord κ] [Std.TransOrd κ]

theorem sum_insertEntry (k : κ) (n : Nat) {es : List (κ × Nat)}
    (h : es.Pairwise fun a b => compare a.1 b.1 = .lt) :
    ((insertEntry k n es).map (·.2)).sum + ((⟨es, h⟩ : SortedMap κ Nat).get? k).getD 0 =
      (es.map (·.2)).sum + n := by
  induction es with
  | nil => simp [insertEntry, get?]
  | cons e rest ih =>
      obtain ⟨hlt, hrest⟩ := List.pairwise_cons.1 h
      have ih := ih hrest
      rw [insertEntry]
      split
      case h_1 hk =>
        have hnone : (⟨e :: rest, h⟩ : SortedMap κ Nat).get? k = none := by
          refine List.findSome?_eq_none_iff.2 fun x hx => ?_
          rcases List.mem_cons.1 hx with rfl | hx
          · simp [hk]
          · simp [Std.TransCmp.lt_trans hk (hlt x hx)]
        simp only [hnone, List.map_cons, List.sum_cons, Option.getD_none]
        omega
      case h_2 hk =>
        have hsome : (⟨e :: rest, h⟩ : SortedMap κ Nat).get? k = some e.2 := by simp [get?, hk]
        simp only [hsome, List.map_cons, List.sum_cons, Option.getD_some]
        omega
      case h_3 hk =>
        have hskip : (⟨e :: rest, h⟩ : SortedMap κ Nat).get? k =
            (⟨rest, hrest⟩ : SortedMap κ Nat).get? k := by simp [get?, hk]
        rw [hskip, List.map_cons, List.map_cons, List.sum_cons, List.sum_cons]
        omega

theorem sum_values_update (m : SortedMap κ Nat) (k : κ) (n : Nat) :
    (m.update k fun found => found.getD 0 + n).values.sum = m.values.sum + n := by
  have h := sum_insertEntry k ((m.get? k).getD 0 + n) m.ascending
  change (m.update k fun found => found.getD 0 + n).values.sum + (m.get? k).getD 0 =
    m.values.sum + ((m.get? k).getD 0 + n) at h
  omega

end SortedMap

namespace Stats

theorem get?_foldl_addSkips {es : List (Skip × Nat)}
    (hes : es.Pairwise fun a b => compare a.1 b.1 = .lt) (m : SortedMap Skip Nat) (reason : Skip) :
    (es.foldl (fun m e => addSkips m e.1 e.2) m).get? reason =
      (m.get? reason).merge (· + ·) ((⟨es, hes⟩ : SortedMap Skip Nat).get? reason) := by
  induction es generalizing m with
  | nil => exact Option.merge_none_right.symm
  | cons e rest ih =>
      obtain ⟨hlt, hrest⟩ := List.pairwise_cons.1 hes
      rw [List.foldl_cons, ih hrest, addSkips, SortedMap.get?_update]
      by_cases h : reason = e.1
      · subst h
        have hsome : (⟨e :: rest, hes⟩ : SortedMap Skip Nat).get? e.1 = some e.2 :=
          SortedMap.get?_of_mem List.mem_cons_self
        have hnone : (⟨rest, hrest⟩ : SortedMap Skip Nat).get? e.1 = none := by
          refine Option.eq_none_iff_forall_not_mem.2 fun n hn => ?_
          have hlt := hlt _ (SortedMap.mem_of_get?_eq_some hn)
          rw [Std.ReflOrd.compare_self] at hlt
          cases hlt
        rw [hnone, hsome]
        cases m.get? e.1 <;> simp
      · have hskip : (⟨e :: rest, hes⟩ : SortedMap Skip Nat).get? reason =
            (⟨rest, hrest⟩ : SortedMap Skip Nat).get? reason := by
          simp [SortedMap.get?, h]
        rw [hskip, if_neg h]

theorem get?_skipped_merge (s t : Stats) (reason : Skip) :
    (s.merge t).skipped.get? reason =
      (s.skipped.get? reason).merge (· + ·) (t.skipped.get? reason) :=
  get?_foldl_addSkips t.skipped.ascending s.skipped reason

theorem merge_assoc (s t u : Stats) : (s.merge t).merge u = s.merge (t.merge u) := by
  have hskipped : ((s.merge t).merge u).skipped = (s.merge (t.merge u)).skipped :=
    SortedMap.ext_get? fun reason => by
      simp only [get?_skipped_merge, Std.Associative.assoc]
  simp only [merge] at hskipped ⊢
  simp only [hskipped, Nat.add_assoc]

theorem empty_merge (s : Stats) : merge {} s = s := by
  have hskipped : (merge {} s).skipped = s.skipped :=
    SortedMap.ext_get? fun reason => by
      rw [get?_skipped_merge]
      exact Option.merge_none_left
  simp only [merge] at hskipped ⊢
  simp only [hskipped, Nat.zero_add]

instance : Add Stats := ⟨merge⟩

instance : Zero Stats := ⟨{}⟩

theorem add_eq_merge (s t : Stats) : s + t = s.merge t := rfl

theorem zero_eq_empty : (0 : Stats) = {} := rfl

instance : AddMonoid Stats where
  add_assoc := merge_assoc
  zero_add := empty_merge
  add_zero _ := rfl
  nsmul := nsmulRec

/-- A count of its own, whatever was counted before. -/
def Counts (f : Stats → Stats) : Prop := ∀ s, f s = s + f 0

theorem counts_withRow : Counts withRow := fun _ => rfl

theorem counts_withSkip (reason : Skip) : Counts (·.withSkip reason) := fun _ => rfl

theorem counts_withRecords (n : Nat) : Counts (·.withRecords n) := fun s => by
  simp [add_eq_merge, zero_eq_empty, merge, withRecords, SortedMap.empty]

theorem counts_withDeletes (d : DeleteCounts) : Counts (·.withDeletes d) := fun s => by
  simp [add_eq_merge, zero_eq_empty, merge, withDeletes, SortedMap.empty]

theorem counts_withRead (read : Read) : Counts (·.withRead read) := fun s => by
  cases read <;> rfl

theorem counts_withDropped (columns groups : Nat) : Counts (·.withDropped columns groups) :=
  fun s => by simp [add_eq_merge, zero_eq_empty, merge, withDropped, SortedMap.empty]

end Stats

end WideRow
