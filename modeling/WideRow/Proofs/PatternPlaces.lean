import Mathlib.Data.List.Sort
import Mathlib.Logic.Function.Iterate
import WideRow.Pattern.Match

namespace WideRow.Pattern

def Times (R : Nat → Nat → Prop) : Nat → Nat → Nat → Prop
  | 0, i, j => i = j
  | n + 1, i, k => ∃ j, R i j ∧ Times R n j k

section Times

variable {R : Nat → Nat → Prop} {m n i j k : Nat}

theorem times_add : Times R (m + n) i k ↔ ∃ j, Times R m i j ∧ Times R n j k := by
  induction m generalizing i with
  | zero => simp [Times]
  | succ m ih =>
      rw [Nat.succ_add]
      constructor
      · rintro ⟨i', hi, h⟩
        obtain ⟨j, hj, hk⟩ := ih.1 h
        exact ⟨j, ⟨i', hi, hj⟩, hk⟩
      · rintro ⟨j, ⟨i', hi, hj⟩, hk⟩
        exact ⟨i', hi, ih.2 ⟨j, hj, hk⟩⟩

/-- Steps that stay where they are can be left out. -/
theorem Times.shorten (hR : ∀ i j, R i j → i ≤ j) (h : Times R n i k) :
    i ≤ k ∧ ∃ m ≤ k - i, Times R m i k := by
  induction n generalizing i with
  | zero =>
      cases h
      exact ⟨le_rfl, 0, Nat.zero_le _, rfl⟩
  | succ n ih =>
      obtain ⟨j, hj, hk⟩ := h
      obtain ⟨hjk, m, hm, hmk⟩ := ih hk
      have hij := hR i j hj
      refine ⟨hij.trans hjk, ?_⟩
      rcases hij.eq_or_lt with rfl | hlt
      · exact ⟨m, hm, hmk⟩
      · exact ⟨m + 1, by omega, j, hj, hmk⟩

theorem Times.mem_of_closed {s : List Nat} (h : Times R n i j) (hi : i ∈ s)
    (hs : ∀ i ∈ s, ∀ k, R i k → k ∈ s) : j ∈ s := by
  induction n generalizing i with
  | zero => exact h ▸ hi
  | succ n ih =>
      obtain ⟨k, hik, hkj⟩ := h
      exact ih hkj (hs i hi k hik)

end Times

namespace Places

variable {s t : Places} {i j n : Nat}

abbrev Sorted (s : Places) : Prop := s.Pairwise (· > ·)

theorem without_sublist (s t : Places) : (s.without t).Sublist s := by
  induction s generalizing t with
  | nil => exact .slnil
  | cons i s ih =>
      rw [without]
      split
      · exact (ih _).cons _
      · exact (ih _).cons_cons _

theorem sorted_without (hs : s.Sorted) : (s.without t).Sorted := hs.sublist (without_sublist s t)

theorem mem_dropWhile_lt (ht : Sorted t) : j ∈ t.dropWhile (i < ·) ↔ j ∈ t ∧ j ≤ i := by
  induction t with
  | nil => simp
  | cons k t ih =>
      obtain ⟨hk, ht⟩ := List.pairwise_cons.1 ht
      by_cases hik : i < k
      · rw [List.dropWhile_cons_of_pos (by simpa using hik), ih ht, List.mem_cons]
        constructor
        · exact fun h => ⟨.inr h.1, h.2⟩
        · rintro ⟨rfl | hj, hji⟩
          · omega
          · exact ⟨hj, hji⟩
      · rw [List.dropWhile_cons_of_neg (by simpa using hik)]
        refine (and_iff_left_of_imp fun hj => ?_).symm
        rcases List.mem_cons.1 hj with rfl | hj
        · omega
        · have := hk j hj
          omega

theorem head?_dropWhile_lt (ht : Sorted t) : (t.dropWhile (i < ·)).head? = some i ↔ i ∈ t := by
  have hmem := mem_dropWhile_lt (i := i) (j := i) ht
  rw [and_iff_left le_rfl] at hmem
  rw [← hmem]
  constructor
  · exact List.mem_of_head?
  · intro hi
    have hdrop : Sorted (t.dropWhile (i < ·)) := ht.sublist (List.dropWhile_sublist _)
    obtain ⟨k, u, hu⟩ := List.exists_cons_of_ne_nil (List.ne_nil_of_mem hi)
    have hk : k ≤ i := ((mem_dropWhile_lt ht).1 (hu ▸ List.mem_cons_self)).2
    rw [hu] at hi hdrop ⊢
    rcases List.mem_cons.1 hi with rfl | hiu
    · rfl
    · have := (List.pairwise_cons.1 hdrop).1 i hiu
      omega

theorem mem_without (hs : Sorted s) (ht : Sorted t) : j ∈ without s t ↔ j ∈ s ∧ j ∉ t := by
  induction s generalizing t with
  | nil => simp [without]
  | cons i s ih =>
      obtain ⟨hi, hs⟩ := List.pairwise_cons.1 hs
      have hdrop : Sorted (t.dropWhile (i < ·)) := ht.sublist (List.dropWhile_sublist _)
      -- What is dropped is greater than all that is still to be judged.
      have hrest : j ∈ s → (j ∈ t.dropWhile (i < ·) ↔ j ∈ t) := by
        intro hj
        rw [mem_dropWhile_lt ht, and_iff_left (hi j hj).le]
      rw [without, List.mem_cons]
      by_cases hit : i ∈ t
      · rw [if_pos (by simpa using (head?_dropWhile_lt ht).2 hit), ih hs hdrop]
        constructor
        · exact fun h => ⟨.inr h.1, mt (hrest h.1).2 h.2⟩
        · rintro ⟨rfl | hj, hjt⟩
          · exact absurd hit hjt
          · exact ⟨hj, mt (hrest hj).1 hjt⟩
      · rw [if_neg (by simpa using mt (head?_dropWhile_lt ht).1 hit), List.mem_cons, ih hs hdrop]
        constructor
        · rintro (rfl | ⟨hj, hjt⟩)
          · exact ⟨.inl rfl, hit⟩
          · exact ⟨.inr hj, mt (hrest hj).2 hjt⟩
        · rintro ⟨rfl | hj, hjt⟩
          · exact .inl rfl
          · exact .inr ⟨hj, mt (hrest hj).1 hjt⟩

theorem mem_union (hs : Sorted s) (ht : Sorted t) : j ∈ union s t ↔ j ∈ s ∨ j ∈ t := by
  rw [union, List.mem_merge, mem_without ht hs]
  by_cases hj : j ∈ s
  · simp [hj]
  · simp [hj]

theorem sorted_union (hs : Sorted s) (ht : Sorted t) : Sorted (union s t) := by
  have hle : (union s t).Pairwise (· ≥ ·) :=
    List.Pairwise.merge (hs.imp le_of_lt) ((sorted_without ht).imp le_of_lt)
  have hdisjoint : s.Disjoint (without t s) := fun i hi hit => ((mem_without ht hs).1 hit).2 hi
  have hnodup : (union s t).Nodup := by
    apply (List.merge_perm_append _).nodup_iff.2
    apply List.Nodup.append _ _ hdisjoint
    · exact hs.imp ne_of_gt
    · exact (sorted_without ht).imp ne_of_gt
  exact (hle.and hnodup).imp fun h => lt_of_le_of_ne h.1 h.2.symm

theorem sorted_upTo (n : Nat) : Sorted (upTo n) :=
  List.pairwise_reverse.2 List.pairwise_lt_range

theorem mem_upTo : i ∈ upTo n ↔ i ≤ n := by
  rw [upTo, List.mem_reverse, List.mem_range, Nat.lt_succ_iff]

theorem after_eq_iterate (step : Places → Places) (n : Nat) (s : Places) :
    after step n s = step^[n] s := by
  induction n generalizing s with
  | zero => rfl
  | succ n ih =>
      rw [after, Function.iterate_succ_apply]
      by_cases h : step s = s
      · simp [h, Function.iterate_fixed h n]
      · simp [h, ih]

structure Takes (step : Places → Places) (R : Nat → Nat → Prop) : Prop where
  sorted {s : Places} (hs : s.Sorted) : (step s).Sorted
  mem_iff {s : Places} {j : Nat} (hs : s.Sorted) : j ∈ step s ↔ ∃ i ∈ s, R i j

namespace Takes

variable {step : Places → Places} {R : Nat → Nat → Prop} {seen last : Places}

theorem iterate (h : Takes step R) (n : Nat) : Takes step^[n] (Times R n) := by
  induction n with
  | zero =>
      refine ⟨fun hs => hs, fun hs => ?_⟩
      simp [Times]
  | succ n ih =>
      refine ⟨fun hs => ?_, fun hs => ?_⟩
      · rw [Function.iterate_succ_apply]
        exact ih.sorted (h.sorted hs)
      · rw [Function.iterate_succ_apply, ih.mem_iff (h.sorted hs)]
        constructor
        · rintro ⟨k, hk, hj⟩
          obtain ⟨i, hi, hik⟩ := (h.mem_iff hs).1 hk
          exact ⟨i, hi, k, hik, hj⟩
        · rintro ⟨i, hi, k, hik, hj⟩
          exact ⟨k, (h.mem_iff hs).2 ⟨i, hi, hik⟩, hj⟩

theorem sorted_spread (h : Takes step R) (hseen : seen.Sorted) (hlast : last.Sorted) (n : Nat) :
    (spread step n seen last).Sorted := by
  induction n generalizing seen last with
  | zero => exact hseen
  | succ n ih =>
      have hfresh : ((step last).without seen).Sorted := sorted_without (h.sorted hlast)
      rw [spread]
      split
      · exact hseen
      · exact ih (sorted_union hseen hfresh) hfresh

/-- What was seen before the last step has been stepped from already, so the search may go on from
what the last step added. -/
theorem mem_spread (h : Takes step R) (hseen : seen.Sorted) (hlast : last.Sorted)
    (hsub : ∀ i ∈ last, i ∈ seen)
    (hdone : ∀ i ∈ seen, i ∉ last → ∀ j, R i j → j ∈ seen) (n : Nat) :
    j ∈ spread step n seen last ↔ ∃ m ≤ n, ∃ i ∈ seen, Times R m i j := by
  induction n generalizing seen last with
  | zero => simp [spread, Times]
  | succ n ih =>
      have hstep : (step last).Sorted := h.sorted hlast
      have hfresh : ((step last).without seen).Sorted := sorted_without hstep
      have hmem {k : Nat} : k ∈ (step last).without seen ↔ (∃ i ∈ last, R i k) ∧ k ∉ seen := by
        rw [mem_without hstep hseen, h.mem_iff hlast]
      have hnext : ∀ i ∈ seen, ∀ k, R i k → k ∈ seen ∨ k ∈ (step last).without seen := by
        intro i hi k hik
        by_cases hk : k ∈ seen
        · exact .inl hk
        · by_cases hil : i ∈ last
          · exact .inr (hmem.2 ⟨⟨i, hil, hik⟩, hk⟩)
          · exact .inl (hdone i hi hil k hik)
      rw [spread]
      by_cases hnone : ((step last).without seen).isEmpty
      · rw [if_pos hnone]
        refine ⟨fun hj => ⟨0, Nat.zero_le _, j, hj, rfl⟩, ?_⟩
        rintro ⟨m, -, i, hi, hij⟩
        apply hij.mem_of_closed hi
        intro i hi k hik
        rw [List.isEmpty_iff.1 hnone] at hnext
        exact (hnext i hi k hik).resolve_right List.not_mem_nil
      · rw [if_neg hnone, ih (sorted_union hseen hfresh) hfresh]
        · constructor
          · rintro ⟨m, hm, i, hi, hij⟩
            rcases (mem_union hseen hfresh).1 hi with hi | hi
            · exact ⟨m, by omega, i, hi, hij⟩
            · obtain ⟨⟨i', hi', hii⟩, -⟩ := hmem.1 hi
              exact ⟨m + 1, by omega, i', hsub i' hi', i, hii, hij⟩
          · rintro ⟨m, hm, i, hi, hij⟩
            cases m with
            | zero => exact ⟨0, Nat.zero_le _, i, (mem_union hseen hfresh).2 (.inl hi), hij⟩
            | succ m =>
                obtain ⟨k, hik, hkj⟩ := hij
                exact ⟨m, by omega, k, (mem_union hseen hfresh).2 (hnext i hi k hik), hkj⟩
        · exact fun i hi => (mem_union hseen hfresh).2 (.inr hi)
        · intro i hi hifresh k hik
          have hi' := ((mem_union hseen hfresh).1 hi).resolve_right hifresh
          exact (mem_union hseen hfresh).2 (hnext i hi' k hik)

end Takes

end Places

variable {text : Text} {p : Pattern} {i j : Nat}

def Bounded : Pattern → Prop
  | empty | letter _ | anchor _ _ => True
  | seq p q => p.Bounded ∧ q.Bounded
  | either p q => p.Bounded ∧ q.Bounded
  | repeated p least most => p.Bounded ∧ most.all (least ≤ ·)

theorem Matches.le (h : Matches text p i j) : i ≤ j := by
  induction h with
  | empty | anchor | none => exact le_rfl
  | letter => exact Nat.le_succ _
  | seq _ _ hp hq => exact hp.trans hq
  | left _ h | right _ h => exact h
  | needed _ _ hp hr | more _ _ hp hr => exact hp.trans hr

theorem Matches.le_size (h : Matches text p i j) (hij : i < j) : j ≤ text.size := by
  induction h with
  | empty | anchor | none => omega
  | @letter set i h =>
      simp only [isAt, codeAt?, Option.any_map, Option.any_eq_true] at h
      obtain ⟨c, hc, -⟩ := h
      obtain ⟨hi, -⟩ := Array.getElem?_eq_some_iff.1 hc
      omega
  | left _ h | right _ h => exact h hij
  | seq hp hq ihp ihq | needed hp hq ihp ihq | more hp hq ihp ihq =>
      rcases hq.le.eq_or_lt with rfl | hlt
      · exact ihp hij
      · exact ihq hlt

theorem all_map_succ (most : Option Nat) (n : Nat) :
    (most.map (· + 1)).all (n + 1 ≤ ·) = most.all (n ≤ ·) := by
  cases most <;> simp

theorem matches_repeated_iff {least : Nat} {most : Option Nat} :
    Matches text (repeated p least most) i j ↔
      ∃ n, least ≤ n ∧ most.all (n ≤ ·) ∧ Times (Matches text p) n i j := by
  constructor
  · intro h
    generalize hq : repeated p least most = q at h
    induction h generalizing least most with
    | empty | letter | anchor | seq | left | right => cases hq
    | none =>
        cases hq
        exact ⟨0, le_rfl, by simp, rfl⟩
    | needed hp _ _ ih =>
        cases hq
        obtain ⟨n, hleast, hmost, hn⟩ := ih rfl
        exact ⟨n + 1, Nat.succ_le_succ hleast, by rwa [all_map_succ], _, hp, hn⟩
    | more hp _ _ ih =>
        cases hq
        obtain ⟨n, -, hmost, hn⟩ := ih rfl
        exact ⟨n + 1, Nat.zero_le _, by rwa [all_map_succ], _, hp, hn⟩
  · rintro ⟨n, hleast, hmost, hn⟩
    induction n generalizing least most i with
    | zero =>
        cases hn
        cases Nat.le_zero.1 hleast
        exact .none _
    | succ n ih =>
        obtain ⟨k, hk, hn⟩ := hn
        obtain ⟨most, rfl⟩ : ∃ m : Option Nat, most = m.map (· + 1) := by
          cases most with
          | none => exact ⟨none, rfl⟩
          | some m =>
              obtain ⟨m, rfl⟩ := Nat.exists_eq_add_one_of_ne_zero (n := m) (by simp at hmost; omega)
              exact ⟨some m, rfl⟩
        rw [all_map_succ] at hmost
        cases least with
        | zero => exact .more hk (ih (Nat.zero_le _) hmost hn)
        | succ least => exact .needed hk (ih (Nat.le_of_succ_le_succ hleast) hmost hn)

/-- How often a repetition is gone over once it has been as often as it has to be. A match grows at
most as often as the text has characters. -/
def roundsLeft (text : Text) (least : Nat) (most : Option Nat) : Nat :=
  match most with
  | none => text.size
  | some most => most - least

theorem matches_repeated_iff_rounds {least : Nat} {most : Option Nat}
    (hbounds : most.all (least ≤ ·)) :
    Matches text (repeated p least most) i j ↔
      ∃ k, Times (Matches text p) least i k ∧
        ∃ m ≤ roundsLeft text least most, Times (Matches text p) m k j := by
  rw [matches_repeated_iff]
  constructor
  · rintro ⟨n, hleast, hmost, hn⟩
    obtain ⟨m, rfl⟩ := Nat.exists_eq_add_of_le hleast
    obtain ⟨k, hk, hm⟩ := times_add.1 hn
    refine ⟨k, hk, ?_⟩
    cases most with
    | some most => exact ⟨m, by simp [roundsLeft] at hmost ⊢; omega, hm⟩
    | none =>
        obtain ⟨hkj, m', hm', hshort⟩ := hm.shorten fun i j h => h.le
        have hany : Matches text (repeated p 0 none) k j :=
          matches_repeated_iff.2 ⟨m, Nat.zero_le _, rfl, hm⟩
        refine ⟨m', hm'.trans ?_, hshort⟩
        rcases hkj.eq_or_lt with rfl | hlt
        · simp
        · exact (Nat.sub_le _ _).trans (hany.le_size hlt)
  · rintro ⟨k, hk, m, hm, hj⟩
    refine ⟨least + m, Nat.le_add_right _ _, ?_, times_add.2 ⟨k, hk, hj⟩⟩
    cases most with
    | none => rfl
    | some most => simp [roundsLeft] at hbounds hm ⊢; omega

theorem takes_ends (hp : p.Bounded) : Places.Takes (p.ends text) (Matches text p) := by
  induction p with
  | empty =>
      refine ⟨fun hs => hs, fun hs => ⟨fun hj => ⟨_, hj, .empty _⟩, ?_⟩⟩
      rintro ⟨i, hi, h⟩
      cases h
      exact hi
  | letter set =>
      refine ⟨fun hs => ?_, fun hs => ?_⟩
      · exact List.Pairwise.map _ (fun _ _ h => Nat.succ_lt_succ h) (hs.filter _)
      · simp only [ends, List.mem_map, List.mem_filter]
        constructor
        · rintro ⟨i, ⟨hi, h⟩, rfl⟩
          exact ⟨i, hi, .letter h⟩
        · rintro ⟨i, hi, h⟩
          cases h with
          | letter h => exact ⟨i, ⟨hi, h⟩, rfl⟩
  | anchor kind word =>
      refine ⟨fun hs => hs.filter _, fun hs => ?_⟩
      rw [ends, List.mem_filter]
      constructor
      · exact fun ⟨hj, h⟩ => ⟨_, hj, .anchor h⟩
      · rintro ⟨i, hi, h⟩
        cases h with
        | anchor h => exact ⟨hi, h⟩
  | seq p q hp' hq' =>
      refine ⟨fun hs => (hq' hp.2).sorted ((hp' hp.1).sorted hs), fun hs => ?_⟩
      rw [ends, (hq' hp.2).mem_iff ((hp' hp.1).sorted hs)]
      constructor
      · rintro ⟨k, hk, hj⟩
        obtain ⟨i, hi, hik⟩ := ((hp' hp.1).mem_iff hs).1 hk
        exact ⟨i, hi, .seq hik hj⟩
      · rintro ⟨i, hi, h⟩
        cases h with
        | seq hik hkj => exact ⟨_, ((hp' hp.1).mem_iff hs).2 ⟨i, hi, hik⟩, hkj⟩
  | either p q hp' hq' =>
      refine ⟨fun hs => Places.sorted_union ((hp' hp.1).sorted hs) ((hq' hp.2).sorted hs),
        fun hs => ?_⟩
      rw [ends, Places.mem_union ((hp' hp.1).sorted hs) ((hq' hp.2).sorted hs),
        (hp' hp.1).mem_iff hs, (hq' hp.2).mem_iff hs]
      constructor
      · rintro (⟨i, hi, h⟩ | ⟨i, hi, h⟩)
        · exact ⟨i, hi, .left h⟩
        · exact ⟨i, hi, .right h⟩
      · rintro ⟨i, hi, h⟩
        cases h with
        | left h => exact .inl ⟨i, hi, h⟩
        | right h => exact .inr ⟨i, hi, h⟩
  | repeated p least most ih =>
      have hstep := ih hp.1
      have hneeded := hstep.iterate least
      have hends (s : Places) : (repeated p least most).ends text s =
          Places.spread (p.ends text) (roundsLeft text least most) ((p.ends text)^[least] s)
            ((p.ends text)^[least] s) := by
        simp only [ends, Places.after_eq_iterate]
        rfl
      refine ⟨fun hs => ?_, fun hs => ?_⟩
      · rw [hends]
        exact hstep.sorted_spread (hneeded.sorted hs) (hneeded.sorted hs) _
      · rw [hends, hstep.mem_spread (hneeded.sorted hs) (hneeded.sorted hs) (fun _ h => h)
          fun _ h hnot => absurd h hnot]
        simp only [matches_repeated_iff_rounds hp.2, hneeded.mem_iff hs]
        constructor
        · rintro ⟨m, hm, k, ⟨i, hi, hk⟩, hj⟩
          exact ⟨i, hi, k, hk, m, hm, hj⟩
        · rintro ⟨i, hi, k, hk, m, hm, hj⟩
          exact ⟨m, hm, k, ⟨i, hi, hk⟩, hj⟩

/-- A pattern is in a text if it matches from any of its places. -/
theorem isIn_iff (hp : p.Bounded) (s : String) :
    p.isIn s ↔ ∃ i j, i ≤ s.toList.length ∧ Matches s.toList.toArray p i j := by
  have htakes : Places.Takes (p.ends s.toList.toArray) (Matches s.toList.toArray p) := takes_ends hp
  have hmem {j : Nat} := htakes.mem_iff (j := j) (Places.sorted_upTo s.toList.toArray.size)
  simp only [Places.mem_upTo, List.size_toArray] at hmem
  simp only [isIn, Bool.not_eq_true', List.isEmpty_eq_false_iff_exists_mem, List.size_toArray, hmem]
  exact exists_comm

end WideRow.Pattern
