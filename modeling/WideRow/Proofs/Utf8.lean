import WideRow.Text.Utf8

namespace WideRow.Text.Utf8

theorem val_ofNat {n : Nat} (h : n.isValidChar) : (Char.ofNat n).val.toNat = n := by
  rw [Char.ofNat, dif_pos h]
  rfl

theorem ofNat_eq_of_toNat {n : Nat} {b : UInt8} (h : n = b.toNat) : UInt8.ofNat n = b := by
  rw [h, UInt8.ofNat_toNat]

/-- What a lead byte asks for, in numbers. The bounds on the byte behind it keep out what is
written too long, surrogates and what is no character. -/
theorem lead_eq_some {b lo hi : UInt8} {n acc : Nat} (h : lead b = some (n, lo, hi, acc)) :
    (n = 0 ∧ b.toNat < 0x80 ∧ acc = b.toNat) ∨
    (n = 1 ∧ 0xC2 ≤ b.toNat ∧ b.toNat < 0xE0 ∧ acc = b.toNat - 0xC0 ∧ lo = 0x80 ∧ hi = 0xBF) ∨
    (n = 2 ∧ 0xE0 ≤ b.toNat ∧ b.toNat < 0xF0 ∧ acc = b.toNat - 0xE0 ∧ 0x80 ≤ lo.toNat ∧
      hi.toNat ≤ 0xBF ∧ (b.toNat = 0xE0 → 0xA0 ≤ lo.toNat) ∧ (b.toNat = 0xED → hi.toNat ≤ 0x9F)) ∨
    (n = 3 ∧ 0xF0 ≤ b.toNat ∧ b.toNat < 0xF5 ∧ acc = b.toNat - 0xF0 ∧ 0x80 ≤ lo.toNat ∧
      hi.toNat ≤ 0xBF ∧ (b.toNat = 0xF0 → 0x90 ≤ lo.toNat) ∧
      (b.toNat = 0xF4 → hi.toNat ≤ 0x8F)) := by
  simp only [lead, UInt8.lt_iff_toNat_lt, ← UInt8.toNat_inj] at h
  split at h
  next h1 =>
    simp at h h1
    omega
  next h1 =>
    split at h
    next => cases h
    next h2 =>
      split at h
      next h3 =>
        simp at h h1 h2 h3
        obtain ⟨rfl, rfl, rfl, rfl⟩ := h
        simp
        omega
      next h3 =>
        split at h
        next h4 =>
          simp at h h1 h2 h3 h4
          obtain ⟨rfl, rfl, rfl, rfl⟩ := h
          refine .inr (.inr (.inl ⟨rfl, by omega, by omega, rfl, ?_, ?_, ?_, ?_⟩)) <;>
            split <;> simp <;> omega
        next h4 =>
          split at h
          next h5 =>
            simp at h h1 h2 h3 h4 h5
            obtain ⟨rfl, rfl, rfl, rfl⟩ := h
            refine .inr (.inr (.inr ⟨rfl, by omega, by omega, rfl, ?_, ?_, ?_, ?_⟩)) <;>
              split <;> simp <;> omega
          next => cases h

theorem tail_zero_eq_some {acc code : Nat} {lo hi : UInt8} {bs rest : Bytes}
    (h : tail 0 lo hi acc bs = (some code, rest)) : code = acc ∧ rest = bs := by
  simp only [tail, Prod.mk.injEq, Option.some.injEq] at h
  exact ⟨h.1.symm, h.2.symm⟩

theorem tail_succ_eq_some {n acc code : Nat} {lo hi : UInt8} {bs rest : Bytes}
    (h : tail (n + 1) lo hi acc bs = (some code, rest)) :
    ∃ x xs, bs = x :: xs ∧ lo.toNat ≤ x.toNat ∧ x.toNat ≤ hi.toNat ∧
      tail n 0x80 0xBF (acc * 64 + (x.toNat - 0x80)) xs = (some code, rest) := by
  cases bs with
  | nil => cases h
  | cons x xs =>
      rw [tail] at h
      split at h
      next hx =>
        exact ⟨x, xs, rfl, UInt8.le_iff_toNat_le.1 hx.1, UInt8.le_iff_toNat_le.1 hx.2, h⟩
      next => cases h

theorem encodeChar_two {v : Nat} (h : 0x80 ≤ v) (h' : v ≤ 0x7FF) :
    String.utf8EncodeChar (Char.ofNat v) =
      [UInt8.ofNat (v / 64 % 0x20 + 0xC0), UInt8.ofNat (v % 0x40 + 0x80)] := by
  have hv : (Char.ofNat v).val.toNat = v := val_ofNat (.inl (by omega))
  simp only [String.utf8EncodeChar, hv]
  rw [if_neg (by omega), if_pos h']

theorem encodeChar_three {v : Nat} (h : 0x800 ≤ v) (h' : v ≤ 0xFFFF) (hv : v.isValidChar) :
    String.utf8EncodeChar (Char.ofNat v) =
      [UInt8.ofNat (v / 4096 % 0x10 + 0xE0), UInt8.ofNat (v / 64 % 0x40 + 0x80),
        UInt8.ofNat (v % 0x40 + 0x80)] := by
  simp only [String.utf8EncodeChar, val_ofNat hv]
  rw [if_neg (by omega), if_neg (by omega), if_pos h']

theorem encodeChar_four {v : Nat} (h : 0x10000 ≤ v) (h' : v < 0x110000) :
    String.utf8EncodeChar (Char.ofNat v) =
      [UInt8.ofNat (v / 262144 % 0x08 + 0xF0), UInt8.ofNat (v / 4096 % 0x40 + 0x80),
        UInt8.ofNat (v / 64 % 0x40 + 0x80), UInt8.ofNat (v % 0x40 + 0x80)] := by
  have hv : (Char.ofNat v).val.toNat = v := val_ofNat (.inr ⟨by omega, h'⟩)
  simp only [String.utf8EncodeChar, hv]
  rw [if_neg (by omega), if_neg (by omega), if_neg (by omega)]

theorem next_eq_some {b : UInt8} {bs rest : Bytes} {c : Char} (h : next b bs = (some c, rest)) :
    b :: bs = String.utf8EncodeChar c ++ rest := by
  rw [next] at h
  split at h
  next => cases h
  next n lo hi acc hl =>
    simp only [Prod.mk.injEq, Option.map_eq_some_iff] at h
    obtain ⟨⟨code, hcode, rfl⟩, rfl⟩ := h
    have ht : tail n lo hi acc bs = (some code, (tail n lo hi acc bs).2) := by rw [← hcode]
    generalize (tail n lo hi acc bs).2 = rest at ht ⊢
    rcases lead_eq_some hl with ⟨rfl, hb, hacc⟩ | ⟨rfl, hb, hb', hacc, rfl, rfl⟩ |
      ⟨rfl, hb, hb', hacc, hlo, hhi, hlong, hsur⟩ | ⟨rfl, hb, hb', hacc, hlo, hhi, hlong, hmax⟩
    · obtain ⟨rfl, rfl⟩ := tail_zero_eq_some ht
      subst hacc
      have hv : (Char.ofNat b.toNat).val.toNat = b.toNat :=
        val_ofNat (by simp only [Nat.isValidChar]; omega)
      simp only [String.utf8EncodeChar, hv]
      rw [if_pos (by omega), UInt8.ofNat_toNat]
      rfl
    · obtain ⟨x, xs, rfl, hx, hx', ht⟩ := tail_succ_eq_some ht
      obtain ⟨hcode, rfl⟩ := tail_zero_eq_some ht
      have : (0x80 : UInt8).toNat = 0x80 := rfl
      have : (0xBF : UInt8).toNat = 0xBF := rfl
      rw [encodeChar_two (by omega) (by omega), ofNat_eq_of_toNat (b := b) (by omega),
        ofNat_eq_of_toNat (b := x) (by omega)]
      rfl
    · obtain ⟨x, xs, rfl, hx, hx', ht⟩ := tail_succ_eq_some ht
      obtain ⟨y, ys, rfl, hy, hy', ht⟩ := tail_succ_eq_some ht
      obtain ⟨hcode, rfl⟩ := tail_zero_eq_some ht
      have : (0x80 : UInt8).toNat = 0x80 := rfl
      have : (0xBF : UInt8).toNat = 0xBF := rfl
      rw [encodeChar_three (by omega) (by omega) (by simp only [Nat.isValidChar]; omega),
        ofNat_eq_of_toNat (b := b) (by omega), ofNat_eq_of_toNat (b := x) (by omega),
        ofNat_eq_of_toNat (b := y) (by omega)]
      rfl
    · obtain ⟨x, xs, rfl, hx, hx', ht⟩ := tail_succ_eq_some ht
      obtain ⟨y, ys, rfl, hy, hy', ht⟩ := tail_succ_eq_some ht
      obtain ⟨z, zs, rfl, hz, hz', ht⟩ := tail_succ_eq_some ht
      obtain ⟨hcode, rfl⟩ := tail_zero_eq_some ht
      have : (0x80 : UInt8).toNat = 0x80 := rfl
      have : (0xBF : UInt8).toNat = 0xBF := rfl
      rw [encodeChar_four (by omega) (by omega), ofNat_eq_of_toNat (b := b) (by omega),
        ofNat_eq_of_toNat (b := x) (by omega), ofNat_eq_of_toNat (b := y) (by omega),
        ofNat_eq_of_toNat (b := z) (by omega)]
      rfl

theorem flatMap_encodeChar_of_charsWithin {fuel : Nat} {bs : Bytes} {cs : List Char}
    (hf : bs.length ≤ fuel) (h : (charsWithin fuel bs).mapM id = some cs) :
    cs.flatMap String.utf8EncodeChar = bs := by
  induction fuel generalizing bs cs with
  | zero =>
      have hbs : bs = [] := List.eq_nil_of_length_eq_zero (by omega)
      subst hbs
      simp [charsWithin] at h
      subst h
      rfl
  | succ fuel ih =>
      cases bs with
      | nil =>
          simp [charsWithin] at h
          subst h
          rfl
      | cons b bs =>
          rw [charsWithin, List.mapM_cons] at h
          obtain ⟨c, hc, h⟩ := Option.bind_eq_some_iff.1 h
          obtain ⟨ds, hds, h⟩ := Option.bind_eq_some_iff.1 h
          cases h
          have hn : b :: bs = String.utf8EncodeChar c ++ (next b bs).2 :=
            next_eq_some (Prod.ext hc rfl)
          have hpos : 0 < (String.utf8EncodeChar c).length := by
            rw [String.length_utf8EncodeChar]
            exact c.utf8Size_pos
          have hlen := congrArg List.length hn
          simp only [List.length_cons, List.length_append] at hlen hf
          rw [List.flatMap_cons, ih (by omega) hds, ← hn]

theorem encode_of_decode? {bs : Bytes} {s : String} (h : decode? bs = some s) : encode s = bs := by
  obtain ⟨cs, hcs, rfl⟩ := Option.map_eq_some_iff.1 h
  rw [encode, String.toList_ofList]
  exact flatMap_encodeChar_of_charsWithin (Nat.le_refl _) hcs

theorem encode_inj {s t : String} (h : encode s = encode t) : s = t := by
  have h : s.toList.utf8Encode = t.toList.utf8Encode := congrArg List.toByteArray h
  rwa [String.utf8Encode_toList, String.utf8Encode_toList, String.toByteArray_inj] at h

end WideRow.Text.Utf8
