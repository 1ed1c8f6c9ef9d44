import WideRow.Proofs.Utf8

namespace WideRow.Text.Utf8

theorem lead_one {b : UInt8} (h : b.toNat < 0x80) : lead b = some (0, 0, 0, b.toNat) := by
  rw [lead, if_pos (UInt8.lt_iff_toNat_lt.2 h)]

theorem lead_two {b : UInt8} (h : 0xC2 ≤ b.toNat) (h' : b.toNat < 0xE0) :
    lead b = some (1, 0x80, 0xBF, b.toNat - 0xC0) := by
  simp only [lead, UInt8.lt_iff_toNat_lt, UInt8.reduceToNat]
  rw [if_neg (by omega), if_neg (by omega), if_pos h']

theorem lead_three {b : UInt8} (h : 0xE0 ≤ b.toNat) (h' : b.toNat < 0xF0) :
    lead b = some (2, if b = 0xE0 then 0xA0 else 0x80, if b = 0xED then 0x9F else 0xBF,
      b.toNat - 0xE0) := by
  simp only [lead, UInt8.lt_iff_toNat_lt, UInt8.reduceToNat]
  rw [if_neg (by omega), if_neg (by omega), if_neg (by omega), if_pos h']

theorem lead_four {b : UInt8} (h : 0xF0 ≤ b.toNat) (h' : b.toNat < 0xF5) :
    lead b = some (3, if b = 0xF0 then 0x90 else 0x80, if b = 0xF4 then 0x8F else 0xBF,
      b.toNat - 0xF0) := by
  simp only [lead, UInt8.lt_iff_toNat_lt, UInt8.reduceToNat]
  rw [if_neg (by omega), if_neg (by omega), if_neg (by omega), if_neg (by omega), if_pos h']

theorem toNat_byte {n : Nat} (h : n < 256) : (UInt8.ofNat n).toNat = n :=
  UInt8.toNat_ofNat_of_lt' h

theorem tail_zero {acc : Nat} {lo hi : UInt8} {xs : Bytes} : tail 0 lo hi acc xs = (some acc, xs) :=
  rfl

theorem tail_byte {n acc m : Nat} {lo hi : UInt8} {xs : Bytes} (h : lo.toNat ≤ m % 0x40 + 0x80)
    (h' : m % 0x40 + 0x80 ≤ hi.toNat) :
    tail (n + 1) lo hi acc (UInt8.ofNat (m % 0x40 + 0x80) :: xs) =
      tail n 0x80 0xBF (acc * 64 + m % 0x40) xs := by
  have hx := toNat_byte (n := m % 0x40 + 0x80) (by omega)
  have hlo : lo ≤ UInt8.ofNat (m % 0x40 + 0x80) := UInt8.le_iff_toNat_le.2 (by omega)
  have hhi : UInt8.ofNat (m % 0x40 + 0x80) ≤ hi := UInt8.le_iff_toNat_le.2 (by omega)
  rw [tail, if_pos ⟨hlo, hhi⟩, hx, Nat.add_sub_cancel]

theorem tail_later {n acc m : Nat} {xs : Bytes} :
    tail (n + 1) 0x80 0xBF acc (UInt8.ofNat (m % 0x40 + 0x80) :: xs) =
      tail n 0x80 0xBF (acc * 64 + m % 0x40) xs := by
  apply tail_byte
  · exact Nat.le_add_left _ _
  · simp only [UInt8.reduceToNat]
    omega

theorem next_one {v : Nat} (h : v < 0x80) (rest : Bytes) :
    next (UInt8.ofNat v) rest = (some (Char.ofNat v), rest) := by
  have hv := toNat_byte (n := v) (by omega)
  rw [next, lead_one (by omega)]
  simp only [tail_zero, hv, Option.map_some]

theorem next_two {v : Nat} (h : 0x80 ≤ v) (h' : v ≤ 0x7FF) (rest : Bytes) :
    next (UInt8.ofNat (v / 64 % 0x20 + 0xC0)) (UInt8.ofNat (v % 0x40 + 0x80) :: rest) =
      (some (Char.ofNat v), rest) := by
  have hb := toNat_byte (n := v / 64 % 0x20 + 0xC0) (by omega)
  have hcode : v / 64 % 0x20 * 64 + v % 0x40 = v := by omega
  rw [next, lead_two (by omega) (by omega), hb, Nat.add_sub_cancel]
  simp only [tail_later, tail_zero, hcode, Option.map_some]

theorem next_three {v : Nat} (h : 0x800 ≤ v) (h' : v ≤ 0xFFFF) (hv : v.isValidChar) (rest : Bytes) :
    next (UInt8.ofNat (v / 4096 % 0x10 + 0xE0))
      (UInt8.ofNat (v / 64 % 0x40 + 0x80) :: UInt8.ofNat (v % 0x40 + 0x80) :: rest) =
      (some (Char.ofNat v), rest) := by
  have hb := toNat_byte (n := v / 4096 % 0x10 + 0xE0) (by omega)
  have hcode : (v / 4096 % 0x10 * 64 + v / 64 % 0x40) * 64 + v % 0x40 = v := by omega
  simp only [Nat.isValidChar] at hv
  rw [next, lead_three (by omega) (by omega)]
  simp only [← UInt8.toNat_inj, hb, UInt8.reduceToNat, Nat.add_sub_cancel]
  rw [tail_byte]
  · simp only [tail_later, tail_zero, hcode, Option.map_some]
  · split <;> simp only [UInt8.reduceToNat] <;> omega
  · split <;> simp only [UInt8.reduceToNat] <;> omega

theorem next_four {v : Nat} (h : 0x10000 ≤ v) (h' : v < 0x110000) (rest : Bytes) :
    next (UInt8.ofNat (v / 262144 % 0x08 + 0xF0))
      (UInt8.ofNat (v / 4096 % 0x40 + 0x80) :: UInt8.ofNat (v / 64 % 0x40 + 0x80) ::
        UInt8.ofNat (v % 0x40 + 0x80) :: rest) = (some (Char.ofNat v), rest) := by
  have hb := toNat_byte (n := v / 262144 % 0x08 + 0xF0) (by omega)
  have hcode : ((v / 262144 % 0x08 * 64 + v / 4096 % 0x40) * 64 + v / 64 % 0x40) * 64 + v % 0x40 =
      v := by omega
  rw [next, lead_four (by omega) (by omega)]
  simp only [← UInt8.toNat_inj, hb, UInt8.reduceToNat, Nat.add_sub_cancel]
  rw [tail_byte]
  · simp only [tail_later, tail_zero, hcode, Option.map_some]
  · split <;> simp only [UInt8.reduceToNat] <;> omega
  · split <;> simp only [UInt8.reduceToNat] <;> omega

/-- A character is read back from the bytes that it is written as, whatever stands behind them. -/
theorem next_encodeChar {c : Char} {b : UInt8} {bs rest : Bytes}
    (h : b :: bs = String.utf8EncodeChar c ++ rest) : next b bs = (some c, rest) := by
  obtain ⟨v, hv, rfl⟩ : ∃ v, v.isValidChar ∧ Char.ofNat v = c := ⟨c.toNat, c.valid, c.ofNat_toNat⟩
  rcases Nat.lt_or_ge v 0x80 with h1 | h1
  · have hval : (Char.ofNat v).val.toNat = v := val_ofNat hv
    simp only [String.utf8EncodeChar, hval, if_pos (Nat.le_of_lt_succ h1)] at h
    cases h
    exact next_one h1 rest
  rcases Nat.lt_or_ge v 0x800 with h2 | h2
  · rw [encodeChar_two h1 (by omega)] at h
    cases h
    exact next_two h1 (by omega) rest
  rcases Nat.lt_or_ge v 0x10000 with h3 | h3
  · rw [encodeChar_three h2 (by omega) hv] at h
    cases h
    exact next_three h2 (by omega) hv rest
  have h4 : v < 0x110000 := by
    simp only [Nat.isValidChar] at hv
    omega
  rw [encodeChar_four h3 h4] at h
  cases h
  exact next_four h3 h4 rest

/-- No character is written as the beginning of another. -/
theorem encodeChar_append_inj {c d : Char} {xs ys : Bytes}
    (h : String.utf8EncodeChar c ++ xs = String.utf8EncodeChar d ++ ys) : c = d ∧ xs = ys := by
  obtain ⟨b, bs, hbs⟩ := List.exists_cons_of_ne_nil (String.utf8EncodeChar_ne_nil (c := c))
  have hc : next b (bs ++ xs) = (some c, xs) := next_encodeChar (by rw [hbs]; rfl)
  have hd : next b (bs ++ xs) = (some d, ys) := next_encodeChar (by rw [← h, hbs]; rfl)
  simpa [hc] using hd

theorem charsWithin_encodeChars {fuel : Nat} {cs : List Char}
    (hf : (cs.flatMap String.utf8EncodeChar).length ≤ fuel) :
    charsWithin fuel (cs.flatMap String.utf8EncodeChar) = cs.map some := by
  induction cs generalizing fuel with
  | nil => cases fuel <;> rfl
  | cons c cs ih =>
      obtain ⟨b, bs, hbs⟩ := List.exists_cons_of_ne_nil (String.utf8EncodeChar_ne_nil (c := c))
      rw [List.flatMap_cons, hbs, List.cons_append, List.length_cons, List.length_append] at hf
      cases fuel with
      | zero => omega
      | succ fuel =>
          have hnext : next b (bs ++ cs.flatMap String.utf8EncodeChar) =
              (some c, cs.flatMap String.utf8EncodeChar) := next_encodeChar (by rw [hbs]; rfl)
          rw [List.flatMap_cons, hbs, List.cons_append, charsWithin, hnext, ih (by omega)]
          rfl

theorem decode?_encode (s : String) : decode? (encode s) = some s := by
  rw [decode?, chars, encode, charsWithin_encodeChars (Nat.le_refl _), List.mapM_map]
  have hpure : s.toList.mapM (id ∘ some) = some (s.toList.map id) := List.mapM_pure
  rw [hpure, List.map_id, Option.map_some, String.ofList_toList]

theorem decode?_eq_some_iff {bs : Bytes} {s : String} : decode? bs = some s ↔ encode s = bs :=
  ⟨encode_of_decode?, fun h => h ▸ decode?_encode s⟩

theorem encode_append (s t : String) : encode (s ++ t) = encode s ++ encode t := by
  rw [encode, String.toList_append, List.flatMap_append]
  rfl

theorem encode_eq_nil_iff {s : String} : encode s = [] ↔ s = "" :=
  ⟨fun h => encode_inj (h.trans rfl), fun h => h ▸ rfl⟩

def IsText (bs : Bytes) : Prop := ∃ s, encode s = bs

theorem isText_encode (s : String) : IsText (encode s) := ⟨s, rfl⟩

theorem isText_iff {bs : Bytes} :
    IsText bs ↔ ∃ cs : List Char, cs.flatMap String.utf8EncodeChar = bs := by
  constructor
  · rintro ⟨s, rfl⟩
    exact ⟨s.toList, rfl⟩
  · rintro ⟨cs, rfl⟩
    exact ⟨String.ofList cs, by rw [encode, String.toList_ofList]⟩

theorem IsText.append {xs ys : Bytes} (hx : IsText xs) (hy : IsText ys) : IsText (xs ++ ys) := by
  obtain ⟨s, rfl⟩ := hx
  obtain ⟨t, rfl⟩ := hy
  exact ⟨s ++ t, encode_append s t⟩

/-- What stands behind a text in a text is one. -/
theorem IsText.of_append_right {xs ys : Bytes} (hx : IsText xs) (h : IsText (xs ++ ys)) :
    IsText ys := by
  rw [isText_iff] at *
  obtain ⟨cs, rfl⟩ := hx
  induction cs with
  | nil => exact h
  | cons c cs ih =>
      obtain ⟨ds, hds⟩ := h
      rw [List.flatMap_cons, List.append_assoc] at hds
      cases ds with
      | nil =>
          have hnil := (List.append_eq_nil_iff.1 hds.symm).1
          exact absurd hnil String.utf8EncodeChar_ne_nil
      | cons d ds => exact ih ⟨ds, (encodeChar_append_inj hds).2⟩

theorem encodeChar_ne_append {c : Char} {cs : List Char} {x : UInt8} {xs ys zs : Bytes}
    (hx : xs ≠ []) (h : String.utf8EncodeChar c = xs ++ x :: ys) :
    cs.flatMap String.utf8EncodeChar ≠ x :: zs := by
  intro hcs
  have hwithin : ¬ x.IsUTF8FirstByte := by
    intro hfirst
    have hlen : xs.length < (String.utf8EncodeChar c).length := by
      rw [h, List.length_append, List.length_cons]
      omega
    have hget : (String.utf8EncodeChar c)[xs.length] = x := by simp [h]
    rw [← hget, UInt8.isUTF8FirstByte_getElem_utf8EncodeChar] at hfirst
    exact hx (List.eq_nil_of_length_eq_zero hfirst)
  cases cs with
  | nil => cases hcs
  | cons d ds =>
      obtain ⟨b, bs, hbs⟩ := List.exists_cons_of_ne_nil (String.utf8EncodeChar_ne_nil (c := d))
      rw [List.flatMap_cons, hbs, List.cons_append, List.cons.injEq] at hcs
      have hpos : 0 < (String.utf8EncodeChar d).length := by
        rw [hbs]
        exact Nat.succ_pos _
      have hget : (String.utf8EncodeChar d)[0] = x := by simp [hbs, hcs.1]
      exact hwithin (hget ▸ UInt8.isUTF8FirstByte_getElem_zero_utf8EncodeChar)

theorem IsText.of_append_left {xs ys : Bytes} (hy : IsText ys) (h : IsText (xs ++ ys)) :
    IsText xs := by
  rw [isText_iff] at *
  obtain ⟨ds, rfl⟩ := hy
  obtain ⟨cs, hcs⟩ := h
  induction cs generalizing xs with
  | nil => exact ⟨[], (List.append_eq_nil_iff.1 hcs.symm).1.symm⟩
  | cons c cs ih =>
      rw [List.flatMap_cons] at hcs
      rcases List.append_eq_append_iff.1 hcs with ⟨rest, rfl, hrest⟩ | ⟨rest, hc, hrest⟩
      · obtain ⟨es, rfl⟩ := ih hrest
        exact ⟨c :: es, List.flatMap_cons⟩
      · cases rest with
        | nil => exact ⟨[c], by simpa using hc⟩
        | cons x rest =>
            by_cases hxs : xs = []
            · exact ⟨[], hxs.symm⟩
            · exact absurd hrest (encodeChar_ne_append hxs hc)

theorem toNat_of_mem_encodeChar {c : Char} {b : UInt8} (hb : b.toNat < 0x80)
    (h : b ∈ String.utf8EncodeChar c) : c.toNat = b.toNat := by
  obtain ⟨v, hv, rfl⟩ : ∃ v, v.isValidChar ∧ Char.ofNat v = c := ⟨c.toNat, c.valid, c.ofNat_toNat⟩
  have hval : (Char.ofNat v).toNat = v := val_ofNat hv
  have hbyte {n : Nat} (hn : n < 256) (he : b = UInt8.ofNat n) : n < 0x80 := by
    rwa [he, toNat_byte hn] at hb
  rcases Nat.lt_or_ge v 0x80 with h1 | h1
  · have hval' : (Char.ofNat v).val.toNat = v := hval
    simp only [String.utf8EncodeChar, hval', if_pos (Nat.le_of_lt_succ h1)] at h
    rw [List.mem_singleton.1 h, toNat_byte (by omega), hval]
  exfalso
  rcases Nat.lt_or_ge v 0x800 with h2 | h2
  · rw [encodeChar_two h1 (by omega)] at h
    simp only [List.mem_cons, List.not_mem_nil, or_false] at h
    rcases h with he | he <;> have := hbyte (by omega) he <;> omega
  rcases Nat.lt_or_ge v 0x10000 with h3 | h3
  · rw [encodeChar_three h2 (by omega) hv] at h
    simp only [List.mem_cons, List.not_mem_nil, or_false] at h
    rcases h with he | he | he <;> have := hbyte (by omega) he <;> omega
  have h4 : v < 0x110000 := by
    simp only [Nat.isValidChar] at hv
    omega
  rw [encodeChar_four h3 h4] at h
  simp only [List.mem_cons, List.not_mem_nil, or_false] at h
  rcases h with he | he | he | he <;> have := hbyte (by omega) he <;> omega

end WideRow.Text.Utf8
