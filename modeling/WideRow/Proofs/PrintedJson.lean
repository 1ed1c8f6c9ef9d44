import Mathlib.Data.List.TakeDrop
import WideRow.Json.Printer
import WideRow.Json.Reader
import WideRow.Proofs.Maps

namespace WideRow.Json

variable {c : Char} {cs rest more : List Char} {n : Nat} {fuel : Nat} {j : Json}

def escaped (c : Char) : List Char := (escape? c).getD [c]

theorem flatten_runs (cs : List Char) : (runs cs).flatten = cs.flatMap escaped := by
  induction cs with
  | nil => rfl
  | cons c cs ih =>
      rw [List.flatMap_cons, ← ih, runs, escaped]
      cases escape? c with
      | some e => rfl
      | none =>
          dsimp only
          split
          next hnil =>
            simp [hnil]
          next r rs hrs =>
            rw [hrs]
            split
            next => rfl
            next => split <;> rfl

theorem flatten_quoted (s : String) :
    (quoted s).flatten = '"' :: (s.toList.flatMap escaped ++ ['"']) := by
  simp [quoted, flatten_runs]

/-- A character is named by a letter or by its number, or stands for itself. -/
theorem escape?_cases (c : Char) :
    (∃ e, escape? c = some ['\\', e] ∧ unescape? e = some c ∧ e ≠ 'u' ∧ 0x20 ≤ e.toNat) ∨
    (c.toNat < 0x20 ∧ escape? c =
      some ['\\', 'u', '0', '0', hexDigit (c.toNat / 16), hexDigit (c.toNat % 16)]) ∨
    (escape? c = none ∧ c ≠ '"' ∧ c ≠ '\\' ∧ 0x20 ≤ c.toNat) := by
  rw [escape?]
  split
  next h => exact .inl ⟨'"', rfl, by rw [h]; rfl, by decide, by decide⟩
  next hquote =>
  split
  next h => exact .inl ⟨'\\', rfl, by rw [h]; rfl, by decide, by decide⟩
  next hslash =>
  split
  next h => exact .inl ⟨'b', rfl, by rw [h]; rfl, by decide, by decide⟩
  split
  next h => exact .inl ⟨'t', rfl, by rw [h]; rfl, by decide, by decide⟩
  split
  next h => exact .inl ⟨'n', rfl, by rw [h]; rfl, by decide, by decide⟩
  split
  next h => exact .inl ⟨'f', rfl, by rw [h]; rfl, by decide, by decide⟩
  split
  next h => exact .inl ⟨'r', rfl, by rw [h]; rfl, by decide, by decide⟩
  split
  next h => exact .inr (.inl ⟨h, rfl⟩)
  next h => exact .inr (.inr ⟨rfl, hquote, hslash, Nat.le_of_not_lt h⟩)

theorem hexCode?_control (h : n < 0x20) :
    hexCode? '0' '0' (hexDigit (n / 16)) (hexDigit (n % 16)) = some n := by
  revert n
  decide

theorem letters_of_named {e : Char} (hc : unescape? e = some c) (he : e ≠ 'u') {ls : List Letter}
    (h : letters more = some (ls, rest)) :
    letters ('\\' :: e :: more) = some (.char c :: ls, rest) := by
  rw [letters]
  · rw [hc, h]
    rfl
  · rintro _ _ _ _ _ rfl
    exact absurd rfl he

theorem letters_of_numbered (hc : c.toNat < 0x20) {ls : List Letter}
    (h : letters more = some (ls, rest)) :
    letters ('\\' :: 'u' :: '0' :: '0' :: hexDigit (c.toNat / 16) :: hexDigit (c.toNat % 16) ::
      more) = some (.unit c.toNat :: ls, rest) := by
  rw [letters, hexCode?_control hc, h]
  rfl

theorem letters_of_plain (hquote : c ≠ '"') (hslash : c ≠ '\\') (hc : 0x20 ≤ c.toNat)
    {ls : List Letter} (h : letters more = some (ls, rest)) :
    letters (c :: more) = some (.char c :: ls, rest) := by
  rw [letters]
  · rw [if_neg (Nat.not_lt.2 hc), h]
    rfl
  · exact hquote
  · exact fun _ _ _ _ _ he _ => hslash he
  · exact fun _ _ he _ => hslash he

/-- The number of a control character is no half of a pair. -/
theorem spell?_control (hc : c.toNat < 0x20) (ls : List Letter) :
    spell? (.unit c.toNat :: ls) = (spell? ls).map (c :: ·) := by
  have hlead : isLeading c.toNat = false := by
    simp [isLeading]
    omega
  have htrail : isTrailing c.toNat = false := by
    simp [isTrailing]
    omega
  cases ls with
  | nil => simp [spell?, hlead, htrail]
  | cons l ls =>
      cases l with
      | char d => simp [spell?, hlead, htrail]
      | unit n => simp [spell?, hlead, htrail]

theorem letters_literal (cs rest : List Char) :
    ∃ ls, letters (cs.flatMap escaped ++ '"' :: rest) = some (ls, rest) ∧ spell? ls = some cs := by
  induction cs with
  | nil => exact ⟨[], rfl, rfl⟩
  | cons c cs ih =>
      obtain ⟨ls, hls, hspell⟩ := ih
      rw [List.flatMap_cons, List.append_assoc, escaped]
      obtain ⟨e, he, hc, hu, _⟩ | ⟨hc, he⟩ | ⟨he, hquote, hslash, hc⟩ := escape?_cases c
      · exact ⟨.char c :: ls, by rw [he]; exact letters_of_named hc hu hls,
          by simp [spell?, hspell]⟩
      · refine ⟨.unit c.toNat :: ls, by rw [he]; exact letters_of_numbered hc hls, ?_⟩
        simp [spell?_control hc, hspell]
      · refine ⟨.char c :: ls, ?_, by simp [spell?, hspell]⟩
        rw [he]
        exact letters_of_plain hquote hslash hc hls

theorem stringBody_literal (s : String) (rest : List Char) :
    stringBody (s.toList.flatMap escaped ++ '"' :: rest) = some (some s, rest) := by
  obtain ⟨ls, hls, hspell⟩ := letters_literal s.toList rest
  simp [stringBody, hls, hspell]

theorem isDigit_eq (c : Char) : Text.isDigit c = c.isDigit := rfl

theorem digitsValue_toDigits (n : Nat) : Text.digitsValue (Nat.toDigits 10 n) = n := by
  have hvalue (cs : List Char) : Text.digitsValue cs = Nat.ofDigitChars 10 cs 0 := by
    simp only [Text.digitsValue, Nat.ofDigitChars, Nat.mul_comm]
    rfl
  rw [hvalue, Nat.ofDigitChars_toDigits (by decide) (by decide)]

theorem exists_toDigits (h : 0 < n) : ∃ c cs, Nat.toDigits 10 n = c :: cs ∧ c ≠ '0' := by
  have hdigit : ∀ m < 10, 0 < m → Nat.digitChar m ≠ '0' := by decide
  induction n using Nat.strongRecOn with
  | ind n ih =>
    rw [Nat.toDigits_eq_if (by decide)]
    split
    next hsmall => exact ⟨_, [], rfl, hdigit n hsmall h⟩
    next hlarge =>
      obtain ⟨c, cs, hcs, hc⟩ := ih (n / 10) (by omega) (by omega)
      exact ⟨c, cs ++ [Nat.digitChar (n % 10)], by rw [hcs]; rfl, hc⟩

theorem isDigit_of_mem_toDigits (h : c ∈ Nat.toDigits 10 n) : Text.isDigit c := by
  rw [isDigit_eq]
  exact Nat.isDigit_of_mem_toDigits (by decide) (by decide) h

/-- Nothing that continues a number. -/
def Ends (rest : List Char) : Prop :=
  ∀ c ∈ rest.head?, Text.isDigit c = false ∧ c ≠ '.' ∧ c ≠ 'e' ∧ c ≠ 'E'

theorem digits?_append (hcs : cs ≠ []) (hdigits : ∀ c ∈ cs, Text.isDigit c) (hrest : Ends rest) :
    Text.digits? (cs ++ rest) = some (cs, rest) := by
  have htake : rest.takeWhile Text.isDigit = [] := by
    cases rest with
    | nil => rfl
    | cons c rest => rw [List.takeWhile_cons_of_neg (by simp [(hrest c rfl).1])]
  have hdrop : rest.dropWhile Text.isDigit = rest := by
    cases rest with
    | nil => rfl
    | cons c rest => rw [List.dropWhile_cons_of_neg (by simp [(hrest c rfl).1])]
  have hspan : (cs ++ rest).span Text.isDigit = (cs, rest) := by
    rw [List.span_eq_takeWhile_dropWhile, List.takeWhile_append_of_pos hdigits,
      List.dropWhile_append_of_pos hdigits, htake, hdrop, List.append_nil]
  obtain ⟨c, cs, rfl⟩ := List.exists_cons_of_ne_nil hcs
  rw [Text.digits?, hspan]

theorem wholePart_toDigits (n : Nat) (hrest : Ends rest) :
    wholePart (Nat.toDigits 10 n ++ rest) = some (Nat.toDigits 10 n, rest) := by
  rcases Nat.eq_zero_or_pos n with rfl | hn
  · cases rest with
    | nil => rfl
    | cons c rest =>
        rw [Nat.toDigits_zero, List.singleton_append, wholePart,
          if_neg (by simp [(hrest c rfl).1])]
  · obtain ⟨c, cs, hcs, hc⟩ := exists_toDigits hn
    have hread := digits?_append (hcs ▸ List.cons_ne_nil c cs)
      (fun _ => isDigit_of_mem_toDigits) hrest
    rw [hcs] at hread ⊢
    rw [← hread, List.cons_append, wholePart]
    exact fun _ _ he => hc (List.cons.inj he).1

theorem number_toDigits (negative : Bool) (n : Nat) (hrest : Ends rest) :
    number negative (Nat.toDigits 10 n ++ rest) =
      some (numberValue negative (Nat.toDigits 10 n) [] none, rest) := by
  have hfraction : fractionPart rest = some ([], rest) := by
    cases rest with
    | nil => rfl
    | cons c rest =>
        rw [fractionPart]
        exact fun _ he => (hrest c rfl).2.1 (List.cons.inj he).1
  have hexponent : Text.exponent? rest = some (none, rest) := by
    cases rest with
    | nil => rfl
    | cons c rest =>
        rw [Text.exponent?, if_neg]
        simp [(hrest c rfl).2.2]
  simp [number, wholePart_toDigits n hrest, hfraction, hexponent]

/-- Values that are read from their text as they are. -/
inductive Exact : Json → Prop
  | null : Exact null
  | bool (b : Bool) : Exact (bool b)
  | integer {n : Int} (h : -0x8000000000000000 ≤ n) (h' : n ≤ 0xFFFFFFFFFFFFFFFF) :
      Exact (integer n)
  | text (s : String) : Exact (text s)
  | array {items : List Json} (h : ∀ j ∈ items, Exact j) : Exact (array items)
  | object {ms : List (String × Json)} (h : ∀ m ∈ ms, Exact m.2) : Exact (object ms)

def chars (j : Json) : List Char := j.pieces.flatten

def charsItems (js : List Json) : List Char := (piecesItems js).flatten

def charsMembers (ms : List (String × Json)) : List Char := (piecesMembers ms).flatten

def charsMember (m : String × Json) : List Char :=
  '"' :: (m.1.toList.flatMap escaped ++ '"' :: ':' :: m.2.chars)

theorem chars_array (j : Json) (js : List Json) :
    (array (j :: js)).chars = '[' :: (j.chars ++ charsItems js) := by
  simp [chars, charsItems, pieces]

theorem charsItems_cons (j : Json) (js : List Json) :
    charsItems (j :: js) = ',' :: (j.chars ++ charsItems js) := by
  simp [chars, charsItems, piecesItems]

theorem chars_object (m : String × Json) (ms : List (String × Json)) :
    (object (m :: ms)).chars = '{' :: (charsMember m ++ charsMembers ms) := by
  simp [chars, charsMember, charsMembers, pieces, flatten_quoted]

theorem charsMembers_cons (m : String × Json) (ms : List (String × Json)) :
    charsMembers (m :: ms) = ',' :: (charsMember m ++ charsMembers ms) := by
  simp [chars, charsMember, charsMembers, piecesMembers, flatten_quoted]

theorem chars_integer (n : Int) : (integer n).chars = integerDigits n := by
  simp [chars, pieces]

theorem chars_text (s : String) : (text s).chars = '"' :: (s.toList.flatMap escaped ++ ['"']) := by
  rw [chars, pieces, flatten_quoted]

def Begins (c : Char) : Prop := c ≠ ']' ∧ ¬ (c = ' ' ∨ c = '\n' ∨ c = '\t' ∨ c = '\r')

theorem begins_of_isDigit (h : Text.isDigit c) : Begins c := by
  refine ⟨?_, ?_⟩
  · rintro rfl
    exact absurd h (by decide)
  · rintro (rfl | rfl | rfl | rfl) <;> exact absurd h (by decide)

theorem exists_digits (n : Nat) : ∃ c cs, Nat.toDigits 10 n = c :: cs ∧ Text.isDigit c := by
  obtain ⟨c, cs, hcs⟩ := List.exists_cons_of_ne_nil (Nat.toDigits_ne_nil (n := n) (b := 10))
  exact ⟨c, cs, hcs, isDigit_of_mem_toDigits (hcs ▸ List.mem_cons_self)⟩

theorem Exact.exists_chars (h : j.Exact) : ∃ c cs, j.chars = c :: cs ∧ Begins c := by
  cases h with
  | null => exact ⟨_, _, rfl, by decide, by decide⟩
  | bool b => cases b <;> exact ⟨_, _, rfl, by decide, by decide⟩
  | text s => exact ⟨_, _, chars_text s, by decide, by decide⟩
  | @array items h =>
      cases items with
      | nil => exact ⟨_, _, rfl, by decide, by decide⟩
      | cons j js => exact ⟨_, _, chars_array j js, by decide, by decide⟩
  | @object ms h =>
      cases ms with
      | nil => exact ⟨_, _, rfl, by decide, by decide⟩
      | cons m ms => exact ⟨_, _, chars_object m ms, by decide, by decide⟩
  | @integer n h h' =>
      obtain ⟨c, cs, hcs, hc⟩ := exists_digits n.natAbs
      rw [chars_integer, integerDigits, hcs]
      split
      next => exact ⟨_, _, rfl, by decide, by decide⟩
      next => exact ⟨c, cs, rfl, begins_of_isDigit hc⟩

theorem skipBlank_of_begins (h : Begins c) (cs : List Char) : skipBlank (c :: cs) = c :: cs := by
  rw [skipBlank, if_neg h.2]

theorem value_digits (hc : Text.isDigit c) (fuel : Nat) (cs : List Char) :
    value (fuel + 1) (c :: cs) = number false (c :: cs) := by
  rw [value, skipBlank_of_begins (begins_of_isDigit hc)]
  split
  all_goals first | rfl | skip
  all_goals
    next he =>
      cases (List.cons.inj he).1
      exact absurd hc (by decide)

theorem numberValue_of_neg (h : 0 < n) (h' : n ≤ 0x8000000000000000) :
    numberValue true (Nat.toDigits 10 n) [] none = integer (-n) := by
  rw [numberValue, digitsValue_toDigits, if_pos]
  · rfl
  · simp [h, h']

theorem numberValue_of_nat (h : n ≤ 0xFFFFFFFFFFFFFFFF) :
    numberValue false (Nat.toDigits 10 n) [] none = integer n := by
  rw [numberValue, digitsValue_toDigits, if_pos]
  · rfl
  · simp [lastInteger, h]

theorem value_integer {n : Int} (h : -0x8000000000000000 ≤ n) (h' : n ≤ 0xFFFFFFFFFFFFFFFF)
    (hrest : Ends rest) (fuel : Nat) :
    value (fuel + 1) ((integer n).chars ++ rest) = some (integer n, rest) := by
  rw [chars_integer, integerDigits]
  split
  next hn =>
    have hminus : value (fuel + 1) ('-' :: (Nat.toDigits 10 n.natAbs ++ rest)) =
        number true (Nat.toDigits 10 n.natAbs ++ rest) := rfl
    have hvalue : -(n.natAbs : Int) = n := by omega
    rw [List.cons_append, hminus, number_toDigits true _ hrest,
      numberValue_of_neg (by omega) (by omega), hvalue]
  next hn =>
    obtain ⟨c, cs, hcs, hc⟩ := exists_digits n.natAbs
    have hdigits : value (fuel + 1) (Nat.toDigits 10 n.natAbs ++ rest) =
        number false (Nat.toDigits 10 n.natAbs ++ rest) := by
      rw [hcs]
      exact value_digits hc fuel (cs ++ rest)
    have hvalue : (n.natAbs : Int) = n := by omega
    rw [hdigits, number_toDigits false _ hrest, numberValue_of_nat (by omega), hvalue]

/-- A value is read from its text in front of anything that does not continue a number. Each
character is worth a step. -/
def ReadsBack (j : Json) : Prop :=
  ∀ fuel rest, j.chars.length ≤ fuel → Ends rest → value fuel (j.chars ++ rest) = some (j, rest)

theorem ends_charsItems (js : List Json) (rest : List Char) : Ends (charsItems js ++ rest) := by
  cases js with
  | nil =>
      rintro c ⟨⟩
      decide
  | cons j js =>
      rw [charsItems_cons]
      rintro c ⟨⟩
      decide

theorem ends_charsMembers (ms : List (String × Json)) (rest : List Char) :
    Ends (charsMembers ms ++ rest) := by
  cases ms with
  | nil =>
      rintro c ⟨⟩
      decide
  | cons m ms =>
      rw [charsMembers_cons]
      rintro c ⟨⟩
      decide

theorem items_chars {js : List Json} (hj : ReadsBack j) (hjs : ∀ k ∈ js, ReadsBack k)
    (hfuel : (j.chars ++ charsItems js).length ≤ fuel) (rest : List Char) :
    items fuel (j.chars ++ (charsItems js ++ rest)) = some (j :: js, rest) := by
  -- on the items behind the first, each of which is the first of what is left
  induction js generalizing j fuel with
  | nil =>
      have hnil : charsItems [] = [']'] := rfl
      rw [hnil, List.length_append, List.length_singleton] at hfuel
      cases fuel with
      | zero => omega
      | succ fuel =>
          have hread := hj fuel _ (by omega) (ends_charsItems [] rest)
          rw [items, hread]
          rfl
  | cons k ks ih =>
      rw [charsItems_cons, List.length_append, List.length_cons] at hfuel
      cases fuel with
      | zero => omega
      | succ fuel =>
          have hread := hj fuel _ (by omega) (ends_charsItems (k :: ks) rest)
          have hmore : items fuel (k.chars ++ (charsItems ks ++ rest)) = some (k :: ks, rest) :=
            ih (hjs k List.mem_cons_self) (fun l hl => hjs l (List.mem_cons_of_mem k hl)) (by omega)
          rw [items, hread, charsItems_cons]
          simp [skipBlank, hmore]

theorem namedItems_last {m : String × Json}
    (hread : value fuel (m.2.chars ++ '}' :: rest) = some (m.2, '}' :: rest)) :
    namedItems (fuel + 1) (charsMember m ++ '}' :: rest) = some ([(some m.1, m.2)], rest) := by
  simp [namedItems, charsMember, skipBlank, stringBody_literal, hread]

theorem namedItems_comma {m : String × Json} {ms : List (Option String × Json)}
    (hread : value fuel (m.2.chars ++ ',' :: more) = some (m.2, ',' :: more))
    (hmore : namedItems fuel more = some (ms, rest)) :
    namedItems (fuel + 1) (charsMember m ++ ',' :: more) =
      some ((some m.1, m.2) :: ms, rest) := by
  simp [namedItems, charsMember, skipBlank, stringBody_literal, hread, hmore]

theorem namedItems_chars {m : String × Json} {ms : List (String × Json)} (hm : ReadsBack m.2)
    (hms : ∀ k ∈ ms, ReadsBack k.2) (hfuel : (charsMember m ++ charsMembers ms).length ≤ fuel)
    (rest : List Char) :
    namedItems fuel (charsMember m ++ (charsMembers ms ++ rest)) =
      some ((m :: ms).map fun k => (some k.1, k.2), rest) := by
  have hlength (k : String × Json) : k.2.chars.length + 3 ≤ (charsMember k).length := by
    simp [charsMember]
  induction ms generalizing m fuel with
  | nil =>
      have hm' := hlength m
      rw [List.length_append] at hfuel
      cases fuel with
      | zero => omega
      | succ fuel =>
          exact namedItems_last (hm fuel _ (by omega) (ends_charsMembers [] rest))
  | cons k ks ih =>
      have hm' := hlength m
      rw [charsMembers_cons, List.length_append, List.length_cons] at hfuel
      cases fuel with
      | zero => omega
      | succ fuel =>
          have hread := hm fuel _ (by omega) (ends_charsMembers (k :: ks) rest)
          rw [charsMembers_cons, List.cons_append, List.append_assoc] at hread ⊢
          exact namedItems_comma hread
            (ih (hms k List.mem_cons_self) (fun l hl => hms l (List.mem_cons_of_mem k hl))
              (by omega))

theorem ofMembers_named (ms : List (String × Json)) :
    ofMembers (ms.map fun m => (some m.1, m.2)) = object ms := by
  have hnamed : (ms.map fun m => (some m.1, m.2)).mapM
      (fun m : Option String × Json => m.1.map (·, m.2)) = some ms := by
    rw [List.mapM_map]
    exact (List.mapM_pure (m := Option) (f := id) (l := ms)).trans (by simp)
  rw [ofMembers, hnamed]

theorem value_array {js : List Json} (hj : j.Exact)
    (hitems : items fuel (j.chars ++ rest) = some (js, more)) :
    value (fuel + 1) ('[' :: (j.chars ++ rest)) = some (array js, more) := by
  obtain ⟨c, cs, hcs, hc⟩ := hj.exists_chars
  rw [hcs, List.cons_append] at hitems ⊢
  have hopen : skipBlank ('[' :: c :: (cs ++ rest)) = '[' :: c :: (cs ++ rest) := rfl
  simp only [value, hopen, skipBlank_of_begins hc]
  split
  next he => exact absurd (List.cons.inj he).1 hc.1
  next => rw [hitems]; rfl

theorem value_object {m : String × Json} {ms : List (Option String × Json)}
    (hmembers : namedItems fuel (charsMember m ++ rest) = some (ms, more)) :
    value (fuel + 1) ('{' :: (charsMember m ++ rest)) = some (ofMembers ms, more) := by
  obtain ⟨cs, hcs⟩ : ∃ cs, charsMember m ++ rest = '"' :: cs := ⟨_, rfl⟩
  rw [hcs] at hmembers ⊢
  simp [value, skipBlank, hmembers]

theorem Exact.readsBack_of_succ (h : j.Exact)
    (hstep : ∀ fuel rest, j.chars.length ≤ fuel + 1 → Ends rest →
      value (fuel + 1) (j.chars ++ rest) = some (j, rest)) : ReadsBack j := by
  intro fuel rest hfuel hrest
  obtain ⟨c, cs, hcs, _⟩ := h.exists_chars
  cases fuel with
  | zero => simp [hcs] at hfuel
  | succ fuel => exact hstep fuel rest hfuel hrest

theorem Exact.readsBack (h : j.Exact) : ReadsBack j := by
  induction h with
  | null => exact null.readsBack_of_succ fun _ _ _ _ => rfl
  | bool b =>
      refine (bool b).readsBack_of_succ fun _ _ _ _ => ?_
      cases b <;> rfl
  | integer h h' =>
      exact (integer h h').readsBack_of_succ fun fuel _ _ hrest => value_integer h h' hrest fuel
  | text s =>
      refine (text s).readsBack_of_succ fun _ _ _ _ => ?_
      rw [chars_text]
      simp [value, skipBlank, stringBody_literal]
  | @array items h ih =>
      refine (array h).readsBack_of_succ fun fuel rest hfuel _ => ?_
      cases items with
      | nil => rfl
      | cons j js =>
          rw [chars_array, List.length_cons] at hfuel
          rw [chars_array, List.cons_append, List.append_assoc]
          refine value_array (h j List.mem_cons_self)
            (items_chars (ih j List.mem_cons_self) ?_ ?_ rest)
          · exact fun k hk => ih k (List.mem_cons_of_mem j hk)
          · omega
  | @object ms h ih =>
      refine (object h).readsBack_of_succ fun fuel rest hfuel _ => ?_
      cases ms with
      | nil => rfl
      | cons m ms =>
          rw [chars_object, List.length_cons] at hfuel
          rw [chars_object, List.cons_append, List.append_assoc, ← ofMembers_named]
          refine value_object (namedItems_chars (ih m List.mem_cons_self) ?_ ?_ rest)
          · exact fun k hk => ih k (List.mem_cons_of_mem m hk)
          · omega

/-- Printed text is read as the value that was printed. -/
theorem Exact.read?_print (h : j.Exact) : read? j.print = some j := by
  have hread := h.readsBack (2 * j.chars.length + 2) [] (by omega) (by rintro _ ⟨⟩)
  rw [List.append_nil] at hread
  have hchars : j.pieces.flatten = j.chars := rfl
  rw [read?, print, String.toList_ofList, hchars]
  simp only [hread]
  rfl

def Printable (cs : List Char) : Prop := ∀ c ∈ cs, 0x20 ≤ c.toNat

theorem printable_of_all (h : cs.all (0x20 ≤ ·.toNat)) : Printable cs := by
  simpa [Printable] using h

theorem Printable.append {cs ds : List Char} (hc : Printable cs) (hd : Printable ds) :
    Printable (cs ++ ds) :=
  List.forall_mem_append.2 ⟨hc, hd⟩

theorem Printable.cons (hc : 0x20 ≤ c.toNat) (h : Printable cs) : Printable (c :: cs) :=
  List.forall_mem_cons.2 ⟨hc, h⟩

theorem printable_nil : Printable [] := List.forall_mem_nil _

theorem printable_escaped (c : Char) : Printable (escaped c) := by
  have hdigit : ∀ n < 0x20, 0x20 ≤ (hexDigit n).toNat := by decide
  rw [escaped]
  obtain ⟨e, he, _, _, hprintable⟩ | ⟨hc, he⟩ | ⟨he, _, _, hc⟩ := escape?_cases c
  · rw [he]
    exact .cons (by decide) (.cons hprintable printable_nil)
  · rw [he]
    refine .cons (by decide) (.cons (by decide) (.cons (by decide) (.cons (by decide) ?_)))
    exact .cons (hdigit _ (by omega)) (.cons (hdigit _ (by omega)) printable_nil)
  · rw [he]
    exact .cons hc printable_nil

theorem printable_literal (s : String) : Printable (s.toList.flatMap escaped) := by
  intro c hc
  obtain ⟨d, _, hd⟩ := List.mem_flatMap.1 hc
  exact printable_escaped d c hd

theorem printable_charsItems {js : List Json} (h : ∀ j ∈ js, Printable j.chars) :
    Printable (charsItems js) := by
  induction js with
  | nil => exact .cons (by decide) printable_nil
  | cons j js ih =>
      rw [charsItems_cons]
      exact .cons (by decide) ((h j List.mem_cons_self).append
        (ih fun k hk => h k (List.mem_cons_of_mem j hk)))

theorem printable_charsMember {m : String × Json} (h : Printable m.2.chars) :
    Printable (charsMember m) :=
  .cons (by decide) ((printable_literal m.1).append (.cons (by decide) (.cons (by decide) h)))

theorem printable_charsMembers {ms : List (String × Json)} (h : ∀ m ∈ ms, Printable m.2.chars) :
    Printable (charsMembers ms) := by
  induction ms with
  | nil => exact .cons (by decide) printable_nil
  | cons m ms ih =>
      rw [charsMembers_cons]
      exact .cons (by decide) ((printable_charsMember (h m List.mem_cons_self)).append
        (ih fun k hk => h k (List.mem_cons_of_mem m hk)))

theorem printable_integerDigits (n : Int) : Printable (integerDigits n) := by
  have hdigits : Printable (Nat.toDigits 10 n.natAbs) := by
    intro c hc
    have hdigit := isDigit_of_mem_toDigits hc
    rw [Text.isDigit, Bool.and_eq_true, decide_eq_true_eq] at hdigit
    exact Nat.le_trans (by decide) (UInt32.le_iff_toNat_le.1 hdigit.1)
  rw [integerDigits]
  split
  next => exact .cons (by decide) hdigits
  next => exact hdigits

theorem Exact.printable (h : j.Exact) : Printable j.chars := by
  induction h with
  | null => exact printable_of_all rfl
  | bool b => cases b <;> exact printable_of_all rfl
  | integer => exact chars_integer _ ▸ printable_integerDigits _
  | text s =>
      rw [chars_text]
      exact .cons (by decide) ((printable_literal s).append (.cons (by decide) printable_nil))
  | @array items _ ih =>
      cases items with
      | nil => exact printable_of_all rfl
      | cons j js =>
          rw [chars_array]
          exact .cons (by decide) ((ih j List.mem_cons_self).append
            (printable_charsItems fun k hk => ih k (List.mem_cons_of_mem j hk)))
  | @object ms _ ih =>
      cases ms with
      | nil => exact printable_of_all rfl
      | cons m ms =>
          rw [chars_object]
          exact .cons (by decide) ((printable_charsMember (ih m List.mem_cons_self)).append
            (printable_charsMembers fun k hk => ih k (List.mem_cons_of_mem m hk)))

theorem mem_of_mem_members {ms : List (String × Json)} {m : String × Json}
    (h : m ∈ (SortedMap.ofList ms).entries) : m ∈ ms :=
  SortedMap.mem_of_get?_ofList (SortedMap.get?_of_mem h)

theorem exact_members {ms : List (String × Json)} (h : ∀ m ∈ ms, m.2.Exact) :
    (members ms).Exact :=
  .object fun m hm => h m (mem_of_mem_members hm)

theorem depthMembers_le {ms : List (String × Json)} (h : ∀ m ∈ ms, m.2.depth ≤ n) :
    depthMembers ms ≤ n := by
  induction ms with
  | nil => exact Nat.zero_le n
  | cons m ms ih =>
      exact Nat.max_le.2 ⟨h m List.mem_cons_self, ih fun k hk => h k (List.mem_cons_of_mem m hk)⟩

theorem depth_members {ms : List (String × Json)} (h : ∀ m ∈ ms, m.2.depth ≤ n) :
    (members ms).depth ≤ n + 1 :=
  Nat.succ_le_succ (depthMembers_le fun m hm => h m (mem_of_mem_members hm))

end WideRow.Json
