import WideRow.Proofs.Cuts
import WideRow.Proofs.WrittenText
import WideRow.RowKey

namespace WideRow

namespace Digest.Sha256

theorem length_bytesOfNat (k n : Nat) : (bytesOfNat k n).length = k := by
  induction k generalizing n with
  | zero => rfl
  | succ k ih => rw [bytesOfNat, List.length_append, ih, List.length_singleton]

theorem length_digest (bs : Bytes) : (digest bs).length = 32 := by
  simp [digest, State.words, length_bytesOfNat]

end Digest.Sha256

namespace RowKey

variable {parts : List Part} {values : List String} {fields : List Field}

def Part.Admits (p : Part) (value : String) : Prop :=
  ∀ expected, p.role = .literal expected → value = expected

def fieldsOf (parts : List Part) (values : List String) : List Field :=
  List.zipWith (fun p value => .key p.name value p.type) parts values

theorem map_fieldsOf (h : values.length = parts.length) :
    (fieldsOf parts values).map (·.value) = values.map some ∧
      (fieldsOf parts values).map (·.name) = parts.map (·.name) := by
  induction parts generalizing values with
  | nil => simp [List.eq_nil_of_length_eq_zero h, fieldsOf]
  | cons p ps ih =>
      cases values with
      | nil => cases h
      | cons v vs =>
          have hlength : vs.length = ps.length := Nat.succ.inj h
          obtain ⟨hvalues, hnames⟩ := ih hlength
          exact ⟨congrArg (some v :: ·) hvalues, congrArg (p.name :: ·) hnames⟩

theorem eq_of_values_fieldsOf {read : List String} (h : read.length = parts.length)
    (hvalues : (fieldsOf parts read).map (·.value) = values.map some) : read = values := by
  rw [(map_fieldsOf h).1] at hvalues
  exact (List.map_inj_right fun _ _ => Option.some.inj).1 hvalues

namespace Spec

theorem fields?_cons_eq_some_iff {p : Part} {v : String} :
    fields? (p :: parts) (v :: values) = some fields ↔
      p.Admits v ∧ ∃ fs, fields? parts values = some fs ∧
        Field.key p.name v p.type :: fs = fields := by
  rw [fields?, Part.Admits]
  cases p.role with
  | literal expected =>
      by_cases hv : v = expected
      · simp [hv]
      · simp [hv]
  | plain => simp
  | salt bits => simp

theorem fields?_eq_some_iff (h : values.length = parts.length) :
    fields? parts values = some fields ↔
      (∀ x ∈ values.zip parts, x.2.Admits x.1) ∧ fieldsOf parts values = fields := by
  induction parts generalizing values fields with
  | nil => simp [List.eq_nil_of_length_eq_zero h, fields?, fieldsOf]
  | cons p ps ih =>
      cases values with
      | nil => cases h
      | cons v vs =>
          rw [fields?_cons_eq_some_iff, List.zip_cons_cons, List.forall_mem_cons]
          simp only [ih (Nat.succ.inj h)]
          constructor
          · rintro ⟨hp, fs, ⟨hps, rfl⟩, rfl⟩
            exact ⟨⟨hp, hps⟩, rfl⟩
          · rintro ⟨⟨hp, hps⟩, rfl⟩
            exact ⟨hp, _, ⟨hps, rfl⟩, rfl⟩

variable {spec : Spec} {key : Bytes} {body : String}

theorem fieldsOfBody?_eq_some_iff :
    spec.fieldsOfBody? body = some fields ↔
      (Text.split spec.separator body).length = spec.components.length ∧
        (∀ x ∈ (Text.split spec.separator body).zip spec.components, x.2.Admits x.1) ∧
          fieldsOf spec.components (Text.split spec.separator body) = fields := by
  rw [fieldsOfBody?]
  split
  next h => simp [h, fields?_eq_some_iff h]
  next h => simp [h]

theorem exists_body_iff :
    spec.parse key = .ready fields ↔
      ∃ body, body ≠ "" ∧ key.drop spec.saltLength = Text.Utf8.encode body ∧
        spec.fieldsOfBody? body = some fields := by
  have hparse : spec.parse key = .ready fields ↔ spec.parse? key = some fields := by
    rw [parse]
    cases spec.parse? key <;> simp
  rw [hparse, parse?]
  split
  next h =>
    have hdrop : key.drop spec.saltLength = [] := List.drop_eq_nil_of_le h
    refine ⟨nofun, ?_⟩
    rintro ⟨body, hne, hbody, _⟩
    exact absurd (Text.Utf8.encode_eq_nil_iff.1 (hbody.symm.trans hdrop)) hne
  next h =>
    rw [Option.bind_eq_some_iff]
    constructor
    · rintro ⟨body, hbody, hfields⟩
      have hbody := Text.Utf8.decode?_eq_some_iff.1 hbody
      refine ⟨body, ?_, hbody.symm, hfields⟩
      intro hempty
      subst hempty
      exact h (List.drop_eq_nil_iff.1 hbody.symm)
    · rintro ⟨body, _, hbody, hfields⟩
      exact ⟨body, Text.Utf8.decode?_eq_some_iff.2 hbody.symm, hfields⟩

/-- One value for each component, in a literal one its own, and no separator in any of them. -/
structure Takes (spec : Spec) (values : List String) : Prop where
  length : values.length = spec.components.length
  admits : ∀ x ∈ values.zip spec.components, x.2.Admits x.1
  apart : ∀ v ∈ values, Text.holds spec.separator v = false

def bodyOf (spec : Spec) (values : List String) : String := Text.join spec.separator values

def keyOf (spec : Spec) (values : List String) : Bytes :=
  spec.salt (Text.Utf8.encode (spec.bodyOf values)) ++ Text.Utf8.encode (spec.bodyOf values)

theorem valueFault?_eq_none_iff {p : Part} {v : String} :
    spec.valueFault? p v = none ↔ p.Admits v ∧ Text.holds spec.separator v = false := by
  rw [valueFault?, Part.Admits]
  cases p.role with
  | literal expected =>
      by_cases hv : v = expected
      · simp [hv]
      · simp [hv]
  | plain => simp
  | salt bits => simp

theorem takes_iff (h : values.length = spec.components.length) :
    spec.Takes values ↔ ∀ x ∈ values.zip spec.components, spec.valueFault? x.2 x.1 = none := by
  simp only [valueFault?_eq_none_iff]
  constructor
  · rintro ⟨_, hadmits, hapart⟩ x hx
    exact ⟨hadmits x hx, hapart x.1 (List.of_mem_zip hx).1⟩
  · intro hx
    refine ⟨h, fun x hmem => (hx x hmem).1, ?_⟩
    intro v hv
    rw [← List.map_fst_zip (Nat.le_of_eq h), List.mem_map] at hv
    obtain ⟨x, hmem, rfl⟩ := hv
    exact (hx x hmem).2

theorem encode_eq_ok_iff :
    spec.encode values = .ok key ↔ spec.Takes values ∧ spec.keyOf values = key := by
  rw [encode]
  split
  next h =>
    refine ⟨nofun, ?_⟩
    rintro ⟨⟨hlength, _, _⟩, _⟩
    exact absurd hlength h
  next h =>
    have hlength : values.length = spec.components.length := Decidable.not_not.1 h
    split
    next e he =>
      refine ⟨nofun, ?_⟩
      rintro ⟨htakes, _⟩
      obtain ⟨x, hx, hfault⟩ := List.exists_of_findSome?_eq_some he
      cases hfault.symm.trans ((takes_iff hlength).1 htakes x hx)
    next hnone =>
      have htakes := (takes_iff hlength).2 (List.findSome?_eq_none_iff.1 hnone)
      simp [htakes, keyOf, bodyOf]

/-- What the checks of a key leave to rely on. -/
structure Sound (spec : Spec) : Prop where
  salt_width : spec.saltWidth ≤ 256
  some_component : spec.components ≠ []
  separated : spec.separator = "" → spec.components.length = 1

theorem exists_salt (h : spec.saltWidth ≠ 0) :
    ∃ p ps, spec.parts = p :: ps ∧ p.role = .salt spec.saltWidth := by
  cases hparts : spec.parts with
  | nil => simp [saltWidth, hparts] at h
  | cons p ps =>
      refine ⟨p, ps, rfl, ?_⟩
      cases hrole : p.role <;> simp_all [saltWidth]

theorem saltWidth_le_of_partFault? (h : partFault? [] spec.parts = none) :
    spec.saltWidth ≤ 256 := by
  by_cases hzero : spec.saltWidth = 0
  · omega
  · obtain ⟨p, ps, hparts, hrole⟩ := exists_salt hzero
    rw [hparts, partFault?, if_neg List.not_mem_nil] at h
    simp only [hrole] at h
    split at h
    next => cases h
    next =>
      split at h
      next => cases h
      next hbits => omega

theorem sound_of_make {separator : String} (h : make separator parts = .ok spec) : spec.Sound := by
  rw [make] at h
  split at h
  next => cases h
  next hfault =>
    cases h
    rw [fault?] at hfault
    split at hfault
    next => cases hfault
    next hparts =>
      split at hfault
      next => cases hfault
      next hsome =>
        split at hfault
        next => cases hfault
        next hsep =>
          have hne := List.isEmpty_eq_false_iff.1 (Bool.eq_false_iff.2 hsome)
          refine ⟨saltWidth_le_of_partFault? hparts, hne, ?_⟩
          intro hempty
          have hpos := List.length_pos_iff.2 hne
          have hlen : ¬ 1 < (components ⟨separator, parts⟩).length := by
            intro hlt
            exact hsep ⟨hlt, String.isEmpty_iff.2 hempty⟩
          omega

theorem length_salt (h : spec.Sound) (body : Bytes) :
    (spec.salt body).length = spec.saltLength := by
  have hwidth := h.salt_width
  have htake : ((Digest.Sha256.digest body).take spec.saltLength).length = spec.saltLength := by
    rw [List.length_take, Digest.Sha256.length_digest, saltLength]
    omega
  rw [salt]
  split
  next hnil =>
    rw [List.reverse_eq_nil_iff] at hnil
    rw [← htake, hnil]
  next last before hrev =>
    have hlen := congrArg List.length hrev
    rw [List.length_reverse, htake] at hlen
    rw [List.length_reverse, hlen]
    rfl

theorem saltLength_of_unsalted (h : ∀ p ∈ spec.parts, p.isSalt = false) : spec.saltLength = 0 := by
  by_cases hzero : spec.saltWidth = 0
  · rw [saltLength, hzero]
  · obtain ⟨p, ps, hparts, hrole⟩ := exists_salt hzero
    have hp := h p (hparts ▸ List.mem_cons_self)
    rw [Part.isSalt, hrole] at hp
    cases hp

theorem drop_keyOf (h : spec.Sound) (values : List String) :
    (spec.keyOf values).drop spec.saltLength = Text.Utf8.encode (spec.bodyOf values) :=
  List.drop_left' (length_salt h _)

theorem length_keyOf (h : spec.Sound) (values : List String) :
    (spec.keyOf values).length =
      spec.saltLength + (Text.Utf8.encode (spec.bodyOf values)).length := by
  rw [keyOf, List.length_append, length_salt h]

/-- A key is read into the components that its text is cut into. -/
theorem parse_eq_ready_iff :
    spec.parse key = .ready fields ↔
      ∃ values, spec.Takes values ∧ Text.split spec.separator (spec.bodyOf values) = values ∧
        spec.bodyOf values ≠ "" ∧
          key.drop spec.saltLength = Text.Utf8.encode (spec.bodyOf values) ∧
            fieldsOf spec.components values = fields := by
  rw [exists_body_iff]
  constructor
  · rintro ⟨body, hne, hdrop, hfields⟩
    obtain ⟨hlength, hadmits, hfields⟩ := fieldsOfBody?_eq_some_iff.1 hfields
    have hbody : spec.bodyOf (Text.split spec.separator body) = body := Text.join_split _ _
    refine ⟨Text.split spec.separator body, ⟨hlength, hadmits, ?_⟩, ?_, ?_, ?_, hfields⟩
    · exact fun v hv => Text.not_holds_of_mem_split hv
    · rw [hbody]
    · rw [hbody]
      exact hne
    · rw [hbody]
      exact hdrop
  · rintro ⟨values, htakes, hsplit, hne, hdrop, hfields⟩
    refine ⟨spec.bodyOf values, hne, hdrop, fieldsOfBody?_eq_some_iff.2 ?_⟩
    rw [hsplit]
    exact ⟨htakes.length, htakes.admits, hfields⟩

theorem length_of_parse (h : spec.parse key = .ready fields) :
    key.length = spec.saltLength + (key.drop spec.saltLength).length := by
  obtain ⟨values, _, _, hne, hdrop, _⟩ := parse_eq_ready_iff.1 h
  have hpos : 0 < (key.drop spec.saltLength).length := by
    rw [hdrop, List.length_pos_iff]
    exact fun hnil => hne (Text.Utf8.encode_eq_nil_iff.1 hnil)
  rw [List.length_drop] at hpos ⊢
  omega

theorem bodyOf_eq_empty_iff (h : spec.Sound) (ht : spec.Takes values) :
    spec.bodyOf values = "" ↔ values = [""] := by
  constructor
  · intro hempty
    have hlist : (spec.bodyOf values).toList = [] := by
      rw [hempty]
      rfl
    rw [bodyOf, Text.toList_join] at hlist
    cases values with
    | nil => exact absurd (List.eq_nil_of_length_eq_zero ht.length.symm) h.some_component
    | cons v vs =>
        by_cases hvs : vs = []
        · subst hvs
          rw [List.map_singleton, List.intercalate_singleton] at hlist
          rw [String.toList_eq_nil_iff.1 hlist]
        · rw [List.map_cons, List.intercalate_cons_of_ne_nil (by simpa using hvs),
            List.append_eq_nil_iff, List.append_eq_nil_iff] at hlist
          have hone := h.separated (String.toList_eq_nil_iff.1 hlist.1.2)
          rw [← ht.length, List.length_cons] at hone
          exact absurd (List.eq_nil_of_length_eq_zero (Nat.succ.inj hone)) hvs
  · rintro rfl
    exact Text.join_singleton

theorem split_bodyOf_iff (h : spec.Sound) (ht : spec.Takes values) :
    Text.split spec.separator (spec.bodyOf values) = values ↔
      ∀ v ∈ values.dropLast, Text.Clear spec.separator.toList v.toList := by
  by_cases hsep : spec.separator = ""
  · obtain ⟨v, rfl⟩ := List.length_eq_one_iff.1 (ht.length.trans (h.separated hsep))
    simp [bodyOf, hsep, Text.join_singleton, Text.split_without_separator]
  · refine Text.split_join_iff hsep ?_ ht.apart
    rintro rfl
    exact h.some_component (List.eq_nil_of_length_eq_zero ht.length.symm)

/-- A key that was made is read into its components if something stands behind the salt and no
separator begins within a component and ends behind it, and only then. -/
theorem parse_encode_iff {separator : String} (h : make separator parts = .ok spec)
    (hkey : spec.encode values = .ok key) :
    (∃ fields, spec.parse key = .ready fields ∧ fields.map (·.value) = values.map some ∧
        fields.map (·.name) = spec.components.map (·.name)) ↔
      values ≠ [""] ∧ ∀ v ∈ values.dropLast, Text.Clear spec.separator.toList v.toList := by
  have hs := sound_of_make h
  obtain ⟨htakes, rfl⟩ := encode_eq_ok_iff.1 hkey
  have hdrop := drop_keyOf hs values
  constructor
  · rintro ⟨fields, hparse, hvalues, _⟩
    obtain ⟨read, hread, hsplit, hne, hbody, rfl⟩ := parse_eq_ready_iff.1 hparse
    obtain rfl := eq_of_values_fieldsOf hread.length hvalues
    exact ⟨fun hnil => hne ((bodyOf_eq_empty_iff hs htakes).2 hnil),
      (split_bodyOf_iff hs htakes).1 hsplit⟩
  · rintro ⟨hne, hclear⟩
    obtain ⟨hvalues, hnames⟩ := map_fieldsOf htakes.length
    refine ⟨fieldsOf spec.components values, parse_eq_ready_iff.2 ?_, hvalues, hnames⟩
    exact ⟨values, htakes, (split_bodyOf_iff hs htakes).2 hclear,
      fun hempty => hne ((bodyOf_eq_empty_iff hs htakes).1 hempty), hdrop, rfl⟩

private def lineKey : Spec :=
  ⟨"||", [⟨"salt", .salt 12, .string⟩, ⟨"table", .literal "INV", .string⟩, ⟨"id", .plain, .string⟩,
    ⟨"line", .plain, .int⟩]⟩

theorem line_key_read_back :
    make "||" lineKey.parts = .ok lineKey ∧ ∃ key, lineKey.encode ["INV", "S|7", ""] = .ok key ∧
      ∃ fields, lineKey.parse key = .ready fields ∧
        fields.map (·.value) = [some "INV", some "S|7", some ""] ∧
          fields.map (·.name) = ["table", "id", "line"] := by
  have hmade : make "||" lineKey.parts = .ok lineKey := rfl
  obtain ⟨key, hkey⟩ : ∃ key, lineKey.encode ["INV", "S|7", ""] = .ok key := ⟨_, rfl⟩
  have hread := (parse_encode_iff hmade hkey).2 ⟨by decide, by decide⟩
  exact ⟨hmade, key, hkey, hread⟩

private def pairKey : Spec := ⟨"||", [⟨"a", .plain, .string⟩, ⟨"b", .plain, .string⟩]⟩

private def soleKey : Spec := ⟨"|", [⟨"a", .plain, .string⟩]⟩

/-- Of `x|` and `y` the key `x|||y` is made, and it is read as `x` and `|y`. A key made of nothing
is not read at all. -/
theorem key_misread :
    (make "||" pairKey.parts = .ok pairKey ∧ ∃ key, pairKey.encode ["x|", "y"] = .ok key ∧
      pairKey.parse key = .ready [.key "a" "x" .string, .key "b" "|y" .string] ∧
        ¬ ∃ fields, pairKey.parse key = .ready fields ∧
          fields.map (·.value) = [some "x|", some "y"]) ∧
      make "|" soleKey.parts = .ok soleKey ∧ ∃ key, soleKey.encode [""] = .ok key ∧
        soleKey.parse key = .skip .malformedRowKey := by
  have hread : pairKey.parse (pairKey.keyOf ["x|", "y"]) =
      .ready [.key "a" "x" .string, .key "b" "|y" .string] := by decide
  refine ⟨⟨rfl, _, rfl, hread, ?_⟩, rfl, _, rfl, by decide⟩
  rintro ⟨fields, hfields, hvalues⟩
  cases hread.symm.trans hfields
  exact absurd hvalues (by decide)

/-- A key that is read is made again from the values of its fields, up to the bytes of the salt. -/
theorem encode_of_parse {separator : String} (h : make separator parts = .ok spec)
    (hkey : spec.parse key = .ready fields) :
    ∃ values made, fields.map (·.value) = values.map some ∧ spec.encode values = .ok made ∧
      made.length = key.length ∧ made.drop spec.saltLength = key.drop spec.saltLength ∧
      ((∀ p ∈ spec.parts, p.isSalt = false) → made = key) ∧
      ∀ other, spec.parse other = .ready fields →
        other.length = key.length ∧ other.drop spec.saltLength = key.drop spec.saltLength := by
  have hs := sound_of_make h
  obtain ⟨values, htakes, hsplit, hne, hdrop, rfl⟩ := parse_eq_ready_iff.1 hkey
  have hmade : (spec.keyOf values).drop spec.saltLength = key.drop spec.saltLength :=
    (drop_keyOf hs values).trans hdrop.symm
  have hlength := length_of_parse hkey
  refine ⟨values, spec.keyOf values, (map_fieldsOf htakes.length).1,
    encode_eq_ok_iff.2 ⟨htakes, rfl⟩, ?_, hmade, ?_, ?_⟩
  · rw [length_keyOf hs, hlength, hdrop]
  · intro hunsalted
    rwa [saltLength_of_unsalted hunsalted, List.drop_zero, List.drop_zero] at hmade
  · intro other hother
    obtain ⟨values', htakes', _, _, hdrop', hfields⟩ := parse_eq_ready_iff.1 hother
    have hvalues := (map_fieldsOf htakes.length).1
    obtain rfl := eq_of_values_fieldsOf htakes'.length (hfields ▸ hvalues)
    have hsame := hdrop'.trans hdrop.symm
    exact ⟨by rw [length_of_parse hother, hlength, hsame], hsame⟩

theorem line_key_made_again :
    lineKey.parse (0xFF :: 0xFF :: Text.Utf8.encode "INV||S|7||") =
        .ready [.key "table" "INV" .string, .key "id" "S|7" .string, .key "line" "" .int] ∧
      ∃ values made, [some "INV", some "S|7", some ""] = values.map some ∧
        lineKey.encode values = .ok made ∧
          made.drop 2 = Text.Utf8.encode "INV||S|7||" := by
  have hread : lineKey.parse (0xFF :: 0xFF :: Text.Utf8.encode "INV||S|7||") =
      .ready [.key "table" "INV" .string, .key "id" "S|7" .string, .key "line" "" .int] := by
    decide
  have hmade : make "||" lineKey.parts = .ok lineKey := rfl
  obtain ⟨values, made, hvalues, hencode, _, hdrop, _⟩ := encode_of_parse hmade hread
  exact ⟨hread, values, made, hvalues, hencode, hdrop⟩

end Spec

end RowKey

end WideRow
