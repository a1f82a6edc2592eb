import Container.Proofs.MessagePack.Forms

set_option autoImplicit false

/-!
# What is written in MessagePack is read back

What the writer makes of a value that the format has a form for is one of its forms, so it is read
back, whatever follows it.

## Main definitions

* `Datum.Storable` — the values that the format has a form for, by how deep they are.

## Main results

* `MessagePack.form_encode` — what is written is a form of the value.
* `MessagePack.readValue_encode` — what is written is read back.
-/

namespace Container

namespace MessagePack

variable {depth n : Nat}

/-! ## Heads -/

/-- The head of a string tells its size. -/
theorem tells_textHead (h : n < 2 ^ 32) : Heads.text.Tells n (textHead n) := by
  unfold textHead
  split
  · exact .short rfl (by assumption)
  · split
    · exact .long (by decide) (by omega)
    · split <;> exact .long (by decide) (by omega)

/-- The head of a byte string tells its size. -/
theorem tells_bytesHead (h : n < 2 ^ 32) : Heads.bytes.Tells n (bytesHead n) := by
  unfold bytesHead
  split
  · exact .long (by decide) (by omega)
  · split <;> exact .long (by decide) (by omega)

/-- The head of an array tells its size. -/
theorem tells_arrayHead (h : n < 2 ^ 32) : Heads.array.Tells n (arrayHead n) := by
  unfold arrayHead
  split
  · exact .short rfl (by assumption)
  · split <;> exact .long (by decide) (by omega)

/-- The head of a map tells its size. -/
theorem tells_mapHead (h : n < 2 ^ 32) : Heads.map.Tells n (mapHead n) := by
  unfold mapHead
  split
  · exact .short rfl (by assumption)
  · split <;> exact .long (by decide) (by omega)

/-! ## Numbers -/

/-- A natural number in its least width. -/
theorem form_nat {first : UInt8} {width : Nat} (hfirst : (first, width) ∈ naturalFirsts)
    (h : n < 256 ^ width) (hleast : Datum.Width.least n = widthOf width) :
    Form depth (.nat n) (first :: bigEndianBytes width n) := by
  rw [Datum.nat, hleast]
  exact .natural depth hfirst h

/-- A natural number of sixty-four bits is written in a form of it. -/
theorem form_encodeNatural (h : n < 2 ^ 64) : Form depth (.nat n) (encodeNatural n) := by
  unfold encodeNatural
  split
  · have hleast : Datum.Width.least n = .w8 := if_pos (by omega)
    rw [Datum.nat, hleast]
    exact .smallNatural depth (by assumption)
  · split
    · refine form_nat (by decide) (by omega) ?_
      exact if_pos (by assumption)
    · split
      · refine form_nat (by decide) (by omega) ?_
        rw [Datum.Width.least, if_neg (by assumption)]
        exact if_pos (by assumption)
      · split
        · refine form_nat (by decide) (by omega) ?_
          rw [Datum.Width.least, if_neg (by assumption), if_neg (by assumption)]
          exact if_pos (by assumption)
        · refine form_nat (by decide) (by omega) ?_
          rw [Datum.Width.least, if_neg (by assumption), if_neg (by assumption)]
          exact if_neg (by assumption)

/-- A negative number by its complement. -/
theorem form_negative {first : UInt8} {width : Nat} (hfirst : (first, width) ∈ integerFirsts)
    (hpos : 0 < n) (h : n ≤ 2 ^ (8 * width - 1)) :
    Form depth (.integer (-n)) (first :: bigEndianBytes width (2 ^ (8 * width) - n)) := by
  have hbounds : -2 ^ (8 * width - 1) ≤ (-n : Int) ∧ (-n : Int) < 2 ^ (8 * width - 1) ∧
      ((-n : Int) % 2 ^ (8 * width)).toNat = 2 ^ (8 * width) - n := by
    simp only [integerFirsts, List.mem_cons, Prod.mk.injEq, List.not_mem_nil, or_false] at hfirst
    obtain ⟨-, rfl⟩ | ⟨-, rfl⟩ | ⟨-, rfl⟩ | ⟨-, rfl⟩ := hfirst
    all_goals
      simp only [Nat.reduceMul, Nat.reduceSub, Int.reducePow, Nat.reducePow] at h ⊢
      omega
  obtain ⟨hlow, hhigh, hcomplement⟩ := hbounds
  rw [← hcomplement]
  exact .integer depth hfirst hlow hhigh

/-- A negative number of sixty-four bits is written in a form of it. -/
theorem form_encodeNegative (hpos : 0 < n) (h : n ≤ 2 ^ 63) :
    Form depth (.integer (-n)) (encodeNegative n) := by
  unfold encodeNegative
  split
  · exact .smallNegative depth hpos (by assumption)
  · split
    · exact @form_negative depth n 0xD0 1 (by decide) hpos (by assumption)
    · split
      · exact @form_negative depth n 0xD1 2 (by decide) hpos (by assumption)
      · split
        · exact @form_negative depth n 0xD2 4 (by decide) hpos (by assumption)
        · exact @form_negative depth n 0xD3 8 (by decide) hpos h

/-! ## Values -/

end MessagePack

/-- The values that the format has a form for, with at most so many of them around one another.
Numbers are in their least form. -/
inductive Datum.Storable : Nat → Datum → Prop
  | null (depth : Nat) : Storable depth .null
  | bool (depth : Nat) (b : Bool) : Storable depth (.bool b)
  | natural (depth : Nat) {n : Nat} (h : n < 2 ^ 64) : Storable depth (.nat n)
  | negative (depth : Nat) {n : Nat} (hpos : 0 < n) (h : n ≤ 2 ^ 63) :
      Storable depth (.integer (-n))
  | text (depth : Nat) {s : String} (h : (Utf8.bytes s).length < 2 ^ 32) : Storable depth (.text s)
  | bytes (depth : Nat) {bs : Bytes} (h : bs.length < 2 ^ 32) : Storable depth (.bytes bs)
  | sequence (depth : Nat) {items : List Datum} (h : items.length < 2 ^ 32)
      (hitems : ∀ item ∈ items, Storable depth item) : Storable (depth + 1) (.sequence items)
  | map (depth : Nat) {entries : List (Datum × Datum)} (h : entries.length < 2 ^ 32)
      (hkeys : ∀ entry ∈ entries, Storable depth entry.1)
      (hvalues : ∀ entry ∈ entries, Storable depth entry.2) : Storable (depth + 1) (.map entries)

namespace MessagePack

/-- A string is written in a form of it. -/
theorem form_encode_text {depth : Nat} {s : String} (h : (Utf8.bytes s).length < 2 ^ 32) :
    Form depth (.text s) (encode (.text s)) := by
  simpa only [encode] using Form.ofText depth (tells_textHead h)

/-- The bytes of items are those of each, one after the other. -/
theorem encodeItems_eq (items : List Datum) :
    encodeItems items = (items.map fun d => (d, encode d)).flatMap (·.2) := by
  induction items with
  | nil => rfl
  | cons d items ih => rw [encodeItems, List.map_cons, List.flatMap_cons, ih]

/-- The bytes of entries are those of each, one after the other. -/
theorem encodeEntries_eq (entries : List (Datum × Datum)) :
    encodeEntries entries =
      (entries.map fun e => ((e.1, encode e.1), e.2, encode e.2)).flatMap
        fun e => e.1.2 ++ e.2.2 := by
  induction entries with
  | nil => rfl
  | cons e entries ih =>
    rw [encodeEntries, List.map_cons, List.flatMap_cons, ih, List.append_assoc]

/-- **What is written is a form** of the value. -/
theorem form_encode {depth : Nat} {d : Datum} (h : d.Storable depth) :
    Form depth d (encode d) := by
  induction h with
  | null depth =>
    simp only [encode]
    exact .null depth
  | bool depth b =>
    simp only [encode]
    exact .bool depth b
  | natural depth hn =>
    rw [Datum.nat, encode]
    exact form_encodeNatural hn
  | @negative depth n hpos hn =>
    rw [encode, encodeInteger, if_neg (by omega), Int.natAbs_neg, Int.natAbs_natCast]
    exact form_encodeNegative hpos hn
  | text depth hs => exact form_encode_text hs
  | bytes depth hbs =>
    rw [encode]
    exact .bytes depth (tells_bytesHead hbs)
  | @sequence depth items hlength hitems ih =>
    have hbytes : ∀ item ∈ items.map fun d => (d, encode d), Form depth item.1 item.2 :=
      List.forall_mem_map.mpr ih
    have hform := Form.sequence depth (tells_arrayHead (by simpa using hlength)) hbytes
    simpa [encode, encodeItems_eq, Function.comp_def] using hform
  | @map depth entries hlength hkeys hvalues ihkeys ihvalues =>
    have hbytes : ∀ e ∈ entries.map fun e => ((e.1, encode e.1), e.2, encode e.2),
        Form depth e.1.1 e.1.2 ∧ Form depth e.2.1 e.2.2 :=
      List.forall_mem_map.mpr fun e he => ⟨ihkeys e he, ihvalues e he⟩
    have hform := Form.map depth (tells_mapHead (by simpa using hlength))
      (fun e he => (hbytes e he).1) fun e he => (hbytes e he).2
    simpa [encode, encodeEntries_eq, Function.comp_def] using hform

/-- **What is written is read back**, whatever bytes follow it. -/
theorem readValue_encode {depth : Nat} {d : Datum} (h : d.Storable depth) (rest : Bytes) :
    readValue depth (encode d ++ rest) = (d, some rest) :=
  readValue_form (form_encode h) rest

/-! ## Sizes -/

/-- A string is written in more bytes than it has. -/
theorem length_bytes_lt_encode (s : String) :
    (Utf8.bytes s).length < (encode (.text s)).length := by
  have hhead : 0 < (textHead (Utf8.bytes s).length).length := by
    unfold textHead
    split
    · simp
    · split
      · simp
      · split <;> simp
  simp only [encode, List.length_append]
  omega

/-- An entry is a part of the bytes of its map. -/
theorem length_encode_le_encodeEntries {entries : List (Datum × Datum)} {e : Datum × Datum}
    (he : e ∈ entries) : (encode e.1).length + (encode e.2).length ≤
      (encodeEntries entries).length := by
  induction entries with
  | nil => simp at he
  | cons first entries ih =>
    simp only [encodeEntries, List.length_append]
    rcases List.mem_cons.mp he with rfl | he
    · omega
    · have hrest := ih he
      omega

/-- The text of a field is shorter than the record. -/
theorem length_bytes_lt_encode_record {fields : List (String × Datum)} {name s : String}
    (hf : (name, .text s) ∈ fields) :
    (Utf8.bytes s).length < (encode (.record fields)).length := by
  have hmem : (Datum.text name, Datum.text s) ∈ fields.map fun f => (Datum.text f.1, f.2) :=
    List.mem_map.mpr ⟨(name, .text s), hf, rfl⟩
  have hentry := length_encode_le_encodeEntries hmem
  have htext := length_bytes_lt_encode s
  simp only [Datum.record, encode, List.length_append] at hentry htext ⊢
  omega

/-- A record has a form in the format if its names and its values do and there are not too many
of them. -/
theorem storable_record {depth : Nat} {fields : List (String × Datum)}
    (hcount : fields.length < 2 ^ 32)
    (hfields : ∀ f ∈ fields, (Datum.text f.1).Storable depth ∧ f.2.Storable depth) :
    (Datum.record fields).Storable (depth + 1) := by
  refine .map depth ?_ ?_ ?_
  · rwa [List.length_map]
  · intro e he
    obtain ⟨f, hf, rfl⟩ := List.mem_map.mp he
    exact (hfields f hf).1
  · intro e he
    obtain ⟨f, hf, rfl⟩ := List.mem_map.mp he
    exact (hfields f hf).2

/-- The value that bytes begin with is the one that was written there. -/
theorem decode_encode {α : Type} {d : Datum} (h : d.Storable depthLimit)
    (reader : Datum → Datum.Reading α) (rest : Bytes) :
    decode reader (encode d ++ rest) = reader d := by
  rw [decode, read, readValue_encode h]

end MessagePack
end Container
