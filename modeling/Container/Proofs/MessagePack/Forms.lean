import Container.MessagePack.Reader
import Container.MessagePack.Writer
import Container.Proofs.Datum.Whole

set_option autoImplicit false

/-!
# The forms of a value

The format has several forms for most values: a size or a number may be told in more bytes than it
takes. All forms of a value are read as that value, whatever follows them.

## Main definitions

* `MessagePack.Heads`, `MessagePack.Heads.Tells` — how the size of a string or a container can be
  told.
* `MessagePack.Form` — the forms of a value, by how deep it is.

## Main results

* `MessagePack.readValue_form` — every form of a value is read as that value.
-/

namespace Container.MessagePack

variable {depth n : Nat}

/-! ## First bytes -/

section Markers

theorem Marker.of_smallNatural (h : n < 2 ^ 7) : Marker.of (UInt8.ofNat n) = .smallNatural n := by
  have hn : (UInt8.ofNat n).toNat = n := by simp; omega
  simp only [Marker.of, hn]
  rw [if_pos (by omega)]

theorem Marker.of_map (h : n < 2 ^ 4) : Marker.of (UInt8.ofNat (0x80 + n)) = .map (.known n) := by
  have hn : (UInt8.ofNat (0x80 + n)).toNat = 0x80 + n := by simp; omega
  simp only [Marker.of, hn]
  rw [if_neg (by omega), if_pos (by omega), Nat.add_sub_cancel_left]

theorem Marker.of_array (h : n < 2 ^ 4) :
    Marker.of (UInt8.ofNat (0x90 + n)) = .array (.known n) := by
  have hn : (UInt8.ofNat (0x90 + n)).toNat = 0x90 + n := by simp; omega
  simp only [Marker.of, hn]
  rw [if_neg (by omega), if_neg (by omega), if_pos (by omega), Nat.add_sub_cancel_left]

theorem Marker.of_text (h : n < 2 ^ 5) : Marker.of (UInt8.ofNat (0xA0 + n)) = .text (.known n) := by
  have hn : (UInt8.ofNat (0xA0 + n)).toNat = 0xA0 + n := by simp; omega
  simp only [Marker.of, hn]
  rw [if_neg (by omega), if_neg (by omega), if_neg (by omega), if_pos (by omega),
    Nat.add_sub_cancel_left]

theorem Marker.of_smallNegative (hpos : 0 < n) (h : n ≤ 2 ^ 5) :
    Marker.of (UInt8.ofNat (2 ^ 8 - n)) = .smallNegative (-n) := by
  have hn : (UInt8.ofNat (2 ^ 8 - n)).toNat = 2 ^ 8 - n := by simp; omega
  simp only [Marker.of, hn]
  rw [if_neg (by omega), if_neg (by omega), if_neg (by omega), if_neg (by omega),
    if_pos (by omega)]
  congr 1
  omega

end Markers

/-! ## Heads -/

/-- In which ways the size of a kind of value can be told: up to a bound by the first byte itself,
which is then added to the size, or by so many bytes after one of these. -/
structure Heads where
  short : Option (Nat × Nat)
  long : List (UInt8 × Nat)

namespace Heads

/-- The heads of strings. -/
def text : Heads := ⟨some (0xA0, 2 ^ 5), [(0xD9, 1), (0xDA, 2), (0xDB, 4)]⟩

/-- The heads of byte strings. -/
def bytes : Heads := ⟨none, [(0xC4, 1), (0xC5, 2), (0xC6, 4)]⟩

/-- The heads of arrays. -/
def array : Heads := ⟨some (0x90, 2 ^ 4), [(0xDC, 2), (0xDD, 4)]⟩

/-- The heads of maps. -/
def map : Heads := ⟨some (0x80, 2 ^ 4), [(0xDE, 2), (0xDF, 4)]⟩

/-- The bytes tell the size. -/
inductive Tells (heads : Heads) (size : Nat) : Bytes → Prop
  | short {first bound : Nat} (hshort : heads.short = some (first, bound)) (h : size < bound) :
      Tells heads size [UInt8.ofNat (first + size)]
  | long {first : UInt8} {width : Nat} (hlong : (first, width) ∈ heads.long)
      (h : size < 256 ^ width) : Tells heads size (first :: bigEndianBytes width size)

/-- The heads are those that the marker stands for. -/
structure Announces (heads : Heads) (marker : Extent → Marker) : Prop where
  short : ∀ {first bound : Nat}, heads.short = some (first, bound) → ∀ {size : Nat}, size < bound →
    Marker.of (UInt8.ofNat (first + size)) = marker (.known size)
  long : ∀ e ∈ heads.long, Marker.of e.1 = marker (.told e.2)

theorem announces_text : text.Announces .text where
  short h _ hsize := by
    cases h
    exact Marker.of_text hsize
  long := by decide

theorem announces_bytes : bytes.Announces .bytes where
  short h := by cases h
  long := by decide

theorem announces_array : array.Announces .array where
  short h _ hsize := by
    cases h
    exact Marker.of_array hsize
  long := by decide

theorem announces_map : map.Announces .map where
  short h _ hsize := by
    cases h
    exact Marker.of_map hsize
  long := by decide

/-- A size that was told in enough bytes is the size that is read. -/
theorem withExtent_told (bytes : Nat) (h : n < 256 ^ bytes) (bs : Bytes)
    (next : Nat → Bytes → Read) :
    withExtent (.told bytes) (bigEndianBytes bytes n ++ bs) next = next n bs := by
  rw [withExtent, takeBytes?_append (length_bigEndianBytes bytes n)]
  simp only [bigEndian_bigEndianBytes h]

/-- What comes after a head is read with the size that the head tells. -/
theorem Tells.read {heads : Heads} {marker : Extent → Marker} {head : Bytes}
    (h : heads.Tells n head) (hheads : heads.Announces marker) {reader : Bytes → Read}
    {next : Nat → Bytes → Read}
    (hreader : ∀ {b size} bs, Marker.of b = marker size →
      reader (b :: bs) = withExtent size bs next) (bs : Bytes) :
    reader (head ++ bs) = next n bs := by
  cases h with
  | short hshort h => exact hreader bs (hheads.short hshort h)
  | @long first width hlong h =>
    exact (hreader _ (hheads.long _ hlong)).trans (withExtent_told width h bs next)

end Heads

/-! ## Forms -/

/-- The first bytes of natural numbers, and in how many bytes each has the number. -/
def naturalFirsts : List (UInt8 × Nat) := [(0xCC, 1), (0xCD, 2), (0xCE, 4), (0xCF, 8)]

/-- The first bytes of numbers with a sign, and in how many bytes each has the number. -/
def integerFirsts : List (UInt8 × Nat) := [(0xD0, 1), (0xD1, 2), (0xD2, 4), (0xD3, 8)]

/-- The bytes are a form of the value, in which at most so many values lie around one another. A
number with a sign is told by its complement. Values of the types that the format leaves to its
users have no form here. -/
inductive Form : Nat → Datum → Bytes → Prop
  | null (depth : Nat) : Form depth .null [0xC0]
  | bool (depth : Nat) (b : Bool) : Form depth (.bool b) [if b then 0xC3 else 0xC2]
  | smallNatural (depth : Nat) {n : Nat} (h : n < 2 ^ 7) :
      Form depth (.natural n .w8) [UInt8.ofNat n]
  | natural (depth : Nat) {first : UInt8} {width n : Nat} (hfirst : (first, width) ∈ naturalFirsts)
      (h : n < 256 ^ width) :
      Form depth (.natural n (widthOf width)) (first :: bigEndianBytes width n)
  | smallNegative (depth : Nat) {n : Nat} (hpos : 0 < n) (h : n ≤ 2 ^ 5) :
      Form depth (.integer (-n)) [UInt8.ofNat (2 ^ 8 - n)]
  | integer (depth : Nat) {first : UInt8} {width : Nat} {i : Int}
      (hfirst : (first, width) ∈ integerFirsts) (hlow : -2 ^ (8 * width - 1) ≤ i)
      (hhigh : i < 2 ^ (8 * width - 1)) :
      Form depth (.integer i) (first :: bigEndianBytes width (i % 2 ^ (8 * width)).toNat)
  | single (depth : Nat) {n : Nat} (h : n < 2 ^ 32) :
      Form depth (.float (Float32.ofBits (UInt32.ofNat n)).toFloat.toBits)
        (0xCA :: bigEndianBytes 4 n)
  | double (depth : Nat) (bits : UInt64) :
      Form depth (.float bits) (0xCB :: bigEndianBytes 8 bits.toNat)
  | text (depth : Nat) {head bs : Bytes} (hhead : Heads.text.Tells bs.length head) :
      Form depth (textOrGarbled bs) (head ++ bs)
  | bytes (depth : Nat) {head bs : Bytes} (hhead : Heads.bytes.Tells bs.length head) :
      Form depth (.bytes bs) (head ++ bs)
  | sequence (depth : Nat) {head : Bytes} {items : List (Datum × Bytes)}
      (hhead : Heads.array.Tells items.length head)
      (hitems : ∀ item ∈ items, Form depth item.1 item.2) :
      Form (depth + 1) (.sequence (items.map (·.1))) (head ++ items.flatMap (·.2))
  | map (depth : Nat) {head : Bytes} {entries : List ((Datum × Bytes) × Datum × Bytes)}
      (hhead : Heads.map.Tells entries.length head)
      (hkeys : ∀ entry ∈ entries, Form depth entry.1.1 entry.1.2)
      (hvalues : ∀ entry ∈ entries, Form depth entry.2.1 entry.2.2) :
      Form (depth + 1) (.map (entries.map fun e => (e.1.1, e.2.1)))
        (head ++ entries.flatMap fun e => e.1.2 ++ e.2.2)

/-- A text, by the bytes that it has. -/
theorem Form.ofText (depth : Nat) {head : Bytes} {s : String}
    (hhead : Heads.text.Tells (Utf8.bytes s).length head) :
    Form depth (.text s) (head ++ Utf8.bytes s) := by
  have hform := Form.text depth hhead
  rwa [textOrGarbled, Utf8.text?_bytes] at hform

/-! ## Reading -/

section Announced

variable {b : UInt8} {size : Extent} {width : Nat} (bs : Bytes)

theorem readValue_text (h : Marker.of b = .text size) :
    readValue depth (b :: bs) = withExtent size bs (readRun textOrGarbled) := by
  simp only [readValue, h]

theorem readValue_bytes (h : Marker.of b = .bytes size) :
    readValue depth (b :: bs) = withExtent size bs (readRun .bytes) := by
  simp only [readValue, h]

theorem readValue_natural (h : Marker.of b = .natural width) :
    readValue depth (b :: bs) = readNumber width bs fun n => .natural n (widthOf width) := by
  simp only [readValue, h]

theorem readValue_integer (h : Marker.of b = .integer width) :
    readValue depth (b :: bs) =
      readNumber width bs fun n => .integer (signed (8 * width) n) := by
  simp only [readValue, h]

theorem readValue_array (h : Marker.of b = .array size) :
    readValue (depth + 1) (b :: bs) =
      withExtent size bs fun n bs => readItems (readValue depth) n [] bs := by
  simp only [readValue, h]

theorem readValue_map (h : Marker.of b = .map size) :
    readValue (depth + 1) (b :: bs) =
      withExtent size bs fun n bs => readEntries (readValue depth) (readValue depth) n [] bs := by
  simp only [readValue, h]

end Announced

/-- A number that was written in enough bytes is the number that is read. -/
theorem readNumber_bigEndianBytes (bytes : Nat) (h : n < 256 ^ bytes) (bs : Bytes)
    (value : Nat → Datum) :
    readNumber bytes (bigEndianBytes bytes n ++ bs) value = (value n, some bs) := by
  rw [readNumber, takeBytes?_append (length_bigEndianBytes bytes n)]
  simp only [bigEndian_bigEndianBytes h]

/-- A run of bytes is read as it stands. -/
theorem readRun_append (value : Bytes → Datum) (run bs : Bytes) :
    readRun value run.length (run ++ bs) = (value run, some bs) := by
  rw [readRun, takeBytes?_append rfl]

/-- A number with a sign is told by its complement. -/
theorem signed_emod {first : UInt8} {width : Nat} {i : Int}
    (hfirst : (first, width) ∈ integerFirsts) (hlow : -2 ^ (8 * width - 1) ≤ i)
    (hhigh : i < 2 ^ (8 * width - 1)) :
    (i % 2 ^ (8 * width)).toNat < 256 ^ width ∧
      signed (8 * width) (i % 2 ^ (8 * width)).toNat = i := by
  simp only [integerFirsts, List.mem_cons, Prod.mk.injEq, List.not_mem_nil, or_false] at hfirst
  obtain ⟨-, rfl⟩ | ⟨-, rfl⟩ | ⟨-, rfl⟩ | ⟨-, rfl⟩ := hfirst
  all_goals
    simp only [signed, Nat.reduceMul, Nat.reduceSub, Int.reducePow, Nat.reducePow] at hlow hhigh ⊢
    omega

/-- Items that are read back one by one, each from bytes of its own, are read back together. -/
theorem readItems_each {item : Bytes → Read} {items : List (Datum × Bytes)}
    (h : ∀ e ∈ items, ∀ rest, item (e.2 ++ rest) = (e.1, some rest)) (read : List Datum)
    (rest : Bytes) :
    readItems item items.length read (items.flatMap (·.2) ++ rest) =
      (.sequence (read.reverse ++ items.map (·.1)), some rest) := by
  induction items generalizing read with
  | nil => simp [readItems]
  | cons e items ih =>
    simp only [List.flatMap_cons, List.length_cons, List.append_assoc, readItems]
    rw [h e (by simp)]
    have hitems := ih (fun e' he' => h e' (by simp [he'])) (e.1 :: read)
    simpa using hitems

/-- Entries whose keys and values are read back one by one, each from bytes of its own, are read
back together. -/
theorem readEntries_each {key item : Bytes → Read}
    {entries : List ((Datum × Bytes) × Datum × Bytes)}
    (hkeys : ∀ e ∈ entries, ∀ rest, key (e.1.2 ++ rest) = (e.1.1, some rest))
    (hvalues : ∀ e ∈ entries, ∀ rest, item (e.2.2 ++ rest) = (e.2.1, some rest))
    (read : List (Datum × Datum)) (rest : Bytes) :
    readEntries key item entries.length read
        (entries.flatMap (fun e => e.1.2 ++ e.2.2) ++ rest) =
      (.map (read.reverse ++ entries.map fun e => (e.1.1, e.2.1)), some rest) := by
  induction entries generalizing read with
  | nil => simp [readEntries]
  | cons e entries ih =>
    simp only [List.flatMap_cons, List.length_cons, List.append_assoc, readEntries]
    simp only [hkeys e (by simp), hvalues e (by simp)]
    have hentries := ih (fun e he => hkeys e (by simp [he])) (fun e he => hvalues e (by simp [he]))
      ((e.1.1, e.2.1) :: read)
    simpa using hentries

/-- **Every form of a value is read as that value**, whatever bytes follow it. -/
theorem readValue_form {d : Datum} {bs : Bytes} (h : Form depth d bs) (rest : Bytes) :
    readValue depth (bs ++ rest) = (d, some rest) := by
  induction h generalizing rest with
  | null =>
    simp only [List.singleton_append, readValue]
    rfl
  | bool depth b =>
    cases b <;> (simp only [List.singleton_append, readValue]; rfl)
  | smallNatural depth h =>
    simp only [List.singleton_append, readValue, Marker.of_smallNatural h]
  | @natural depth first width n hfirst h =>
    have hmarker : ∀ e ∈ naturalFirsts, Marker.of e.1 = .natural e.2 := by decide
    exact (readValue_natural _ (hmarker _ hfirst)).trans
      (readNumber_bigEndianBytes width h rest _)
  | smallNegative depth hpos h =>
    simp only [List.singleton_append, readValue, Marker.of_smallNegative hpos h]
  | @integer depth first width i hfirst hlow hhigh =>
    have hmarker : ∀ e ∈ integerFirsts, Marker.of e.1 = .integer e.2 := by decide
    obtain ⟨hsize, hsigned⟩ := signed_emod hfirst hlow hhigh
    refine (readValue_integer _ (hmarker _ hfirst)).trans
      ((readNumber_bigEndianBytes width hsize rest _).trans ?_)
    rw [hsigned]
  | single depth h =>
    simp only [List.cons_append, readValue]
    exact readNumber_bigEndianBytes 4 h rest _
  | double depth bits =>
    have hread := readNumber_bigEndianBytes 8 bits.toNat_lt rest fun n => .float (UInt64.ofNat n)
    rw [UInt64.ofNat_toNat] at hread
    simp only [List.cons_append, readValue]
    exact hread
  | @text depth head bs hhead =>
    rw [List.append_assoc, hhead.read Heads.announces_text readValue_text, readRun_append]
  | @bytes depth head bs hhead =>
    rw [List.append_assoc, hhead.read Heads.announces_bytes readValue_bytes, readRun_append]
  | sequence depth hhead hitems ih =>
    rw [List.append_assoc, hhead.read Heads.announces_array readValue_array, readItems_each ih]
    rfl
  | map depth hhead hkeys hvalues ihkeys ihvalues =>
    rw [List.append_assoc, hhead.read Heads.announces_map readValue_map,
      readEntries_each ihkeys ihvalues]
    rfl

/-- A value with a form is legible in all its parts. -/
theorem Form.whole {d : Datum} {bs : Bytes} (h : Form depth d bs) : d.Whole := by
  induction h with
  | null => exact .null
  | bool depth b => exact .bool b
  | smallNatural | natural => exact .natural _ _
  | smallNegative | integer => exact .integer _
  | single | double => exact .float _
  | text =>
    unfold textOrGarbled
    split
    · exact .text _
    · exact .garbled _
  | bytes => exact .bytes _
  | sequence depth hhead hitems ih => exact .sequence (List.forall_mem_map.mpr ih)
  | map depth hhead hkeys hvalues ihkeys ihvalues =>
    exact .map (List.forall_mem_map.mpr ihkeys) (List.forall_mem_map.mpr ihvalues)

end Container.MessagePack
