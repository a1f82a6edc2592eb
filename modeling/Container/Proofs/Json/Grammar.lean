import Container.Proofs.Datum.Whole
import Container.Proofs.Json.Numerals
import Container.Proofs.Json.Strings

set_option autoImplicit false

/-!
# JSON texts and what they denote

The grammar of JSON as a relation between texts and values, with blanks wherever they may stand,
every way to write a number and every way to write a string. Each text of the grammar is read as
the value it denotes.

## Main definitions

* `Json.Denotes` — a text of the grammar and its value.
* `Json.Spells` — a text in which the reader finds a value.

## Main results

* `Json.Denotes.spells` — a text of the grammar is read as what it denotes.
* `Json.Denotes.fault?` — a value that some text denotes can be passed over.
-/

namespace Container.Json

/-! ## Blanks -/

/-- Bytes that are all blank. -/
def Blank (gap : Bytes) : Prop := ∀ b ∈ gap, isBlank b = true

theorem blank_nil : Blank [] := by
  intro b hb
  cases hb

/-- Blanks are skipped. -/
theorem skipBlanks_append {gap : Bytes} (h : Blank gap) (rest : Bytes) :
    skipBlanks (gap ++ rest) = skipBlanks rest := by
  exact List.dropWhile_append_of_pos h

/-- Nothing else is. -/
theorem skipBlanks_cons {b : UInt8} (h : isBlank b = false) (rest : Bytes) :
    skipBlanks (b :: rest) = b :: rest := by
  rw [skipBlanks, List.dropWhile_cons_of_neg (by rw [h]; decide)]

/-- A blank ends a number. -/
theorem delimited_of_isBlank {b : UInt8} (h : isBlank b = true) (rest : Bytes) :
    Delimited (b :: rest) := by
  refine delimited_cons rest ?_
  simp only [isBlank, Bool.or_eq_true, beq_iff_eq] at h
  rcases h with ((rfl | rfl) | rfl) | rfl <;> decide

/-! ## The grammar -/

/-- A part of a sequence, or the value of an entry: its text, and blanks around it. -/
structure Part where
  before : Bytes
  text : Bytes
  after : Bytes
  value : Datum

/-- The bytes of a part. -/
def Part.bytes (part : Part) : Bytes := part.before ++ (part.text ++ part.after)

/-- There are only blanks around the text of the part. -/
def Part.Padded (part : Part) : Prop := Blank part.before ∧ Blank part.after

/-- An entry of a map: its key, with blanks around that, and its value. -/
structure Entry where
  key : Part
  value : Part

/-- The bytes of an entry. -/
def Entry.bytes (entry : Entry) : Bytes := entry.key.bytes ++ colon :: entry.value.bytes

/-- Texts with commas between them. -/
def commas : List Bytes → Bytes
  | [] => []
  | first :: others => first ++ others.flatMap fun text => comma :: text

/-- The text is one of the grammar, and denotes the value. -/
inductive Denotes : Bytes → Datum → Prop
  | null : Denotes (Utf8.bytes "null") .null
  | bool (b : Bool) : Denotes (Utf8.bytes (if b then "true" else "false")) (.bool b)
  | number {x : Numeral} {text : Bytes} (h : x.Written text) : Denotes text x.value
  | string {text : Bytes} {d : Datum} (h : Quotes text d) : Denotes text d
  | emptySequence {gap : Bytes} (hgap : Blank gap) :
      Denotes (openBracket :: (gap ++ [closeBracket])) (.sequence [])
  | sequence {first : Part} {parts : List Part} (hpadded : ∀ p ∈ first :: parts, p.Padded)
      (h : ∀ p ∈ first :: parts, Denotes p.text p.value) :
      Denotes (openBracket :: (commas ((first :: parts).map Part.bytes) ++ [closeBracket]))
        (.sequence ((first :: parts).map Part.value))
  | emptyMap {gap : Bytes} (hgap : Blank gap) :
      Denotes (openBrace :: (gap ++ [closeBrace])) (.map [])
  | map {first : Entry} {entries : List Entry}
      (hpadded : ∀ e ∈ first :: entries, e.key.Padded ∧ e.value.Padded)
      (hkeys : ∀ e ∈ first :: entries, Quotes e.key.text e.key.value)
      (h : ∀ e ∈ first :: entries, Denotes e.value.text e.value.value) :
      Denotes (openBrace :: (commas ((first :: entries).map Entry.bytes) ++ [closeBrace]))
        (.map ((first :: entries).map fun e => (e.key.value, e.value.value)))

/-- A value that some text denotes can be passed over. -/
theorem Denotes.fault? {text : Bytes} {d : Datum} (h : Denotes text d) : d.fault? = none := by
  induction h with
  | null | bool => rfl
  | @number x =>
    unfold Numeral.value
    simp only
    split
    · rfl
    · split
      · rfl
      · split <;> rfl
  | string h => exact h.fault?
  | emptySequence | emptyMap => rfl
  | sequence _ _ ih =>
    rw [Datum.fault?]
    exact Datum.faultOfItems?_eq_none (List.forall_mem_map.mpr ih)
  | map _ hkeys _ ih =>
    rw [Datum.fault?]
    exact Datum.faultOfEntries?_eq_none (List.forall_mem_map.mpr fun e he => (hkeys e he).fault?)
      (List.forall_mem_map.mpr ih)

/-! ## Texts in which a value is found -/

/-- A text spells a value if the reader finds the value there, whatever delimited bytes follow.
Each value takes at least one byte, and so does each item, so twice as many steps as there are
bytes are enough. -/
def Spells (text : Bytes) (d : Datum) : Prop :=
  ∀ fuel rest, 2 * text.length ≤ fuel → Delimited rest →
    readValue fuel (text ++ rest) = (d, some rest)

/-- A text that is neither a sequence nor a map is read as a scalar. -/
theorem readValue_scalar {b : UInt8} (hsequence : b ≠ openBracket) (hmap : b ≠ openBrace)
    (fuel : Nat) (bs : Bytes) : readValue (fuel + 1) (b :: bs) = readScalar (b :: bs) := by
  simp only [readValue, if_neg hsequence, if_neg hmap]

/-- A scalar that the reader finds is spelled. -/
theorem spells_of_readScalar {b : UInt8} {bs : Bytes} {d : Datum} (hsequence : b ≠ openBracket)
    (hmap : b ≠ openBrace)
    (h : ∀ rest, Delimited rest → readScalar (b :: bs ++ rest) = (d, some rest)) :
    Spells (b :: bs) d := by
  intro fuel rest hfuel hrest
  obtain ⟨fuel, rfl⟩ : ∃ n, fuel = n + 1 := ⟨fuel - 1, by simp at hfuel; omega⟩
  rw [List.cons_append, readValue_scalar hsequence hmap]
  exact h rest hrest

/-- No value begins with a blank or with the end of a sequence. -/
theorem Spells.begins {text : Bytes} {d : Datum} (h : Spells text d) :
    ∃ b bs, text = b :: bs ∧ isBlank b = false ∧ b ≠ closeBracket := by
  cases text with
  | nil =>
    have hread := h 0 [] (by simp) delimited_nil
    simp [readValue, stray] at hread
  | cons b bs =>
    have hstray : ∀ b : UInt8, (isBlank b = true ∨ b = closeBracket) →
        readValue (2 * (bs.length + 1)) (b :: bs) = stray := by
      intro b hb
      have hmarks : b ≠ openBracket ∧ b ≠ openBrace ∧ b ≠ quote ∧ b ≠ 0x6E ∧ b ≠ 0x74 ∧
          b ≠ 0x66 ∧ isDigit b = false ∧ b ≠ 0x2D := by
        simp only [isBlank, Bool.or_eq_true, beq_iff_eq] at hb
        rcases hb with (((rfl | rfl) | rfl) | rfl) | rfl <;> decide
      obtain ⟨hsequence, hmap, hquote, hn, ht, hf, hdigit, hminus⟩ := hmarks
      rw [Nat.mul_add, readValue_scalar hsequence hmap]
      simp only [readScalar, if_neg hquote, if_neg hn, if_neg ht, if_neg hf,
        scan_eq_none hdigit hminus]
    have hread := h (2 * (bs.length + 1)) [] (by simp) delimited_nil
    rw [List.append_nil] at hread
    have hnot : ¬ (isBlank b = true ∨ b = closeBracket) := by
      intro hb
      rw [hstray b hb] at hread
      simp [stray] at hread
    rw [not_or, Bool.not_eq_true] at hnot
    exact ⟨b, bs, rfl, hnot⟩

/-- A value is found after blanks. -/
theorem Spells.skipBlanks_eq {text : Bytes} {d : Datum} (h : Spells text d) {gap : Bytes}
    (hgap : Blank gap) (rest : Bytes) : skipBlanks (gap ++ (text ++ rest)) = text ++ rest := by
  obtain ⟨b, bs, rfl, hblank, -⟩ := h.begins
  rw [skipBlanks_append hgap, List.cons_append, skipBlanks_cons hblank]

/-! ## Scalars -/

theorem spells_null : Spells (Utf8.bytes "null") .null :=
  spells_of_readScalar (by decide) (by decide) fun _ _ => rfl

theorem spells_bool (b : Bool) : Spells (Utf8.bytes (if b then "true" else "false")) (.bool b) := by
  cases b
  · exact spells_of_readScalar (by decide) (by decide) fun _ _ => rfl
  · exact spells_of_readScalar (by decide) (by decide) fun _ _ => rfl

/-- A string is read as what it denotes. -/
theorem spells_quotes {text : Bytes} {d : Datum} (h : Quotes text d) : Spells text d := by
  obtain ⟨body, rfl, hread⟩ := h.readString
  refine spells_of_readScalar (by decide) (by decide) fun rest _ => ?_
  rw [List.cons_append, readScalar, if_pos rfl, hread]

/-- A key is read as what it denotes. -/
theorem readKey_quotes {text : Bytes} {d : Datum} (h : Quotes text d) (rest : Bytes) :
    readKey (text ++ rest) = (d, some rest) := by
  obtain ⟨body, rfl, hread⟩ := h.readString
  rw [List.cons_append, readKey, if_pos rfl, hread]

/-- A number begins with a digit or its sign. -/
theorem Numeral.Written.begins {x : Numeral} {text : Bytes} (h : x.Written text) :
    ∃ b bs, text = b :: bs ∧ (isDigit b = true ∨ b = 0x2D) := by
  obtain @⟨fraction, exponent, ⟨hne, hdigits⟩, -, -, -⟩ := h
  obtain ⟨b, digits, hwhole⟩ := List.exists_cons_of_ne_nil hne
  rw [hwhole] at hdigits ⊢
  cases x.negative
  · exact ⟨b, _, rfl, .inl (hdigits b List.mem_cons_self)⟩
  · exact ⟨0x2D, _, rfl, .inr rfl⟩

/-- A number is read as the value it denotes. -/
theorem spells_number {x : Numeral} {text : Bytes} (h : x.Written text) :
    Spells text x.value := by
  obtain ⟨b, bs, rfl, hb⟩ := h.begins
  have hmarks : b ≠ openBracket ∧ b ≠ openBrace ∧ b ≠ quote ∧ b ≠ 0x6E ∧ b ≠ 0x74 ∧
      b ≠ 0x66 := by
    refine ⟨?_, ?_, ?_, ?_, ?_, ?_⟩ <;>
    · rintro rfl
      revert hb
      decide
  obtain ⟨hsequence, hmap, hquote, hn, ht, hf⟩ := hmarks
  refine spells_of_readScalar hsequence hmap ?_
  intro rest hrest
  have hscan := h.scan hrest
  rw [List.cons_append] at hscan ⊢
  simp only [readScalar, if_neg hquote, if_neg hn, if_neg ht, if_neg hf, hscan]

/-! ## Parts between two marks -/

/-- What follows a part ends a number. -/
theorem delimited_after {after : Bytes} {b : UInt8} (hafter : Blank after)
    (hb : isDigit b = false ∧ b ≠ 0x2E ∧ b ≠ 0x65 ∧ b ≠ 0x45) (rest : Bytes) :
    Delimited (after ++ b :: rest) := by
  cases after with
  | nil => exact delimited_cons rest hb
  | cons first after => exact delimited_of_isBlank (hafter first List.mem_cons_self) _

/-- After the last part comes the end. -/
theorem follow_last {close : UInt8} {after : Bytes} (hclose : isBlank close = false)
    (hafter : Blank after) (rest : Bytes) :
    follow close (after ++ close :: rest) = .closed rest := by
  rw [follow, skipBlanks_append hafter, skipBlanks_cons hclose]
  simp only [if_true]

/-- After a comma comes another part. -/
theorem follow_comma {close : UInt8} {after : Bytes} (hclose : comma ≠ close)
    (hafter : Blank after) (rest : Bytes) :
    follow close (after ++ comma :: rest) = .another (skipBlanks rest) := by
  rw [follow, skipBlanks_append hafter, skipBlanks_cons (by decide)]
  simp only [if_neg hclose, if_true]

theorem commas_cons_cons (first next : Bytes) (others : List Bytes) :
    commas (first :: next :: others) = first ++ comma :: commas (next :: others) := by
  simp [commas]

/-- A part is found after the blanks before it. -/
theorem Part.skipBlanks_bytes {part : Part} (hpadded : part.Padded)
    (h : Spells part.text part.value) (rest : Bytes) :
    skipBlanks (part.bytes ++ rest) = part.text ++ (part.after ++ rest) := by
  rw [bytes, List.append_assoc, List.append_assoc]
  exact h.skipBlanks_eq hpadded.1 _

theorem Part.length_text_le (part : Part) : part.text.length ≤ part.bytes.length := by
  simp only [bytes, List.length_append]
  omega

section Items

variable {part : Part} {fuel : Nat} (hpadded : part.Padded) (h : Spells part.text part.value)
  (hfuel : 2 * part.bytes.length ≤ fuel) (read : List Datum) (rest : Bytes)

include hpadded h hfuel

/-- The last item is read up to the end. -/
theorem readItems_last :
    readItems (fuel + 1) read (skipBlanks (part.bytes ++ closeBracket :: rest)) =
      (.sequence (read.reverse ++ [part.value]), some rest) := by
  have htext := part.length_text_le
  have hvalue := h fuel (part.after ++ closeBracket :: rest) (by omega)
    (delimited_after hpadded.2 (by decide) rest)
  have hclose : isBlank closeBracket = false := by decide
  rw [Part.skipBlanks_bytes hpadded h, readItems, hvalue]
  simp [follow_last hclose hpadded.2]

/-- An item before a comma is read, and then the next. -/
theorem readItems_next :
    readItems (fuel + 1) read (skipBlanks (part.bytes ++ comma :: rest)) =
      readItems fuel (part.value :: read) (skipBlanks rest) := by
  have htext := part.length_text_le
  have hvalue := h fuel (part.after ++ comma :: rest) (by omega)
    (delimited_after hpadded.2 (by decide) rest)
  have hclose : comma ≠ closeBracket := by decide
  rw [Part.skipBlanks_bytes hpadded h, readItems, hvalue]
  simp [follow_comma hclose hpadded.2]

end Items

/-- Items that are found one by one are found together. -/
theorem readItems_commas {first : Part} {parts : List Part}
    (hpadded : ∀ p ∈ first :: parts, p.Padded) (h : ∀ p ∈ first :: parts, Spells p.text p.value)
    (read : List Datum) (rest : Bytes) (fuel : Nat)
    (hfuel : 2 * (commas ((first :: parts).map Part.bytes)).length + 2 ≤ fuel) :
    readItems fuel read
        (skipBlanks (commas ((first :: parts).map Part.bytes) ++ closeBracket :: rest)) =
      (.sequence (read.reverse ++ (first :: parts).map Part.value), some rest) := by
  induction parts generalizing first read fuel with
  | nil =>
    obtain ⟨fuel, rfl⟩ : ∃ n, fuel = n + 1 := ⟨fuel - 1, by omega⟩
    have hbytes : commas ([first].map Part.bytes) = first.bytes := by simp [commas]
    rw [hbytes] at hfuel ⊢
    exact readItems_last (hpadded first List.mem_cons_self) (h first List.mem_cons_self) (by omega)
      read rest
  | cons next parts ih =>
    obtain ⟨fuel, rfl⟩ : ∃ n, fuel = n + 1 := ⟨fuel - 1, by omega⟩
    rw [List.map_cons, List.map_cons, commas_cons_cons, ← List.map_cons] at hfuel ⊢
    rw [List.length_append, List.length_cons] at hfuel
    have hrest := ih (fun p hp => hpadded p (List.mem_cons_of_mem _ hp))
      (fun p hp => h p (List.mem_cons_of_mem _ hp)) (first.value :: read) fuel (by omega)
    rw [List.append_assoc, List.cons_append, readItems_next (hpadded first List.mem_cons_self)
      (h first List.mem_cons_self) (by omega), hrest]
    simp

section Entries

variable {entry : Entry} {fuel : Nat} (hkeyPadded : entry.key.Padded)
  (hvaluePadded : entry.value.Padded) (hkey : Quotes entry.key.text entry.key.value)
  (h : Spells entry.value.text entry.value.value) (hfuel : 2 * entry.bytes.length ≤ fuel)
  (read : List (Datum × Datum)) (rest : Bytes)

include hkeyPadded hvaluePadded hkey h hfuel

/-- An entry is read up to what follows it. -/
theorem readEntries_entry {b : UInt8} (hb : isDigit b = false ∧ b ≠ 0x2E ∧ b ≠ 0x65 ∧ b ≠ 0x45) :
    readEntries (fuel + 1) read (skipBlanks (entry.bytes ++ b :: rest)) =
      match follow closeBrace (entry.value.after ++ b :: rest) with
      | .closed rest => (.map ((entry.key.value, entry.value.value) :: read).reverse, some rest)
      | .another rest => readEntries fuel ((entry.key.value, entry.value.value) :: read) rest
      | .wrong =>
        (.map ((.broken .malformed, .null) :: (entry.key.value, entry.value.value) ::
          read).reverse, none) := by
  have hlength : entry.value.text.length ≤ entry.bytes.length := by
    have htext := entry.value.length_text_le
    simp only [Entry.bytes, List.length_append, List.length_cons]
    omega
  have hvalue := h fuel (entry.value.after ++ b :: rest) (by omega)
    (delimited_after hvaluePadded.2 hb rest)
  rw [Entry.bytes, List.append_assoc, List.cons_append,
    Part.skipBlanks_bytes hkeyPadded (spells_quotes hkey), readEntries, readKey_quotes hkey]
  cases hfollow : follow closeBrace (entry.value.after ++ b :: rest) <;>
    simp only [skipBlanks_append hkeyPadded.2, skipBlanks_cons (b := colon) (by decide), if_true,
      Part.skipBlanks_bytes hvaluePadded h, hvalue, hfollow]

/-- The last entry is read up to the end. -/
theorem readEntries_last :
    readEntries (fuel + 1) read (skipBlanks (entry.bytes ++ closeBrace :: rest)) =
      (.map (read.reverse ++ [(entry.key.value, entry.value.value)]), some rest) := by
  have hclose : isBlank closeBrace = false := by decide
  rw [readEntries_entry hkeyPadded hvaluePadded hkey h hfuel read rest (by decide)]
  simp [follow_last hclose hvaluePadded.2]

/-- An entry before a comma is read, and then the next. -/
theorem readEntries_next :
    readEntries (fuel + 1) read (skipBlanks (entry.bytes ++ comma :: rest)) =
      readEntries fuel ((entry.key.value, entry.value.value) :: read) (skipBlanks rest) := by
  have hclose : comma ≠ closeBrace := by decide
  rw [readEntries_entry hkeyPadded hvaluePadded hkey h hfuel read rest (by decide)]
  simp [follow_comma hclose hvaluePadded.2]

end Entries

/-- Entries that are found one by one are found together. -/
theorem readEntries_commas {first : Entry} {entries : List Entry}
    (hpadded : ∀ e ∈ first :: entries, e.key.Padded ∧ e.value.Padded)
    (hkeys : ∀ e ∈ first :: entries, Quotes e.key.text e.key.value)
    (h : ∀ e ∈ first :: entries, Spells e.value.text e.value.value) (read : List (Datum × Datum))
    (rest : Bytes) (fuel : Nat)
    (hfuel : 2 * (commas ((first :: entries).map Entry.bytes)).length + 2 ≤ fuel) :
    readEntries fuel read
        (skipBlanks (commas ((first :: entries).map Entry.bytes) ++ closeBrace :: rest)) =
      (.map (read.reverse ++ (first :: entries).map fun e => (e.key.value, e.value.value)),
        some rest) := by
  induction entries generalizing first read fuel with
  | nil =>
    obtain ⟨fuel, rfl⟩ : ∃ n, fuel = n + 1 := ⟨fuel - 1, by omega⟩
    have hbytes : commas ([first].map Entry.bytes) = first.bytes := by simp [commas]
    obtain ⟨hkeyPadded, hvaluePadded⟩ := hpadded first List.mem_cons_self
    rw [hbytes] at hfuel ⊢
    exact readEntries_last hkeyPadded hvaluePadded (hkeys first List.mem_cons_self)
      (h first List.mem_cons_self) (by omega) read rest
  | cons next entries ih =>
    obtain ⟨fuel, rfl⟩ : ∃ n, fuel = n + 1 := ⟨fuel - 1, by omega⟩
    rw [List.map_cons, List.map_cons, commas_cons_cons, ← List.map_cons] at hfuel ⊢
    rw [List.length_append, List.length_cons] at hfuel
    obtain ⟨hkeyPadded, hvaluePadded⟩ := hpadded first List.mem_cons_self
    have hrest := ih (fun e he => hpadded e (List.mem_cons_of_mem _ he))
      (fun e he => hkeys e (List.mem_cons_of_mem _ he))
      (fun e he => h e (List.mem_cons_of_mem _ he))
      ((first.key.value, first.value.value) :: read) fuel (by omega)
    rw [List.append_assoc, List.cons_append, readEntries_next hkeyPadded hvaluePadded
      (hkeys first List.mem_cons_self) (h first List.mem_cons_self) (by omega), hrest]
    simp

/-! ## Sequences and maps -/

/-- A sequence is found if its items are. -/
theorem Spells.sequence {first : Part} {parts : List Part}
    (hpadded : ∀ p ∈ first :: parts, p.Padded) (h : ∀ p ∈ first :: parts, Spells p.text p.value) :
    Spells (openBracket :: (commas ((first :: parts).map Part.bytes) ++ [closeBracket]))
      (.sequence ((first :: parts).map Part.value)) := by
  intro fuel rest hfuel _
  simp only [List.length_cons, List.length_append, List.length_nil] at hfuel
  obtain ⟨fuel, rfl⟩ : ∃ n, fuel = n + 1 := ⟨fuel - 1, by omega⟩
  have hitems := readItems_commas hpadded h [] rest fuel (by omega)
  obtain ⟨b, bs, hfirst, -, hb⟩ := (h first List.mem_cons_self).begins
  have hskip : ∃ bs, skipBlanks (commas ((first :: parts).map Part.bytes) ++
      closeBracket :: rest) = b :: bs := by
    rw [List.map_cons, commas, List.append_assoc, Part.skipBlanks_bytes
      (hpadded first List.mem_cons_self) (h first List.mem_cons_self), hfirst]
    exact ⟨_, rfl⟩
  obtain ⟨bs', hskip⟩ := hskip
  rw [hskip] at hitems
  simp only [List.cons_append, List.append_assoc, List.nil_append, readValue, if_true, hskip,
    if_neg hb, hitems, List.reverse_nil]

/-- A map is found if the values of its entries are. -/
theorem Spells.map {first : Entry} {entries : List Entry}
    (hpadded : ∀ e ∈ first :: entries, e.key.Padded ∧ e.value.Padded)
    (hkeys : ∀ e ∈ first :: entries, Quotes e.key.text e.key.value)
    (h : ∀ e ∈ first :: entries, Spells e.value.text e.value.value) :
    Spells (openBrace :: (commas ((first :: entries).map Entry.bytes) ++ [closeBrace]))
      (.map ((first :: entries).map fun e => (e.key.value, e.value.value))) := by
  intro fuel rest hfuel _
  simp only [List.length_cons, List.length_append, List.length_nil] at hfuel
  obtain ⟨fuel, rfl⟩ : ∃ n, fuel = n + 1 := ⟨fuel - 1, by omega⟩
  have hopen : openBrace ≠ openBracket := by decide
  have hquote : quote ≠ closeBrace := by decide
  have hentries := readEntries_commas hpadded hkeys h [] rest fuel (by omega)
  obtain ⟨body, hfirst, -⟩ := (hkeys first List.mem_cons_self).readString
  have hskip : ∃ bs, skipBlanks (commas ((first :: entries).map Entry.bytes) ++
      closeBrace :: rest) = quote :: bs := by
    rw [List.map_cons, commas, Entry.bytes, List.append_assoc, List.append_assoc,
      Part.skipBlanks_bytes (hpadded first List.mem_cons_self).1
        (spells_quotes (hkeys first List.mem_cons_self)), hfirst]
    exact ⟨_, rfl⟩
  obtain ⟨bs, hskip⟩ := hskip
  rw [hskip] at hentries
  simp only [List.cons_append, List.append_assoc, List.nil_append, readValue, if_neg hopen,
    if_true, hskip, if_neg hquote, hentries, List.reverse_nil]

/-- **A text of the grammar is read as what it denotes.** -/
theorem Denotes.spells {text : Bytes} {d : Datum} (h : Denotes text d) : Spells text d := by
  induction h with
  | null => exact spells_null
  | bool b => exact spells_bool b
  | number h => exact spells_number h
  | string h => exact spells_quotes h
  | @emptySequence gap hgap =>
    intro fuel rest hfuel _
    simp only [List.length_cons] at hfuel
    obtain ⟨fuel, rfl⟩ : ∃ n, fuel = n + 1 := ⟨fuel - 1, by omega⟩
    simp only [List.cons_append, List.append_assoc, List.nil_append, readValue, if_true,
      skipBlanks_append hgap, skipBlanks_cons (b := closeBracket) (by decide)]
  | sequence hpadded _ ih => exact Spells.sequence hpadded ih
  | @emptyMap gap hgap =>
    intro fuel rest hfuel _
    simp only [List.length_cons] at hfuel
    obtain ⟨fuel, rfl⟩ : ∃ n, fuel = n + 1 := ⟨fuel - 1, by omega⟩
    have hopen : openBrace ≠ openBracket := by decide
    simp only [List.cons_append, List.append_assoc, List.nil_append, readValue, if_neg hopen,
      if_true, skipBlanks_append hgap, skipBlanks_cons (b := closeBrace) (by decide)]
  | map hpadded hkeys _ ih => exact Spells.map hpadded hkeys ih

/-! ## Whole texts -/

/-- The whole text holds the value: there may be blanks around the text of it. -/
inductive Holds : Bytes → Datum → Prop
  | mk {before text after : Bytes} {d : Datum} (hbefore : Blank before) (hafter : Blank after)
      (h : Denotes text d) : Holds (before ++ (text ++ after)) d

/-- A text holds what it denotes. -/
theorem Denotes.holds {text : Bytes} {d : Datum} (h : Denotes text d) : Holds text d := by
  have hholds := Holds.mk blank_nil blank_nil h
  rwa [List.nil_append, List.append_nil] at hholds

/-- The reader finds the value that a text holds, and nothing but blanks after it. -/
theorem Holds.read_eq {text : Bytes} {d : Datum} (h : Holds text d) :
    ∃ after, Blank after ∧ read text = (d, some after) := by
  obtain @⟨before, text, after, d, hbefore, hafter, h⟩ := h
  have hdelimited : Delimited after := by
    cases after with
    | nil => exact delimited_nil
    | cons b after => exact delimited_of_isBlank (hafter b List.mem_cons_self) after
  refine ⟨after, hafter, ?_⟩
  rw [read, h.spells.skipBlanks_eq hbefore]
  exact h.spells _ after (by simp only [List.length_append]; omega) hdelimited

/-- What a text holds can be passed over. -/
theorem Holds.fault? {text : Bytes} {d : Datum} (h : Holds text d) : d.fault? = none := by
  obtain ⟨-, -, h⟩ := h
  exact h.fault?

/-- **A whole text** is read as what the reader makes of the value that it holds. -/
theorem Holds.parse_eq {α : Type} {text : Bytes} {d : Datum} (h : Holds text d)
    (reader : Datum → Datum.Reading α) : parse reader text = (reader d).mapError Error.of := by
  obtain ⟨after, hafter, hread⟩ := h.read_eq
  have hskip : skipBlanks after = [] := by
    have hblanks := skipBlanks_append hafter []
    rw [List.append_nil] at hblanks
    exact hblanks
  simp only [parse, hread]
  cases reader d with
  | error m => rfl
  | ok a => simp only [hskip, List.isEmpty_nil, if_true, Except.mapError]

end Container.Json
