import Container.Proofs.Json.Grammar

set_option autoImplicit false

/-!
# JSON text that is written is read back

A value without numbers that are not whole is read back from its text, be it on one line or
spread over lines. Both forms put the parts of a sequence or a map between two marks, with
blanks before each part and after the last, and differ in those blanks only; so what is said of
the grammar is said of such an arrangement.

## Main definitions

* `Datum.Printable` — the values that have a JSON form of their own.
* `Json.enclosed` — the parts of a sequence or a map, between two marks.

## Main results

* `Json.denotes_compact`, `Json.denotes_prettyAt` — what is written denotes its value.
* `Json.parse_compact`, `Json.parse_pretty` — reading a whole text that was written.
-/

namespace Container

/-- The values that have a JSON form of their own: whole numbers are in their least form, and
the keys of a map are texts. -/
inductive Datum.Printable : Datum → Prop
  | null : Printable .null
  | bool (b : Bool) : Printable (.bool b)
  | natural {n : Nat} (h : n < 2 ^ 64) : Printable (.nat n)
  | negative {n : Nat} (hpos : 0 < n) (h : n ≤ 2 ^ 63) : Printable (.integer (-n))
  | text (s : String) : Printable (.text s)
  | sequence {items : List Datum} (h : ∀ item ∈ items, Printable item) :
      Printable (.sequence items)
  | record {fields : List (String × Datum)} (h : ∀ field ∈ fields, Printable field.2) :
      Printable (.record fields)

namespace Json

/-! ## Scalars -/

/-- A new line is blank at every depth. -/
theorem blank_newline (depth : Nat) : Blank (Utf8.bytes (newline depth)) := by
  intro b hb
  have hblanks : ∀ c ∈ List.replicate (2 * depth) ' ', String.utf8EncodeChar c = [0x20] := by
    intro c hc
    rw [(List.mem_replicate.1 hc).2]
    rfl
  have hline : Utf8.bytes "\n" = [0x0A] := rfl
  rw [newline, Utf8.bytes_append, hline, Utf8.bytes_ofList, List.mem_append,
    List.mem_singleton] at hb
  rcases hb with rfl | hb
  · rfl
  · obtain ⟨c, hc, hb⟩ := List.mem_flatMap.1 hb
    rw [hblanks c hc, List.mem_singleton] at hb
    rw [hb]
    rfl

/-- An escaped character is one of the ways to write it. -/
theorem spelling_escaped (c : Char) : Spelling c (Utf8.bytes (escaped c)) := by
  have hletter : ∀ {n : Nat} {letter : UInt8}, c.toNat = n → n < 0x80 →
      simpleEscape? letter = some (UInt8.ofNat n) → Spelling c [backslash, letter] := by
    rintro n letter rfl hn h
    exact .letter hn h
  unfold escaped
  split
  · exact hletter (by assumption) (by decide) rfl
  · exact hletter (by assumption) (by decide) rfl
  · exact hletter (by assumption) (by decide) rfl
  · exact hletter (by assumption) (by decide) rfl
  · exact hletter (by assumption) (by decide) rfl
  · exact hletter (by assumption) (by decide) rfl
  · exact hletter (by assumption) (by decide) rfl
  · rename_i hquote hbackslash _ _ _ _ _
    split
    · rename_i hcontrol
      have hdigit : ∀ m < 16, Utf8.bytes (Nat.digitChar m).toString = [hexDigit m] := by
        intro m hm
        rw [Utf8.bytes_toString, Utf8.utf8EncodeChar_ascii]
        · rfl
        · revert m; decide
      rw [Utf8.bytes_append, Utf8.bytes_append, hdigit _ (by omega), hdigit _ (by omega)]
      exact .unit (hexQuad?_control c.toNat hcontrol)
    · rw [Utf8.bytes_toString]
      exact .plain (by omega) hquote hbackslash

/-- A quoted text is a string that denotes it. -/
theorem quotes_quoted (s : String) : Quotes (Utf8.bytes (quoted s)) (.text s) := by
  have hmarks : ∀ m ∈ s.toList.map fun c => (c, Utf8.bytes (escaped c)), Spelling m.1 m.2 :=
    List.forall_mem_map.mpr fun c _ => spelling_escaped c
  have hquotes := Quotes.text hmarks
  simp only [List.map_map, Function.comp_def, List.map_id', String.ofList_toList,
    List.flatMap_map] at hquotes
  rw [bytes_quoted]
  exact hquotes

theorem denotes_nat {n : Nat} (h : n < 2 ^ 64) : Denotes (Utf8.bytes (toString n)) (.nat n) := by
  have hvalue : Numeral.value ⟨false, digits n, none, none⟩ = .nat n := by
    simp [Numeral.value, natural_digits, Numeral.limit, h]
  rw [bytes_toString_nat, ← hvalue]
  exact .number (Numeral.written_digits n false)

theorem denotes_negative {n : Nat} (hpos : 0 < n) (h : n ≤ 2 ^ 63) :
    Denotes (Utf8.bytes (toString (-n : Int))) (.integer (-n)) := by
  have hshown : toString (-n : Int) = "-" ++ toString n := by
    obtain ⟨m, rfl⟩ : ∃ m, n = m + 1 := ⟨n - 1, by omega⟩
    rfl
  have hvalue : Numeral.value ⟨true, digits n, none, none⟩ = .integer (-n) := by
    simp [Numeral.value, natural_digits, hpos, h]
  have hminus : Utf8.bytes "-" = [0x2D] := rfl
  rw [hshown, Utf8.bytes_append, bytes_toString_nat, ← hvalue, hminus]
  exact .number (Numeral.written_digits n true)

/-! ## Parts between two marks -/

section Parts

variable {α β : Type} {gap last : Bytes} {text : α → Bytes}

/-- The parts after the first: each after a comma and a gap. -/
def others (gap : Bytes) (text : α → Bytes) (parts : List α) : Bytes :=
  parts.flatMap fun part => comma :: (gap ++ text part)

/-- The parts of a sequence or a map between its two marks, each after a gap, and another gap
after the last. -/
def enclosed (opening closing : UInt8) (gap last : Bytes) (text : α → Bytes) : List α → Bytes
  | [] => [opening, closing]
  | first :: parts =>
    opening :: (gap ++ (text first ++ (others gap text parts ++ (last ++ [closing]))))

/-- Parts made of what they are for and of what stands after them: blanks after the last, and
nothing after the others. -/
def arranged (part : Bytes → α → β) (last : Bytes) : List α → List β
  | [] => []
  | [a] => [part last a]
  | a :: next :: rest => part [] a :: arranged part last (next :: rest)

/-- Parts with a gap before each are enclosed with commas between them. -/
theorem commas_arranged {part : Bytes → α → β} {bytes : β → Bytes}
    (hpart : ∀ after a, bytes (part after a) = gap ++ (text a ++ after)) (first : α)
    (parts : List α) :
    commas ((arranged part last (first :: parts)).map bytes) =
      gap ++ (text first ++ (others gap text parts ++ last)) := by
  induction parts generalizing first with
  | nil => simp [arranged, commas, others, hpart]
  | cons next parts ih =>
    obtain ⟨second, rest, hrest⟩ : ∃ second rest, arranged part last (next :: parts) =
        second :: rest := by
      cases parts <;> exact ⟨_, _, rfl⟩
    have hnext := ih next
    rw [arranged, List.map_cons, hrest, List.map_cons, commas_cons_cons, ← List.map_cons, ← hrest,
      hnext, hpart]
    simp [others]

/-- What holds of every part, whatever stands after it, holds of the arranged ones. -/
theorem forall_mem_arranged {part : Bytes → α → β} {parts : List α} {P : β → Prop}
    (h : ∀ a ∈ parts, P (part [] a) ∧ P (part last a)) : ∀ b ∈ arranged part last parts, P b := by
  induction parts with
  | nil => simp [arranged]
  | cons a parts ih =>
    obtain ⟨hbefore, hafter⟩ := h a List.mem_cons_self
    cases parts with
    | nil => simpa [arranged] using hafter
    | cons next parts =>
      rw [arranged, List.forall_mem_cons]
      exact ⟨hbefore, ih fun a ha => h a (List.mem_cons_of_mem _ ha)⟩

/-- What the arranged parts are for. -/
theorem map_arranged {γ : Type} {part : Bytes → α → β} {value : β → γ} {f : α → γ}
    (h : ∀ after a, value (part after a) = f a) (parts : List α) :
    (arranged part last parts).map value = parts.map f := by
  induction parts with
  | nil => rfl
  | cons a parts ih =>
    cases parts with
    | nil => simp [arranged, h]
    | cons next parts =>
      rw [arranged, List.map_cons, ih, h]
      rfl

/-- An enclosed sequence denotes its items if each is denoted. -/
theorem denotes_enclosed_sequence {text : Datum → Bytes} (hgap : Blank gap) (hlast : Blank last)
    {items : List Datum} (h : ∀ item ∈ items, Denotes (text item) item) :
    Denotes (enclosed openBracket closeBracket gap last text items) (.sequence items) := by
  cases items with
  | nil => exact .emptySequence blank_nil
  | cons first items =>
    let part (after : Bytes) (d : Datum) : Part := ⟨gap, text d, after, d⟩
    obtain ⟨second, rest, hparts⟩ : ∃ second rest, arranged part last (first :: items) =
        second :: rest := by
      cases items <;> exact ⟨_, _, rfl⟩
    have hpadded : ∀ p ∈ arranged part last (first :: items), p.Padded :=
      forall_mem_arranged fun a _ => ⟨⟨hgap, blank_nil⟩, hgap, hlast⟩
    have htexts : ∀ p ∈ arranged part last (first :: items), Denotes p.text p.value :=
      forall_mem_arranged fun a ha => ⟨h a ha, h a ha⟩
    have hbytes := @commas_arranged Datum Part gap last text part Part.bytes (fun _ _ => rfl) first
      items
    have hvalues := @map_arranged Datum Part last Datum part Part.value id (fun _ _ => rfl)
      (first :: items)
    rw [hparts] at hpadded htexts hbytes hvalues
    have hdenotes := Denotes.sequence hpadded htexts
    rw [hbytes, hvalues, List.map_id] at hdenotes
    simpa only [enclosed, List.append_assoc] using hdenotes

/-- The text of an entry: its key, a colon, a gap and its value. -/
def entryText (space : Bytes) (text : Datum → Bytes) (field : String × Datum) : Bytes :=
  Utf8.bytes (quoted field.1) ++ colon :: (space ++ text field.2)

/-- An enclosed record denotes its fields if the value of each is denoted. -/
theorem denotes_enclosed_record {space : Bytes} {text : Datum → Bytes} (hgap : Blank gap)
    (hlast : Blank last) (hspace : Blank space) {fields : List (String × Datum)}
    (h : ∀ field ∈ fields, Denotes (text field.2) field.2) :
    Denotes (enclosed openBrace closeBrace gap last (entryText space text) fields)
      (.record fields) := by
  cases fields with
  | nil => exact .emptyMap blank_nil
  | cons first fields =>
    let entry (after : Bytes) (field : String × Datum) : Entry :=
      ⟨⟨gap, Utf8.bytes (quoted field.1), [], .text field.1⟩, ⟨space, text field.2, after, field.2⟩⟩
    obtain ⟨second, rest, hentries⟩ : ∃ second rest, arranged entry last (first :: fields) =
        second :: rest := by
      cases fields <;> exact ⟨_, _, rfl⟩
    have hpadded : ∀ e ∈ arranged entry last (first :: fields), e.key.Padded ∧ e.value.Padded :=
      forall_mem_arranged fun a _ => ⟨⟨⟨hgap, blank_nil⟩, hspace, blank_nil⟩,
        ⟨hgap, blank_nil⟩, hspace, hlast⟩
    have hkeys : ∀ e ∈ arranged entry last (first :: fields), Quotes e.key.text e.key.value :=
      forall_mem_arranged fun a _ => ⟨quotes_quoted a.1, quotes_quoted a.1⟩
    have htexts : ∀ e ∈ arranged entry last (first :: fields),
        Denotes e.value.text e.value.value :=
      forall_mem_arranged fun a ha => ⟨h a ha, h a ha⟩
    have hbytes := @commas_arranged (String × Datum) Entry gap last (entryText space text) entry
      Entry.bytes (fun _ _ => by simp [entry, Entry.bytes, Part.bytes, entryText]) first fields
    have hvalues := @map_arranged (String × Datum) Entry last (Datum × Datum) entry
      (fun e => (e.key.value, e.value.value)) (fun field => (.text field.1, field.2))
      (fun _ _ => rfl) (first :: fields)
    rw [hentries] at hpadded hkeys htexts hbytes hvalues
    have hdenotes := Denotes.map hpadded hkeys htexts
    rw [hbytes, hvalues] at hdenotes
    simp only [List.append_assoc] at hdenotes
    exact hdenotes

end Parts

/-! ## What is written -/

/-- The items after the first, on one line. -/
theorem bytes_compactItems (items : List Datum) :
    Utf8.bytes (compactItems "," items) = others [] (fun d => Utf8.bytes (compact d)) items := by
  have hcomma : Utf8.bytes "," = [comma] := rfl
  induction items with
  | nil => simp [compactItems, others]
  | cons item items ih =>
    simp only [compactItems, Utf8.bytes_append, ih, hcomma, others, List.flatMap_cons,
      List.nil_append, List.cons_append]

/-- A sequence on one line. -/
theorem bytes_compact_sequence (items : List Datum) :
    Utf8.bytes (compact (.sequence items)) =
      enclosed openBracket closeBracket [] [] (fun d => Utf8.bytes (compact d)) items := by
  have hopen : Utf8.bytes "[" = [openBracket] := rfl
  have hclose : Utf8.bytes "]" = [closeBracket] := rfl
  cases items with
  | nil => rfl
  | cons first items =>
    simp only [compact, compactItems, Utf8.bytes_append, bytes_compactItems, hopen, hclose,
      Utf8.bytes_empty, enclosed, List.nil_append, List.cons_append, List.append_assoc]

/-- The entries after the first, on one line. -/
theorem bytes_compactEntries (fields : List (String × Datum)) :
    Utf8.bytes (compactEntries "," (fields.map fun f => (.text f.1, f.2))) =
      others [] (entryText [] fun d => Utf8.bytes (compact d)) fields := by
  have hcomma : Utf8.bytes "," = [comma] := rfl
  have hcolon : Utf8.bytes ":" = [colon] := rfl
  induction fields with
  | nil => simp [compactEntries, others]
  | cons field fields ih =>
    simp only [List.map_cons, compactEntries, keyText, Utf8.bytes_append, ih, hcomma, hcolon,
      others, entryText, List.flatMap_cons, List.nil_append, List.cons_append,
      List.append_assoc]

/-- A record on one line. -/
theorem bytes_compact_record (fields : List (String × Datum)) :
    Utf8.bytes (compact (.record fields)) =
      enclosed openBrace closeBrace [] [] (entryText [] fun d => Utf8.bytes (compact d))
        fields := by
  have hopen : Utf8.bytes "\x7b" = [openBrace] := rfl
  have hclose : Utf8.bytes "\x7d" = [closeBrace] := rfl
  have hcolon : Utf8.bytes ":" = [colon] := rfl
  cases fields with
  | nil => rfl
  | cons first fields =>
    simp only [Datum.record, List.map_cons, compact, compactEntries, keyText, Utf8.bytes_append,
      bytes_compactEntries, hopen, hclose, hcolon, Utf8.bytes_empty, enclosed, entryText,
      List.nil_append, List.cons_append, List.append_assoc]

/-- The items after the first, on lines of their own. -/
theorem bytes_prettyItems (depth : Nat) (items : List Datum) :
    Utf8.bytes (prettyItems depth "," items) =
      others (Utf8.bytes (newline depth)) (fun d => Utf8.bytes (prettyAt depth d)) items := by
  have hcomma : Utf8.bytes "," = [comma] := rfl
  induction items with
  | nil => simp [prettyItems, others]
  | cons item items ih =>
    simp only [prettyItems, Utf8.bytes_append, ih, hcomma, others, List.flatMap_cons,
      List.nil_append, List.cons_append, List.append_assoc]

/-- A sequence spread over lines. -/
theorem bytes_prettyAt_sequence (depth : Nat) (items : List Datum) :
    Utf8.bytes (prettyAt depth (.sequence items)) =
      enclosed openBracket closeBracket (Utf8.bytes (newline (depth + 1)))
        (Utf8.bytes (newline depth)) (fun d => Utf8.bytes (prettyAt (depth + 1) d)) items := by
  have hopen : Utf8.bytes "[" = [openBracket] := rfl
  have hclose : Utf8.bytes "]" = [closeBracket] := rfl
  cases items with
  | nil => rfl
  | cons first items =>
    simp only [prettyAt, prettyItems, Utf8.bytes_append, bytes_prettyItems, hopen, hclose,
      Utf8.bytes_empty, enclosed, List.nil_append, List.cons_append, List.append_assoc]

/-- The entries after the first, on lines of their own. -/
theorem bytes_prettyEntries (depth : Nat) (fields : List (String × Datum)) :
    Utf8.bytes (prettyEntries depth "," (fields.map fun f => (.text f.1, f.2))) =
      others (Utf8.bytes (newline depth))
        (entryText [0x20] fun d => Utf8.bytes (prettyAt depth d)) fields := by
  have hcomma : Utf8.bytes "," = [comma] := rfl
  have hcolon : Utf8.bytes ": " = [colon, 0x20] := rfl
  induction fields with
  | nil => simp [prettyEntries, others]
  | cons field fields ih =>
    simp only [List.map_cons, prettyEntries, keyText, Utf8.bytes_append, ih, hcomma, hcolon,
      others, entryText, List.flatMap_cons, List.nil_append, List.cons_append,
      List.append_assoc]

/-- A record spread over lines. -/
theorem bytes_prettyAt_record (depth : Nat) (fields : List (String × Datum)) :
    Utf8.bytes (prettyAt depth (.record fields)) =
      enclosed openBrace closeBrace (Utf8.bytes (newline (depth + 1)))
        (Utf8.bytes (newline depth))
        (entryText [0x20] fun d => Utf8.bytes (prettyAt (depth + 1) d)) fields := by
  have hopen : Utf8.bytes "\x7b" = [openBrace] := rfl
  have hclose : Utf8.bytes "\x7d" = [closeBrace] := rfl
  have hcolon : Utf8.bytes ": " = [colon, 0x20] := rfl
  cases fields with
  | nil => rfl
  | cons first fields =>
    simp only [Datum.record, List.map_cons, prettyAt, prettyEntries, keyText, Utf8.bytes_append,
      bytes_prettyEntries, hopen, hclose, hcolon, Utf8.bytes_empty, enclosed, entryText,
      List.nil_append, List.cons_append, List.append_assoc]

/-- A value on one line is denoted there. -/
theorem denotes_compact {d : Datum} (h : d.Printable) : Denotes (Utf8.bytes (compact d)) d := by
  induction h with
  | null => exact .null
  | bool b => exact .bool b
  | natural hn => exact denotes_nat hn
  | negative hpos hn => exact denotes_negative hpos hn
  | text s => exact .string (quotes_quoted s)
  | sequence _ ih =>
    rw [bytes_compact_sequence]
    exact denotes_enclosed_sequence blank_nil blank_nil ih
  | record _ ih =>
    rw [bytes_compact_record]
    exact denotes_enclosed_record blank_nil blank_nil blank_nil ih

/-- A value spread over lines is denoted there, at whatever depth. -/
theorem denotes_prettyAt {d : Datum} (h : d.Printable) (depth : Nat) :
    Denotes (Utf8.bytes (prettyAt depth d)) d := by
  have hspace : Blank [0x20] := by
    intro b hb
    rw [List.mem_singleton.1 hb]
    rfl
  induction h generalizing depth with
  | null => exact .null
  | bool b => exact .bool b
  | natural hn => exact denotes_nat hn
  | negative hpos hn => exact denotes_negative hpos hn
  | text s => exact .string (quotes_quoted s)
  | sequence _ ih =>
    rw [bytes_prettyAt_sequence]
    exact denotes_enclosed_sequence (blank_newline _) (blank_newline _)
      fun item hitem => ih item hitem (depth + 1)
  | record _ ih =>
    rw [bytes_prettyAt_record]
    exact denotes_enclosed_record (blank_newline _) (blank_newline _) hspace
      fun field hfield => ih field hfield (depth + 1)

/-! ## Whole texts -/

/-- **What is written on one line is read back.** -/
theorem parse_compact {α : Type} {d : Datum} (h : d.Printable)
    (reader : Datum → Datum.Reading α) :
    parse reader (Utf8.bytes (compact d)) = (reader d).mapError Error.of :=
  (denotes_compact h).holds.parse_eq reader

/-- **What is written over several lines is read back.** -/
theorem parse_pretty {α : Type} {d : Datum} (h : d.Printable)
    (reader : Datum → Datum.Reading α) :
    parse reader (Utf8.bytes (pretty d)) = (reader d).mapError Error.of :=
  (denotes_prettyAt h 0).holds.parse_eq reader

end Json
end Container
