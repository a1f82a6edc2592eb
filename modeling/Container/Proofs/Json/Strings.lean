import Container.Proofs.Json.Scalars

set_option autoImplicit false

/-!
# Strings as they may be written

A character of a string stands for itself, or is escaped by a letter, by its number or, if it is
large, by the numbers of two halves. However its characters are written, a string is read as its
text. A string may also keep the grammar without denoting a text; then it is read as something
illegible, which can be passed over like any other value.

## Main definitions

* `Json.Spelling` — the ways to write a character.
* `Json.Quotes` — the strings that keep the grammar, and what they denote.

## Main results

* `Json.readString_spelling` — a character is read, however it is written.
* `Json.Quotes.readString` — a string is read as what it denotes.
-/

namespace Container.Json

/-- The ways to write a character inside a string. -/
inductive Spelling : Char → Bytes → Prop
  | plain {c : Char} (hcontrol : 0x20 ≤ c.toNat) (hquote : c.toNat ≠ 0x22)
      (hbackslash : c.toNat ≠ 0x5C) : Spelling c (String.utf8EncodeChar c)
  | letter {c : Char} {letter : UInt8} (hascii : c.toNat < 0x80)
      (h : simpleEscape? letter = some (UInt8.ofNat c.toNat)) : Spelling c [backslash, letter]
  | unit {c : Char} {h1 h2 h3 h4 : UInt8} (h : hexQuad? h1 h2 h3 h4 = some c.toNat) :
      Spelling c [backslash, 0x75, h1, h2, h3, h4]
  | pair {c : Char} {h1 h2 h3 h4 l1 l2 l3 l4 : UInt8} (hlarge : 0x10000 ≤ c.toNat)
      (hhigh : hexQuad? h1 h2 h3 h4 = some (0xD800 + (c.toNat - 0x10000) / 0x400))
      (hlow : hexQuad? l1 l2 l3 l4 = some (0xDC00 + (c.toNat - 0x10000) % 0x400)) :
      Spelling c [backslash, 0x75, h1, h2, h3, h4, backslash, 0x75, l1, l2, l3, l4]

/-- What is gathered of the inside of a string that keeps the grammar. -/
inductive Gathers : Gathered → Bytes → Gathered → Prop
  | nil (p : Gathered) : Gathers p [] p
  | plain {p p' : Gathered} {b : UInt8} {bs : Bytes} (hquote : b ≠ quote)
      (hbackslash : b ≠ backslash) (hcontrol : 0x20 ≤ b.toNat) (h : Gathers (p.add [b]) bs p') :
      Gathers p (b :: bs) p'
  | letter {p p' : Gathered} {letter b : UInt8} {bs : Bytes}
      (hletter : simpleEscape? letter = some b) (h : Gathers (p.add [b]) bs p') :
      Gathers p (backslash :: letter :: bs) p'
  | unit {p p' : Gathered} {h1 h2 h3 h4 : UInt8} {unit : Nat} {bs : Bytes}
      (hunit : hexQuad? h1 h2 h3 h4 = some unit) (h : Gathers (p.addUnit unit) bs p') :
      Gathers p (backslash :: 0x75 :: h1 :: h2 :: h3 :: h4 :: bs) p'

/-- The string keeps the grammar and denotes the value: a text, or whatever is gathered of it. -/
inductive Quotes : Bytes → Datum → Prop
  | text {marks : List (Char × Bytes)} (h : ∀ m ∈ marks, Spelling m.1 m.2) :
      Quotes (quote :: (marks.flatMap (·.2) ++ [quote])) (.text (String.ofList (marks.map (·.1))))
  | other {bs : Bytes} {p : Gathered} (h : Gathers .start bs p) :
      Quotes (quote :: (bs ++ [quote])) p.finish

/-! ## Reading -/

variable (p : Gathered) (rest : Bytes)

theorem ne_of_simpleEscape? {letter b : UInt8} (h : simpleEscape? letter = some b) :
    letter ≠ 0x75 := by
  rintro rfl
  cases h

/-- No character is half of a pair. -/
theorem addUnit_toNat (c : Char) : p.addUnit c.toNat = p.add (String.utf8EncodeChar c) := by
  have hvalid : c.toNat < 0xD800 ∨ 0xDFFF < c.toNat ∧ c.toNat < 0x110000 := c.valid
  rw [Gathered.addUnit, if_neg (by omega), if_neg (by omega), Char.ofNat_toNat,
    Utf8.bytes_toString]

/-- The halves of a large character are that character. -/
theorem addUnit_addUnit {c : Char} (hlarge : 0x10000 ≤ c.toNat) :
    (p.addUnit (0xD800 + (c.toNat - 0x10000) / 0x400)).addUnit
      (0xDC00 + (c.toNat - 0x10000) % 0x400) = p.add (String.utf8EncodeChar c) := by
  have hvalid : c.toNat < 0xD800 ∨ 0xDFFF < c.toNat ∧ c.toNat < 0x110000 := c.valid
  have hnumber : 0x10000 + (0xD800 + (c.toNat - 0x10000) / 0x400 - 0xD800) * 0x400 +
      (0xDC00 + (c.toNat - 0x10000) % 0x400 - 0xDC00) = c.toNat := by omega
  have hhigh : p.addUnit (0xD800 + (c.toNat - 0x10000) / 0x400) =
      ⟨p.reversed, some (0xD800 + (c.toNat - 0x10000) / 0x400), p.legible && p.waiting.isNone⟩ := by
    rw [Gathered.addUnit, if_neg (by omega), if_pos (by omega)]
  rw [hhigh, Gathered.addUnit, if_pos (by omega)]
  simp only [hnumber, Char.ofNat_toNat, Utf8.bytes_toString, Gathered.add, Option.isNone_none,
    Bool.and_true]

/-- **A character is read**, however it is written. -/
theorem readString_spelling {c : Char} {bs : Bytes} (h : Spelling c bs) :
    readString p (bs ++ rest) = readString (p.add (String.utf8EncodeChar c)) rest := by
  cases h with
  | plain hcontrol hquote hbackslash =>
    by_cases hascii : c.toNat < 0x80
    · have hbyte : (UInt8.ofNat c.toNat).toNat = c.toNat := by
        rw [UInt8.toNat_ofNat']
        omega
      rw [Utf8.utf8EncodeChar_ascii hascii, List.singleton_append]
      refine readString_plain p rest ?_ ?_ (by omega)
      · intro heq
        exact hquote (by rw [← hbyte, heq]; rfl)
      · intro heq
        exact hbackslash (by rw [← hbyte, heq]; rfl)
    · have hne : String.utf8EncodeChar c ≠ [] := by simp [String.utf8EncodeChar_ne_nil]
      exact readString_high p rest hne fun b hb => Utf8.le_of_mem_utf8EncodeChar (by omega) hb
  | letter hascii h =>
    rw [Utf8.utf8EncodeChar_ascii hascii]
    exact readString_simpleEscape p rest (ne_of_simpleEscape? h) h
  | unit h =>
    rw [← addUnit_toNat]
    exact readString_unit p rest h
  | pair hlarge hhigh hlow =>
    rw [← addUnit_addUnit p hlarge]
    exact (readString_unit p _ hhigh).trans (readString_unit _ rest hlow)

/-- The characters of a text are read one after the other. -/
theorem readString_spellings {marks : List (Char × Bytes)} (h : ∀ m ∈ marks, Spelling m.1 m.2)
    (read : Bytes) :
    readString (Gathered.start.add read) (marks.flatMap (·.2) ++ rest) =
      readString (Gathered.start.add (read ++ (marks.map (·.1)).flatMap String.utf8EncodeChar))
        rest := by
  induction marks generalizing read with
  | nil => simp
  | cons m marks ih =>
    rw [List.flatMap_cons, List.append_assoc, readString_spelling _ _ (h m List.mem_cons_self),
      Gathered.add_add, ih fun m hm => h m (List.mem_cons_of_mem _ hm), List.map_cons,
      List.flatMap_cons, List.append_assoc]

/-- What is gathered of the inside of a string is gathered by the reader. -/
theorem readString_gathers {p p' : Gathered} {bs : Bytes} (h : Gathers p bs p') (rest : Bytes) :
    readString p (bs ++ rest) = readString p' rest := by
  induction h with
  | nil => rfl
  | plain hquote hbackslash hcontrol _ ih =>
    rw [List.cons_append, readString_plain _ _ hquote hbackslash hcontrol, ih]
  | letter hletter _ ih =>
    rw [List.cons_append, List.cons_append,
      readString_simpleEscape _ _ (ne_of_simpleEscape? hletter) hletter, ih]
  | unit hunit _ ih =>
    simp only [List.cons_append]
    rw [readString_unit _ _ hunit, ih]

namespace Quotes

variable {bs : Bytes} {d : Datum}

/-- **A string is read** as what it denotes, after its opening quote. -/
theorem readString (h : Quotes bs d) :
    ∃ body, bs = quote :: body ∧ ∀ rest, readString .start (body ++ rest) = (d, some rest) := by
  cases h with
  | @text marks h =>
    refine ⟨_, rfl, fun rest => ?_⟩
    have hread := readString_spellings (quote :: rest) h []
    rw [List.nil_append, ← Utf8.bytes_ofList] at hread
    rw [List.append_assoc, List.singleton_append]
    exact hread.trans (by rw [readString_quote, Gathered.finish_add])
  | other h =>
    refine ⟨_, rfl, fun rest => ?_⟩
    rw [List.append_assoc, List.singleton_append, readString_gathers h, readString_quote]

/-- A string that keeps the grammar can be passed over. -/
theorem fault? (h : Quotes bs d) : d.fault? = none := by
  cases h with
  | text => rfl
  | other =>
    unfold Gathered.finish
    split
    · split <;> rfl
    · rfl

end Quotes
end Container.Json
