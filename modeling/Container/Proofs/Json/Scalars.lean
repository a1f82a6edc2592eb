import Container.Json.Reader
import Container.Json.Writer
import Container.Proofs.Path.Text
import Mathlib.Data.List.Basic
import Mathlib.Data.List.TakeDrop

set_option autoImplicit false

/-!
# Strings and numbers of JSON text

What the reader does at each kind of byte that a string may have, and what the digits of a whole
number are: it is written without a superfluous zero, and its digits denote it.

## Main definitions

* `Json.Delimited` — the bytes that may follow a number.
* `Json.digits` — the bytes of the decimal digits of a number.

## Main results

* `Json.readString_plain`, `Json.readString_simpleEscape`, `Json.readString_unit` — one step of
  reading a string.
* `Json.natural_digits` — the digits of a number denote it.
-/

namespace Container

/-! ## Bytes of texts -/

namespace Utf8

@[simp] theorem bytes_append (s t : String) : bytes (s ++ t) = bytes s ++ bytes t := by
  simp [bytes, String.toByteArray_append]

@[simp] theorem bytes_empty : bytes "" = [] := rfl

theorem bytes_toString (c : Char) : bytes c.toString = String.utf8EncodeChar c := by
  have hlist : c.toString = String.ofList [c] := by simp
  rw [hlist, bytes_ofList, List.flatMap_singleton]

/-- The bytes of a text are those of its characters. -/
theorem bytes_eq_flatMap (s : String) : bytes s = s.toList.flatMap String.utf8EncodeChar := by
  rw [← bytes_ofList, String.ofList_toList]

/-- A character below the end of seven bits is one byte. -/
theorem utf8EncodeChar_ascii {c : Char} (h : c.toNat < 0x80) :
    String.utf8EncodeChar c = [UInt8.ofNat c.toNat] := by
  have hle : c.val.toNat ≤ 0x7F := by
    have hlt : c.val.toNat < 0x80 := h
    omega
  unfold String.utf8EncodeChar
  simp only
  rw [if_pos hle]
  rfl

/-- The bytes of a character beyond seven bits are beyond seven bits themselves. -/
theorem le_of_mem_utf8EncodeChar {c : Char} (h : 0x80 ≤ c.toNat) {b : UInt8}
    (hb : b ∈ String.utf8EncodeChar c) : 0x80 ≤ b.toNat := by
  have hlarge : ¬ c.val.toNat ≤ 0x7F := by
    have hle : 0x80 ≤ c.val.toNat := h
    omega
  have hhigh : ∀ n, 0x80 ≤ n → n < 0x100 → 0x80 ≤ (UInt8.ofNat n).toNat := by
    intro n hlow hn
    rw [UInt8.toNat_ofNat']
    omega
  unfold String.utf8EncodeChar at hb
  simp only at hb
  rw [if_neg hlarge] at hb
  split at hb
  · simp only [List.mem_cons, List.not_mem_nil, or_false] at hb
    rcases hb with rfl | rfl <;> exact hhigh _ (by omega) (by omega)
  · split at hb
    · simp only [List.mem_cons, List.not_mem_nil, or_false] at hb
      rcases hb with rfl | rfl | rfl <;> exact hhigh _ (by omega) (by omega)
    · simp only [List.mem_cons, List.not_mem_nil, or_false] at hb
      rcases hb with rfl | rfl | rfl | rfl <;> exact hhigh _ (by omega) (by omega)

end Utf8

namespace Json

/-! ## Strings -/

/-- Bytes that are added in two steps are added one after the other. -/
theorem Gathered.add_add (p : Gathered) (xs ys : Bytes) :
    (p.add xs).add ys = p.add (xs ++ ys) := by
  simp [Gathered.add]

/-- The bytes of a text are finished as that text. -/
theorem Gathered.finish_add (s : String) :
    (Gathered.start.add (Utf8.bytes s)).finish = .text s := by
  simp [Gathered.finish, Gathered.add, Gathered.start]

/-- The byte of a hexadecimal digit. -/
def hexDigit (n : Nat) : UInt8 := UInt8.ofNat (Nat.digitChar n).toNat

/-- Four hexadecimal digits of a control character denote it. -/
theorem hexQuad?_control : ∀ n < 0x20,
    hexQuad? 0x30 0x30 (hexDigit (n / 16)) (hexDigit (n % 16)) = some n := by
  decide

variable (p : Gathered) (rest : Bytes)

/-- A byte that needs no escape stands for itself. -/
theorem readString_plain {b : UInt8} (hquote : b ≠ quote) (hbackslash : b ≠ backslash)
    (hcontrol : 0x20 ≤ b.toNat) : readString p (b :: rest) = readString (p.add [b]) rest := by
  have hnot : ¬ b < 0x20 := by
    intro hlt
    have hnat : b.toNat < 0x20 := hlt
    omega
  rw [readString.eq_def]
  simp only
  rw [if_neg hquote, if_neg hbackslash, if_neg hnot]

/-- A quote ends a string. -/
theorem readString_quote : readString p (quote :: rest) = (p.finish, some rest) := by
  rw [readString.eq_def]
  simp only [if_true]

/-- An escape of one letter stands for its byte. -/
theorem readString_simpleEscape {e b : UInt8} (he : e ≠ 0x75) (h : simpleEscape? e = some b) :
    readString p (backslash :: e :: rest) = readString (p.add [b]) rest := by
  rw [readString]
  · rw [if_neg (by decide), if_pos rfl]
    simp only [h]
  · intro _ _ _ _ _ hunit
    exact absurd hunit he

/-- An escape of four digits stands for its unit. -/
theorem readString_unit {h1 h2 h3 h4 : UInt8} {unit : Nat}
    (h : hexQuad? h1 h2 h3 h4 = some unit) :
    readString p (backslash :: 0x75 :: h1 :: h2 :: h3 :: h4 :: rest) =
      readString (p.addUnit unit) rest := by
  rw [readString, if_neg (by decide), if_pos rfl]
  simp only [h]

/-- Bytes beyond seven bits stand for themselves. -/
theorem readString_high {bs : Bytes} (hne : bs ≠ []) (h : ∀ b ∈ bs, 0x80 ≤ b.toNat) :
    readString p (bs ++ rest) = readString (p.add bs) rest := by
  induction bs generalizing p with
  | nil => exact absurd rfl hne
  | cons b bs ih =>
    have hb : 0x80 ≤ b.toNat := h b (by simp)
    have hquote : b ≠ quote := by rintro rfl; revert hb; decide
    have hbackslash : b ≠ backslash := by rintro rfl; revert hb; decide
    rw [List.cons_append, readString_plain p _ hquote hbackslash (by omega)]
    cases bs with
    | nil => rfl
    | cons next bs =>
      rw [ih (p.add [b]) (by simp) fun b hb => h b (by simp [hb]), Gathered.add_add]
      rfl

/-- The bytes of a quoted text. -/
theorem bytes_quoted (s : String) :
    Utf8.bytes (quoted s) =
      quote :: (s.toList.flatMap fun c => Utf8.bytes (escaped c)) ++ [quote] := by
  have hfold : ∀ (cs : List Char) (shown : String),
      Utf8.bytes (cs.foldl (fun shown c => shown ++ escaped c) shown) =
        Utf8.bytes shown ++ cs.flatMap fun c => Utf8.bytes (escaped c) := by
    intro cs
    induction cs with
    | nil => simp
    | cons c cs ih =>
      intro shown
      rw [List.foldl_cons, ih, Utf8.bytes_append, List.flatMap_cons, List.append_assoc]
  rw [quoted, Utf8.bytes_append, hfold]
  rfl

/-! ## Numbers -/

/-- The bytes that may follow a number: none that would belong to it. -/
def Delimited (rest : Bytes) : Prop :=
  ∀ b ∈ rest.head?, isDigit b = false ∧ b ≠ 0x2E ∧ b ≠ 0x65 ∧ b ≠ 0x45

theorem delimited_nil : Delimited [] := by
  intro b hb
  cases hb

theorem delimited_cons {b : UInt8} (h : isDigit b = false ∧ b ≠ 0x2E ∧ b ≠ 0x65 ∧ b ≠ 0x45) :
    Delimited (b :: rest) := by
  intro b' hb'
  cases hb'
  exact h

/-- The bytes of the decimal digits of a number. -/
def digits (n : Nat) : Bytes := (Nat.toDigits 10 n).map fun c => UInt8.ofNat c.toNat

/-- The byte of a decimal digit is a digit with the value of that digit. -/
theorem digit_digitChar : ∀ d < 10,
    isDigit (UInt8.ofNat (Nat.digitChar d).toNat) = true ∧
      digitValue (UInt8.ofNat (Nat.digitChar d).toNat) = d := by
  decide

theorem digits_of_lt {n : Nat} (h : n < 10) : digits n = [UInt8.ofNat (Nat.digitChar n).toNat] := by
  rw [digits, Nat.toDigits_of_lt_base h, List.map_singleton]

theorem digits_of_le {n : Nat} (h : 10 ≤ n) :
    digits n = digits (n / 10) ++ [UInt8.ofNat (Nat.digitChar (n % 10)).toNat] := by
  rw [digits, Nat.toDigits_of_base_le (by decide) h, List.map_append, List.map_singleton, digits]

/-- A number is written in digits. -/
theorem isDigit_of_mem_digits (n : Nat) : ∀ b ∈ digits n, isDigit b = true := by
  induction n using Nat.strongRecOn with
  | ind n ih =>
    intro b hb
    rcases Nat.lt_or_ge n 10 with hn | hn
    · rw [digits_of_lt hn, List.mem_singleton] at hb
      rw [hb]
      exact (digit_digitChar n hn).1
    · rw [digits_of_le hn, List.mem_append, List.mem_singleton] at hb
      rcases hb with hb | rfl
      · exact ih (n / 10) (by omega) b hb
      · exact (digit_digitChar (n % 10) (by omega)).1

/-- The digits of a number denote it. -/
theorem natural_digits (n : Nat) : Numeral.natural (digits n) = n := by
  induction n using Nat.strongRecOn with
  | ind n ih =>
    rcases Nat.lt_or_ge n 10 with hn | hn
    · rw [digits_of_lt hn]
      simp only [Numeral.natural, List.foldl_cons, List.foldl_nil, (digit_digitChar n hn).2]
      omega
    · have hfront := ih (n / 10) (by omega)
      rw [digits_of_le hn]
      simp only [Numeral.natural, List.foldl_append, List.foldl_cons, List.foldl_nil] at hfront ⊢
      rw [hfront, (digit_digitChar (n % 10) (by omega)).2]
      omega

/-- The first digit of a number is not zero unless the number is. -/
theorem exists_digits_eq (n : Nat) : ∃ b bs, digits n = b :: bs ∧ (0 < n → b ≠ zeroDigit) := by
  induction n using Nat.strongRecOn with
  | ind n ih =>
    rcases Nat.lt_or_ge n 10 with hn | hn
    · refine ⟨_, [], digits_of_lt hn, ?_⟩
      intro hpos heq
      have hvalue := (digit_digitChar n hn).2
      rw [heq] at hvalue
      have hzero : digitValue zeroDigit = 0 := rfl
      omega
    · obtain ⟨b, bs, hfront, hb⟩ := ih (n / 10) (by omega)
      rw [digits_of_le hn, hfront]
      exact ⟨b, _, rfl, fun _ => hb (by omega)⟩

/-- Nothing that begins with neither a digit nor a sign is a numeral. -/
theorem scan_eq_none {b : UInt8} (hdigit : isDigit b = false) (hminus : b ≠ 0x2D) (bs : Bytes) :
    Numeral.scan (b :: bs) = none := by
  have hwhole : Numeral.scanWhole (b :: bs) = none := by
    have hspan : (b :: bs).span isDigit = ([], b :: bs) := by
      rw [List.span_eq_takeWhile_dropWhile]
      simp [hdigit]
    simp only [Numeral.scanWhole, Numeral.scanDigits, hspan]
  unfold Numeral.scan
  split
  rename_i heq
  split at heq
  · rename_i hsign
    exact absurd (List.cons.inj hsign).1 hminus
  · cases heq
    simp only [hwhole, bind, Option.bind]

/-- A natural number is written in its digits. -/
theorem bytes_toString_nat (n : Nat) : Utf8.bytes (toString n) = digits n := by
  have hascii : ∀ c ∈ Nat.toDigits 10 n, String.utf8EncodeChar c = [UInt8.ofNat c.toNat] := by
    intro c hc
    have hdigit := Nat.isDigit_of_mem_toDigits (by decide) (by decide) hc
    refine Utf8.utf8EncodeChar_ascii ?_
    simp only [Char.isDigit, Bool.and_eq_true, decide_eq_true_eq] at hdigit
    have hle : c.toNat ≤ 57 := hdigit.2
    omega
  have hlist : (toString n).toList = Nat.toDigits 10 n := Nat.toList_repr
  rw [Utf8.bytes_eq_flatMap, hlist, digits, List.flatMap_congr hascii, List.map_eq_flatMap]

end Json
end Container
