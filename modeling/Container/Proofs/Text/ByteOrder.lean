import Container.Proofs.Json.Scalars

set_option autoImplicit false

/-!
# The order of texts is that of their bytes

Texts are compared character by character. As the bytes of a character are greater the greater the
character is, and those of no character begin those of another, comparing the bytes of two texts
comes to the same.

## Main definitions

* `Utf8.digits` — the bytes of a character after the first.
* `Utf8.Begins` — the first byte of a character, and how many follow it.

## Main results

* `Utf8.utf8EncodeChar_lt` — of two characters, the greater one has the greater bytes.
* `Utf8.bytes_lt_bytes_iff` — texts are in the order of their bytes.
-/

namespace Container.Utf8

/-! ## The bytes of one character -/

/-- So many of the lowest digits of a number, six bits each, the highest of them first. -/
def digits : Nat → Nat → Bytes
  | 0, _ => []
  | count + 1, n => digits count (n / 64) ++ [UInt8.ofNat (n % 64 + 0x80)]

/-- Of two numbers that differ in these digits only, the greater one has the greater digits. -/
theorem digits_lt {count n m : Nat} (h : n / 64 ^ count = m / 64 ^ count) (hlt : n < m)
    (rest rest' : Bytes) : digits count n ++ rest < digits count m ++ rest' := by
  induction count generalizing n m rest rest' with
  | zero =>
    simp at h
    omega
  | succ count ih =>
    simp only [digits, List.append_assoc, List.singleton_append]
    -- Either the numbers differ before the last digit already, or in that alone.
    by_cases hhigh : n / 64 < m / 64
    · refine ih ?_ hhigh _ _
      rwa [Nat.div_div_eq_div_mul, Nat.div_div_eq_div_mul, ← Nat.pow_succ']
    · have hsame : n / 64 = m / 64 := by omega
      rw [hsame]
      refine List.append_left_lt (List.cons_lt_cons_iff.mpr (.inl ?_))
      rw [UInt8.lt_iff_toNat_lt]
      simp
      omega

/-- The first byte of the character with a number, and how many bytes follow it. -/
inductive Begins (n : Nat) : Nat → Nat → Prop
  | one (h : n < 0x80) : Begins n 0 n
  | two (hlow : 0x80 ≤ n) (h : n < 0x800) : Begins n 1 (n / 64 + 0xC0)
  | three (hlow : 0x800 ≤ n) (h : n < 0x10000) : Begins n 2 (n / 4096 + 0xE0)
  | four (hlow : 0x10000 ≤ n) (h : n < 0x110000) : Begins n 3 (n / 262144 + 0xF0)

variable {n m count count' first first' : Nat}

theorem Begins.lt (h : Begins n count first) : first < 256 := by
  cases h <;> omega

/-- A greater character has a greater first byte, unless it differs in the others only. -/
theorem Begins.lt_or_eq (h : Begins n count first) (h' : Begins m count' first') (hlt : n < m) :
    first < first' ∨ first = first' ∧ count = count' ∧ n / 64 ^ count = m / 64 ^ count := by
  -- The first bytes of longer characters are beyond those of shorter ones.
  cases h <;> cases h' <;> simp only [Nat.reducePow, true_and] <;> omega

/-- The bytes of a character are its first byte and the digits of its number. -/
theorem exists_begins (c : Char) : ∃ count first, Begins c.val.toNat count first ∧
    String.utf8EncodeChar c = UInt8.ofNat first :: digits count c.val.toNat := by
  have hbound : c.val.toNat < 0x110000 := by
    have hvalid := c.valid
    simp only [UInt32.isValidChar, Nat.isValidChar] at hvalid
    omega
  unfold String.utf8EncodeChar
  generalize c.val.toNat = n at hbound
  simp only
  split
  · exact ⟨_, _, .one (by omega), rfl⟩
  · split
    · refine ⟨_, _, .two (by omega) (by omega), ?_⟩
      rw [show n / 64 % 32 = n / 64 by omega]
      rfl
    · split
      · refine ⟨_, _, .three (by omega) (by omega), ?_⟩
        rw [show n / 4096 % 16 = n / 4096 by omega]
        rfl
      · refine ⟨_, _, .four (by omega) (by omega), ?_⟩
        -- The digits are got by dividing step by step.
        have hdigit : n / 4096 = n / 64 / 64 := by rw [Nat.div_div_eq_div_mul]
        rw [show n / 262144 % 8 = n / 262144 by omega, hdigit]
        rfl

/-- **The bytes of a greater character** are greater, whatever follows. -/
theorem utf8EncodeChar_lt {c d : Char} (h : c < d) (rest rest' : Bytes) :
    String.utf8EncodeChar c ++ rest < String.utf8EncodeChar d ++ rest' := by
  obtain ⟨count, first, hbegins, hc⟩ := exists_begins c
  obtain ⟨count', first', hbegins', hd⟩ := exists_begins d
  have hlt : c.val.toNat < d.val.toNat := UInt32.lt_iff_toNat_lt.mp (Char.lt_def.mp h)
  rw [hc, hd, List.cons_append, List.cons_append, List.cons_lt_cons_iff]
  rcases hbegins.lt_or_eq hbegins' hlt with hfirst | ⟨rfl, rfl, hsame⟩
  · left
    rw [UInt8.lt_iff_toNat_lt, UInt8.toNat_ofNat_of_lt' hbegins.lt,
      UInt8.toNat_ofNat_of_lt' hbegins'.lt]
    exact hfirst
  · exact .inr ⟨rfl, digits_lt hsame hlt rest rest'⟩

/-! ## Whole texts -/

/-- The bytes of characters are in the order of these. -/
theorem flatMap_utf8EncodeChar_lt {cs ds : List Char} (h : cs < ds) :
    cs.flatMap String.utf8EncodeChar < ds.flatMap String.utf8EncodeChar := by
  induction cs generalizing ds with
  | nil =>
    cases ds with
    | nil => exact absurd h (List.lt_irrefl _)
    | cons d ds =>
      obtain ⟨count, first, -, hd⟩ := exists_begins d
      rw [List.flatMap_cons, hd]
      exact List.nil_lt_cons _ _
  | cons c cs ih =>
    cases ds with
    | nil => cases h
    | cons d ds =>
      rw [List.flatMap_cons, List.flatMap_cons]
      rcases List.cons_lt_cons_iff.mp h with hfirst | ⟨rfl, hrest⟩
      · exact utf8EncodeChar_lt hfirst _ _
      · exact List.append_left_lt (ih hrest)

/-- **Texts are in the order of their bytes.** -/
theorem bytes_lt_bytes_iff {s t : String} : bytes s < bytes t ↔ s < t := by
  have hlt : ∀ {s t : String}, s < t → bytes s < bytes t := by
    intro s t h
    rw [bytes_eq_flatMap, bytes_eq_flatMap]
    exact flatMap_utf8EncodeChar_lt (String.lt_iff.mp h)
  refine ⟨fun h => Decidable.byContradiction fun hnot => ?_, hlt⟩
  by_cases hts : t < s
  · exact List.lt_asymm h (hlt hts)
  · have heq : s = t := String.le_antisymm (String.not_lt.mp hts) (String.not_lt.mp hnot)
    exact List.lt_irrefl _ (heq ▸ h)

end Container.Utf8
