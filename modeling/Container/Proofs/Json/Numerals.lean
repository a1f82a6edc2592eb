import Container.Proofs.Json.Scalars

set_option autoImplicit false

/-!
# Numbers as they may be written

A number may have a sign, a fraction and an exponent, which has a sign of its own that may be left
out where it is positive. However it is written, the reader finds its parts, as long as nothing
follows that would belong to it.

## Main definitions

* `Json.Numeral.Written` — the texts of a number with these parts.

## Main results

* `Json.Numeral.Written.scan` — the parts of a number are found in its text.
-/

namespace Container.Json

/-- At least one digit, and nothing else. -/
def Digits (bs : Bytes) : Prop := bs ≠ [] ∧ ∀ b ∈ bs, isDigit b = true

/-- Nothing with which a run of digits would go on. -/
def Undigited (rest : Bytes) : Prop := ∀ b ∈ rest.head?, isDigit b = false

namespace Numeral

/-- The ways to write an exponent. -/
inductive WrittenExponent : Option (Bool × Bytes) → Bytes → Prop
  | absent : WrittenExponent none []
  | unsigned {mark : UInt8} {digits : Bytes} (hmark : mark = 0x65 ∨ mark = 0x45)
      (h : Digits digits) : WrittenExponent (some (false, digits)) (mark :: digits)
  | signed {mark : UInt8} {digits : Bytes} (negative : Bool) (hmark : mark = 0x65 ∨ mark = 0x45)
      (h : Digits digits) :
      WrittenExponent (some (negative, digits))
        (mark :: (if negative then 0x2D else 0x2B) :: digits)

/-- The ways to write a fraction. -/
inductive WrittenFraction : Option Bytes → Bytes → Prop
  | absent : WrittenFraction none []
  | digits {digits : Bytes} (h : Digits digits) : WrittenFraction (some digits) (0x2E :: digits)

/-- The ways to write a number with these parts. Only a lone zero before the point begins with
one. -/
inductive Written (x : Numeral) : Bytes → Prop
  | mk {fraction exponent : Bytes} (hwhole : Digits x.whole)
      (hzero : ¬ (x.whole.head? = some zeroDigit ∧ 1 < x.whole.length))
      (hfraction : WrittenFraction x.fraction fraction)
      (hexponent : WrittenExponent x.exponent exponent) :
      Written x ((if x.negative then [0x2D] else []) ++ (x.whole ++ (fraction ++ exponent)))

/-! ## Reading -/

variable {x : Numeral} {bs rest : Bytes}

/-- A run of digits ends where no digit follows. -/
theorem scanDigits_append (h : Digits bs) (hrest : Undigited rest) :
    scanDigits (bs ++ rest) = some (bs, rest) := by
  have hspan : (bs ++ rest).span isDigit = (bs, rest) := by
    have hstop : rest.takeWhile isDigit = [] ∧ rest.dropWhile isDigit = rest := by
      cases rest with
      | nil => exact ⟨rfl, rfl⟩
      | cons b rest => simp [hrest b rfl]
    rw [List.span_eq_takeWhile_dropWhile, List.takeWhile_append_of_pos h.2,
      List.dropWhile_append_of_pos h.2, hstop.1, hstop.2, List.append_nil]
  cases bs with
  | nil => exact absurd rfl h.1
  | cons b bs => rw [scanDigits, hspan]

theorem undigited_of_delimited (h : Delimited rest) : Undigited rest := fun b hb => (h b hb).1

/-- Neither a point nor the mark of an exponent is a digit. -/
theorem WrittenExponent.undigited {exponent : Option (Bool × Bytes)}
    (h : WrittenExponent exponent bs) (hrest : Delimited rest) : Undigited (bs ++ rest) := by
  cases h with
  | absent => exact undigited_of_delimited hrest
  | unsigned hmark | signed _ hmark =>
    intro b hb
    cases hb
    obtain rfl | rfl := hmark <;> decide

theorem WrittenExponent.pointless {exponent : Option (Bool × Bytes)}
    (h : WrittenExponent exponent bs) (hrest : Delimited rest) :
    ∀ b ∈ (bs ++ rest).head?, b ≠ 0x2E := by
  cases h with
  | absent => exact fun b hb => (hrest b hb).2.1
  | unsigned hmark | signed _ hmark =>
    intro b hb
    cases hb
    obtain rfl | rfl := hmark <;> decide

theorem WrittenFraction.undigited {fraction : Option Bytes} (h : WrittenFraction fraction bs)
    (hrest : Undigited rest) : Undigited (bs ++ rest) := by
  cases h with
  | absent => exact hrest
  | digits =>
    intro b hb
    cases hb
    decide

/-- The exponent is found. -/
theorem WrittenExponent.scan {exponent : Option (Bool × Bytes)} (h : WrittenExponent exponent bs)
    (hrest : Delimited rest) : scanExponent (bs ++ rest) = some (exponent, rest) := by
  have hdigits {digits : Bytes} (hd : Digits digits) :=
    scanDigits_append hd (undigited_of_delimited hrest)
  cases h with
  | absent =>
    cases rest with
    | nil => rfl
    | cons b rest =>
      obtain ⟨-, -, hlower, hupper⟩ := hrest b rfl
      rw [List.nil_append, scanExponent, if_neg (by simp [hlower, hupper])]
  | @unsigned mark digits hmark hd =>
    have hsign : scanSign (digits ++ rest) = (false, digits ++ rest) := by
      obtain ⟨b, digits, rfl⟩ := List.exists_cons_of_ne_nil hd.1
      have hb : isDigit b = true := hd.2 b List.mem_cons_self
      unfold scanSign
      split
      · rename_i heq
        obtain ⟨rfl, -⟩ := List.cons.inj heq
        exact absurd hb (by decide)
      · rename_i heq
        obtain ⟨rfl, -⟩ := List.cons.inj heq
        exact absurd hb (by decide)
      · rfl
    rw [List.cons_append, scanExponent, if_pos hmark, hsign]
    simp only [hdigits hd, Option.map_some]
  | @signed mark digits negative hmark hd =>
    have hsign : scanSign ((if negative then 0x2D else 0x2B) :: (digits ++ rest)) =
        (negative, digits ++ rest) := by
      cases negative <;> rfl
    rw [List.cons_append, List.cons_append, scanExponent, if_pos hmark, hsign]
    simp only [hdigits hd, Option.map_some]

/-- The fraction is found where an exponent, if any, follows it. -/
theorem WrittenFraction.scan {fraction : Option Bytes} (h : WrittenFraction fraction bs)
    (hrest : Undigited rest) (hpoint : ∀ b ∈ rest.head?, b ≠ 0x2E) :
    scanFraction (bs ++ rest) = some (fraction, rest) := by
  cases h with
  | absent =>
    unfold scanFraction
    split
    · rename_i heq
      rw [List.nil_append] at heq
      subst heq
      exact absurd rfl (hpoint _ rfl)
    · rfl
  | digits hd =>
    rw [List.cons_append, scanFraction, scanDigits_append hd hrest]
    rfl

/-- **The parts of a number** are found in its text. -/
theorem Written.scan (h : x.Written bs) (hrest : Delimited rest) :
    Numeral.scan (bs ++ rest) = some (x, rest) := by
  obtain @⟨fraction, exponent, hwhole, hzero, hfraction, hexponent⟩ := h
  obtain ⟨negative, whole, fraction', exponent'⟩ := x
  have hpoint := hexponent.pointless hrest
  have hundigited := hexponent.undigited hrest
  have hscan : scanWhole (whole ++ (fraction ++ (exponent ++ rest))) =
      some (whole, fraction ++ (exponent ++ rest)) := by
    rw [scanWhole, scanDigits_append hwhole (hfraction.undigited hundigited)]
    simp only [if_neg hzero]
  have hfractionScan := hfraction.scan hundigited hpoint
  have hexponentScan := hexponent.scan hrest
  cases negative with
  | true =>
    simp only [Numeral.scan, if_true, List.cons_append, List.nil_append, List.append_assoc, hscan,
      Option.bind_eq_bind, Option.bind_some, hfractionScan, hexponentScan, Option.pure_def]
  | false =>
    -- Without a sign the first byte is a digit.
    obtain ⟨b, digits, rfl⟩ := List.exists_cons_of_ne_nil hwhole.1
    have hb : b ≠ 0x2D := by
      rintro rfl
      exact absurd (hwhole.2 _ List.mem_cons_self) (by decide)
    simp only [Bool.false_eq_true, if_false, List.nil_append, List.append_assoc]
    unfold Numeral.scan
    split
    rename_i heq
    split at heq
    · rename_i hminus
      exact absurd (List.cons.inj hminus).1 hb
    · cases heq
      simp only [hscan, Option.bind_eq_bind, Option.bind_some, hfractionScan, hexponentScan,
        Option.pure_def]

/-- A whole number may be written in its digits. -/
theorem written_digits (n : Nat) (negative : Bool) :
    Written ⟨negative, digits n, none, none⟩ ((if negative then [0x2D] else []) ++ digits n) := by
  obtain ⟨b, bs, hdigits, hzero⟩ := exists_digits_eq n
  have hlone : ¬ ((digits n).head? = some zeroDigit ∧ 1 < (digits n).length) := by
    rintro ⟨hhead, hlength⟩
    have hb : b = zeroDigit := by
      rw [hdigits] at hhead
      exact Option.some.inj hhead
    rcases Nat.eq_zero_or_pos n with rfl | hpos
    · exact absurd hlength (by decide)
    · exact hzero hpos hb
  have hwritten := @Written.mk ⟨negative, digits n, none, none⟩ [] []
    ⟨by rw [hdigits]; exact List.cons_ne_nil _ _, isDigit_of_mem_digits n⟩ hlone .absent .absent
  rwa [List.append_nil, List.append_nil] at hwritten

end Numeral
end Container.Json
