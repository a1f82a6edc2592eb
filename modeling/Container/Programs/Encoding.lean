import Container.Programs.Options

set_option autoImplicit false

/-!
# Bytes in 64 characters

Three bytes are four digits in base 64. A last group that is not whole is filled up with signs
that stand for no digit.

## Main definitions

* `Encoding.encode`, `Encoding.decode` — bytes as digits, and back.
* `base64` — the program.

## Main results

* `Encoding.decode_encode` — bytes come back whole from their digits.
-/

namespace Container.Programs

namespace Encoding

/-- The digits. -/
def alphabet : Chars :=
  "ABCDEFGHIJKLMNOPQRSTUVWXYZabcdefghijklmnopqrstuvwxyz0123456789+/".toList

/-- The digit for a value. -/
def digit (n : Nat) : Char := alphabet[n % 64]?.getD '='

/-- Bytes as digits. -/
def encode : Bytes → Chars
  | a :: b :: c :: rest =>
    let n := a.toNat * 65536 + b.toNat * 256 + c.toNat
    [digit (n / 262144), digit (n / 4096), digit (n / 64), digit n] ++ encode rest
  | [a, b] =>
    let n := a.toNat * 65536 + b.toNat * 256
    [digit (n / 262144), digit (n / 4096), digit (n / 64), '=']
  | [a] =>
    let n := a.toNat * 65536
    [digit (n / 262144), digit (n / 4096), '=', '=']
  | [] => []

/-- The value of a digit. -/
def value? (c : Char) : Option Nat := alphabet.idxOf? c

/-- The bytes that four characters stand for, and whether more may follow them, they are the last,
or they make no sense. -/
def group (a b c d : Char) : Bytes × Option Bool :=
  let byte (n : Nat) : UInt8 := UInt8.ofNat (n % 256)
  match value? a, value? b, value? c, value? d with
  | some x, some y, some z, some w =>
    let n := x * 262144 + y * 4096 + z * 64 + w
    ([byte (n / 65536), byte (n / 256), byte n], some true)
  | some x, some y, some z, none =>
    let n := x * 262144 + y * 4096 + z * 64
    ([byte (n / 65536), byte (n / 256)], if d = '=' then some false else none)
  | some x, some y, none, _ =>
    ([byte ((x * 262144 + y * 4096) / 65536)], if c = '=' ∧ d = '=' then some false else none)
  | _, _, _, _ => ([], none)

/-- The bytes that digits stand for, and whether all of them made sense. -/
def decode : Chars → Bytes × Bool
  | [] => ([], true)
  | a :: b :: c :: d :: rest =>
    match group a b c d with
    | (bytes, some true) =>
      let (more, whole) := decode rest
      (bytes ++ more, whole)
    | (bytes, some false) => (bytes, rest.isEmpty)
    | (bytes, none) => (bytes, false)
  | [a, b, c] => ((group a b c '=').1, false)
  | [a, b] => ((group a b '=' '=').1, false)
  | [_] => ([], false)

theorem value?_digit (n : Nat) : value? (digit n) = some (n % 64) := by
  have each : ∀ i < 64, value? (alphabet[i]?.getD '=') = some i := by decide +kernel
  exact each (n % 64) (Nat.mod_lt n (by decide))

theorem value?_equals : value? '=' = none := by decide +kernel

/-- Four digits stand for three bytes, and more may follow. -/
theorem group_digits (x y z w : Nat) :
    group (digit x) (digit y) (digit z) (digit w) =
      let n := x % 64 * 262144 + y % 64 * 4096 + z % 64 * 64 + w % 64
      ([UInt8.ofNat (n / 65536 % 256), UInt8.ofNat (n / 256 % 256), UInt8.ofNat (n % 256)],
        some true) := by
  simp only [group, value?_digit]

/-- Three digits stand for the last two bytes. -/
theorem group_three (x y z : Nat) :
    group (digit x) (digit y) (digit z) '=' =
      let n := x % 64 * 262144 + y % 64 * 4096 + z % 64 * 64
      ([UInt8.ofNat (n / 65536 % 256), UInt8.ofNat (n / 256 % 256)], some false) := by
  simp only [group, value?_digit, value?_equals, if_true]

/-- Two digits stand for the last byte. -/
theorem group_two (x y : Nat) :
    group (digit x) (digit y) '=' '=' =
      ([UInt8.ofNat ((x % 64 * 262144 + y % 64 * 4096) / 65536 % 256)], some false) := by
  simp only [group, value?_digit, value?_equals, and_self, if_true]

theorem decode_encode (bs : Bytes) : decode (encode bs) = (bs, true) := by
  fun_induction encode bs with
  | case1 a b c rest n ih =>
    have ha := a.toNat_lt
    have hb := b.toNat_lt
    have hc := c.toNat_lt
    have hn : n / 262144 % 64 * 262144 + n / 4096 % 64 * 4096 + n / 64 % 64 * 64 + n % 64 = n := by
      omega
    have h₁ : n / 65536 % 256 = a.toNat := by omega
    have h₂ : n / 256 % 256 = b.toNat := by omega
    have h₃ : n % 256 = c.toNat := by omega
    have hgroup := group_digits (n / 262144) (n / 4096) (n / 64) n
    simp only [hn, h₁, h₂, h₃, UInt8.ofNat_toNat] at hgroup
    simp only [List.cons_append, List.nil_append, decode, hgroup, ih]
  | case2 a b n =>
    have ha := a.toNat_lt
    have hb := b.toNat_lt
    have hn : n / 262144 % 64 * 262144 + n / 4096 % 64 * 4096 + n / 64 % 64 * 64 = n := by omega
    have h₁ : n / 65536 % 256 = a.toNat := by omega
    have h₂ : n / 256 % 256 = b.toNat := by omega
    have hgroup := group_three (n / 262144) (n / 4096) (n / 64)
    simp only [hn, h₁, h₂, UInt8.ofNat_toNat] at hgroup
    rw [decode, hgroup]
    rfl
  | case3 a n =>
    have ha := a.toNat_lt
    have h₁ : (n / 262144 % 64 * 262144 + n / 4096 % 64 * 4096) / 65536 % 256 = a.toNat := by omega
    have hgroup := group_two (n / 262144) (n / 4096)
    simp only [h₁, UInt8.ofNat_toNat] at hgroup
    rw [decode, hgroup]
    rfl
  | case4 => rfl

/-- A text in lines of a length. -/
def wrapped (width : Nat) : Nat → Chars → Chars
  | 0, _ => []
  | _, [] => []
  | fuel + 1, cs => cs.take width ++ '\n' :: wrapped width fuel (cs.drop width)

end Encoding

/-- Writes bytes as digits in base 64, or the bytes that such digits stand for. -/
def base64 : Body := withOptions "diw:" 1 fun inv o => do
  match ← contentOf inv (o.operands.head?.getD ['-']) with
  | .error e =>
    complainOver inv (o.operands.head?.getD []) e
    return 1
  | .ok content =>
    if o.has 'd' then
      let digits := (Chars.ofBytes content).filter fun c =>
        c ≠ '\n' && (!o.has 'i' || c = '=' || Encoding.alphabet.contains c)
      let (bytes, whole) := Encoding.decode digits
      Host.write (inv.stream 1) bytes
      if !whole then complain inv (chars "base64: invalid input\n")
      return if whole then 0 else 1
    else
      let text := Encoding.encode content
      let width := ((o.value? 'w').bind Chars.toNat?).getD 76
      say inv (if width = 0 then text else Encoding.wrapped width (text.length + 1) text)
      return 0

end Container.Programs
