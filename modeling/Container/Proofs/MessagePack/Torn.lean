import Container.Datum.Record
import Container.MessagePack.Reader

set_option autoImplicit false

/-!
# Bytes that end too soon

A value that was read whole is the same value whatever bytes follow, and one that was not is torn:
its last part is broken. No record of several kinds can be read out of a torn value, because every
part of such a record has to be legible before its content is looked at.

## Main definitions

* `Datum.Torn` — values that end in a broken part.
* `MessagePack.Steady` — readers to which bytes that follow make no difference.

## Main results

* `MessagePack.steady_readValue` — reading a value is steady.
* `Datum.Variants.read_torn` — no record of several kinds is torn.
-/

namespace Container

/-! ## Torn values -/

/-- The values whose last part is broken. -/
inductive Datum.Torn : Datum → Prop
  | broken (f : Fault) : Torn (.broken f)
  | extension (f : Fault) : Torn (.extension (some f))
  | item (before : List Datum) {d : Datum} (h : Torn d) : Torn (.sequence (before ++ [d]))
  | key (before : List (Datum × Datum)) {k v : Datum} (h : Torn k) :
    Torn (.map (before ++ [(k, v)]))
  | value (before : List (Datum × Datum)) {k v : Datum} (h : Torn v) :
      Torn (.map (before ++ [(k, v)]))

namespace MessagePack

/-! ## Steady readers -/

/-- What is taken is what the bytes begin with. -/
theorem eq_of_takeBytes? {n : Nat} {bs taken rest : Bytes}
    (h : takeBytes? n bs = some (taken, rest)) : bs = taken ++ rest ∧ taken.length = n := by
  unfold takeBytes? at h
  simp only at h
  split at h
  · rename_i hlength
    cases h
    exact ⟨(List.take_append_drop n bs).symm, hlength⟩
  · cases h

/-- Nothing is taken where there is too little. -/
theorem length_of_takeBytes?_none {n : Nat} {bs : Bytes} (h : takeBytes? n bs = none) :
    bs.length < n := by
  unfold takeBytes? at h
  simp only [List.length_take, ite_eq_right_iff, reduceCtorEq, imp_false] at h
  omega

/-- What may follow the first bytes does not change what they say. -/
theorem takeBytes?_append_of_some {n : Nat} {bs taken rest : Bytes}
    (h : takeBytes? n bs = some (taken, rest)) (later : Bytes) :
    takeBytes? n (bs ++ later) = some (taken, rest ++ later) := by
  obtain ⟨rfl, hlength⟩ := eq_of_takeBytes? h
  rw [List.append_assoc, takeBytes?_append hlength]

/-- A reader to which bytes that follow make no difference: what it reads whole stays, and what it
does not is torn. -/
structure Steady (reader : Bytes → Read) : Prop where
  whole : ∀ {bs d rest}, reader bs = (d, some rest) →
    ∀ later, reader (bs ++ later) = (d, some (rest ++ later))
  torn : ∀ {bs d}, reader bs = (d, none) → d.Torn

namespace Steady

/-- Nothing is read where bytes go wrong. -/
theorem stray (f : Datum.Fault) : Steady fun _ => stray f where
  whole h := by cases h
  torn h := by
    cases h
    exact .broken f

/-- What is read without looking at the bytes is there. -/
theorem pure (d : Datum) : Steady fun bs => (d, some bs) where
  whole h later := by
    cases h
    rfl
  torn h := by cases h

/-- So many bytes that are taken off, or a fault where there are too few. -/
theorem taking (n : Nat) (f : Datum.Fault) {next : Bytes → Bytes → Read}
    (hnext : ∀ taken, Steady (next taken)) :
    Steady fun bs => match takeBytes? n bs with
      | some (taken, rest) => next taken rest
      | none => MessagePack.stray f where
  whole {bs d rest} h later := by
    rcases htake : takeBytes? n bs with _ | ⟨taken, rest'⟩
    · rw [htake] at h
      cases h
    · rw [htake] at h
      rw [takeBytes?_append_of_some htake]
      exact (hnext taken).whole h later
  torn {bs d} h := by
    rcases htake : takeBytes? n bs with _ | ⟨taken, rest'⟩
    · rw [htake] at h
      cases h
      exact .broken f
    · rw [htake] at h
      exact (hnext taken).torn h

end Steady

theorem steady_readNumber (bytes : Nat) (value : Nat → Datum) :
    Steady fun bs => readNumber bytes bs value :=
  .taking bytes .shortNumber fun taken => .pure (value (bigEndian taken))

theorem steady_readRun (value : Bytes → Datum) (n : Nat) : Steady (readRun value n) :=
  .taking n .shortString fun taken => .pure (value taken)

theorem steady_withExtent (size : Extent) {next : Nat → Bytes → Read}
    (hnext : ∀ n, Steady (next n)) : Steady fun bs => withExtent size bs next := by
  cases size with
  | known n => exact hnext n
  | told bytes => exact .taking bytes .shortNumber fun taken => hnext (bigEndian taken)

theorem steady_readExtension (n : Nat) : Steady (readExtension n) where
  whole {bs d rest} h later := by
    cases bs with
    | nil => cases h
    | cons kind bs =>
      simp only [readExtension] at h
      rcases htake : takeBytes? n bs with _ | ⟨taken, rest'⟩
      · rw [htake] at h
        cases h
      · rw [htake] at h
        cases h
        simp only [readExtension, List.cons_append, takeBytes?_append_of_some htake]
  torn {bs d} h := by
    cases bs with
    | nil =>
      cases h
      exact .extension _
    | cons kind bs =>
      simp only [readExtension] at h
      rcases htake : takeBytes? n bs with _ | ⟨taken, rest'⟩
      · rw [htake] at h
        cases h
        exact .extension _
      · rw [htake] at h
        cases h

/-- Items are read as steadily as each of them. -/
theorem steady_readItems {item : Bytes → Read} (hitem : Steady item) (n : Nat)
    (items : List Datum) : Steady (readItems item n items) := by
  induction n generalizing items with
  | zero => exact .pure _
  | succ n ih =>
    refine ⟨fun {bs d rest} h later => ?_, fun {bs d} h => ?_⟩
    · simp only [readItems] at h ⊢
      rcases hread : item bs with ⟨first, _ | rest'⟩
      · rw [hread] at h
        cases h
      · rw [hread] at h
        rw [hitem.whole hread]
        exact (ih (first :: items)).whole h later
    · simp only [readItems] at h
      rcases hread : item bs with ⟨first, _ | rest'⟩
      · rw [hread] at h
        cases h
        rw [List.reverse_cons]
        exact .item _ (hitem.torn hread)
      · rw [hread] at h
        exact (ih (first :: items)).torn h

/-- Entries are read as steadily as each key and each value. -/
theorem steady_readEntries {key item : Bytes → Read} (hkey : Steady key) (hitem : Steady item)
    (n : Nat) (entries : List (Datum × Datum)) : Steady (readEntries key item n entries) := by
  induction n generalizing entries with
  | zero => exact .pure _
  | succ n ih =>
    refine ⟨fun {bs d rest} h later => ?_, fun {bs d} h => ?_⟩
    · simp only [readEntries] at h ⊢
      rcases hread : key bs with ⟨k, _ | rest'⟩
      · rw [hread] at h
        cases h
      · rw [hread] at h
        rw [hkey.whole hread]
        simp only at h ⊢
        rcases hvalue : item rest' with ⟨v, _ | rest''⟩
        · rw [hvalue] at h
          cases h
        · rw [hvalue] at h
          rw [hitem.whole hvalue]
          exact (ih ((k, v) :: entries)).whole h later
    · simp only [readEntries] at h
      rcases hread : key bs with ⟨k, _ | rest'⟩
      · rw [hread] at h
        cases h
        rw [List.reverse_cons]
        exact .key _ (hkey.torn hread)
      · rw [hread] at h
        simp only at h
        rcases hvalue : item rest' with ⟨v, _ | rest''⟩
        · rw [hvalue] at h
          cases h
          rw [List.reverse_cons]
          exact .value _ (hitem.torn hvalue)
        · rw [hvalue] at h
          exact (ih ((k, v) :: entries)).torn h

/-- What is read after a first byte. -/
theorem Steady.cons {reader : Bytes → Read} (hnil : reader [] = MessagePack.stray .noMarker)
    (hcons : ∀ b, Steady fun bs => reader (b :: bs)) : Steady reader where
  whole {bs d rest} h later := by
    cases bs with
    | nil =>
      rw [hnil] at h
      cases h
    | cons b bs => exact (hcons b).whole h later
  torn {bs d} h := by
    cases bs with
    | nil =>
      rw [hnil] at h
      cases h
      exact .broken _
    | cons b bs => exact (hcons b).torn h

/-- What is read where another value may lie around what is inside, and a fault where not. -/
theorem steady_inside (depth : Nat) {inside : Nat → Bytes → Read} :
    (∀ inner, depth = inner + 1 → Steady (inside inner)) →
      Steady fun bs => match depth with
        | 0 => stray .tooDeep
        | inner + 1 => inside inner bs := by
  intro h
  cases depth with
  | zero => exact .stray .tooDeep
  | succ inner => exact h inner rfl

/-- Reading a value is as steady as reading the values in it. -/
theorem steady_readValue_of {depth : Nat}
    (ih : ∀ inner, depth = inner + 1 → Steady (readValue inner)) : Steady (readValue depth) := by
  refine .cons (readValue_nil depth) fun b => ?_
  cases hmarker : Marker.of b <;> simp only [readValue, hmarker]
  case null => exact .pure .null
  case reserved => exact .stray .reservedMarker
  case bool value => exact .pure (.bool value)
  case smallNatural n => exact .pure (.natural n .w8)
  case smallNegative i => exact .pure (.integer i)
  case natural size => exact steady_readNumber size _
  case integer size => exact steady_readNumber size _
  case single => exact steady_readNumber 4 _
  case double => exact steady_readNumber 8 _
  case text size => exact steady_withExtent size (steady_readRun textOrGarbled)
  case bytes size => exact steady_withExtent size (steady_readRun .bytes)
  case extension size =>
    exact steady_withExtent size fun n => steady_inside depth fun _ _ => steady_readExtension n
  case array size =>
    exact steady_withExtent size fun n => steady_inside depth fun inner h =>
      steady_readItems (ih inner h) n []
  case map size =>
    exact steady_withExtent size fun n => steady_inside depth fun inner h =>
      steady_readEntries (ih inner h) (ih inner h) n []

/-- **Reading a value is steady.** -/
theorem steady_readValue (depth : Nat) : Steady (readValue depth) := by
  induction depth with
  | zero => exact steady_readValue_of fun _ h => by cases h
  | succ depth ih =>
    refine steady_readValue_of fun inner h => ?_
    cases h
    exact ih

end MessagePack

/-! ## Reading what is torn -/

namespace Datum

variable {α : Type} {source : Source} {d : Datum}

/-- A reading that fails. -/
def Fails (reading : Reading α) : Prop := ∃ mismatch, reading = .error mismatch

namespace Fails

/-- What is read after something that fails is not read. -/
theorem bind {β : Type} {reading : Reading α} (h : Fails reading) (next : α → Reading β) :
    Fails (reading >>= next) := by
  obtain ⟨mismatch, rfl⟩ := h
  exact ⟨mismatch, rfl⟩

/-- What fails after anything fails, be it because of what comes first. -/
theorem after {β : Type} (reading : Reading α) {next : α → Reading β} (h : ∀ a, Fails (next a)) :
    Fails (reading >>= next) := by
  cases reading with
  | error mismatch => exact ⟨mismatch, rfl⟩
  | ok a => exact h a

/-- What fails does so whatever would become of the result. -/
theorem map {β : Type} {reading : Reading α} (h : Fails reading) (f : α → β) :
    Fails (f <$> reading) := by
  obtain ⟨mismatch, rfl⟩ := h
  exact ⟨mismatch, rfl⟩

theorem throw (mismatch : Mismatch) : Fails (throw mismatch : Reading α) := ⟨mismatch, rfl⟩

end Fails

/-- To refuse a value is to fail. -/
theorem fails_refuse (d : Datum) (expected : Expected) : Fails (d.refuse expected : Reading α) :=
  .after d.found fun _ => .throw _

/-- Items that end in one that cannot be held back cannot be. -/
theorem fails_holdItems {depth : Option Nat} (h : Fails (d.hold depth)) (before held : List Datum) :
    Fails (holdItems depth (before ++ [d]) held) := by
  induction before generalizing held with
  | nil =>
    rw [List.nil_append, holdItems]
    exact h.bind _
  | cons first before ih =>
    rw [List.cons_append, holdItems]
    exact .after _ fun item => ih (item :: held)

/-- Entries that end in one that cannot be held back cannot be. -/
theorem fails_holdEntries {depth : Option Nat} {k v : Datum}
    (h : Fails (k.hold depth) ∨ Fails (v.hold depth)) (before held : List (Datum × Datum)) :
    Fails (holdEntries depth (before ++ [(k, v)]) held) := by
  induction before generalizing held with
  | nil =>
    rw [List.nil_append, holdEntries]
    rcases h with h | h
    · exact h.bind _
    · exact .after _ fun _ => h.bind _
  | cons first before ih =>
    rw [List.cons_append, holdEntries]
    exact .after _ fun key => .after _ fun value => ih ((key, value) :: held)

/-- What is torn cannot be held back. -/
theorem Torn.fails_hold (h : d.Torn) (depth : Option Nat) : Fails (d.hold depth) := by
  induction h generalizing depth with
  | broken f =>
    rw [hold]
    exact .throw _
  | extension f =>
    rw [hold]
    exact .throw _
  | item before h ih =>
    rw [hold]
    split
    · exact .throw _
    · exact (fails_holdItems (ih _) before []).bind _
  | key before h ih =>
    rw [hold]
    split
    · exact .throw _
    · exact (fails_holdEntries (.inl (ih _)) before []).bind _
  | value before h ih =>
    rw [hold]
    split
    · exact .throw _
    · exact (fails_holdEntries (.inr (ih _)) before []).bind _

namespace Variants

variable (variants : Variants α)

/-- What is torn names no kind. -/
theorem fails_kindIndex (h : d.Torn) : Fails (variants.kindIndex source d) := by
  cases h <;> exact fails_refuse _ .variant

/-- What is torn is not the key of the tag. -/
theorem isTag_torn (h : d.Torn) : isTag d = false := by
  cases h <;> rfl

/-- Entries that end in a torn one are not taken apart. -/
theorem fails_split {k v : Datum} (h : k.Torn ∨ v.Torn) (before : List (Datum × Datum))
    (kind : Option Nat) (held : List (Datum × Datum)) :
    Fails (variants.split source kind held (before ++ [(k, v)])) := by
  induction before generalizing kind held with
  | nil =>
    simp only [List.nil_append, split]
    rcases h with h | h
    · rw [if_neg (by simp [isTag_torn h])]
      exact (h.fails_hold _).bind _
    · split
      · split
        · exact (Fails.throw _).bind _
        · exact (variants.fails_kindIndex h).bind _
      · exact .after _ fun _ => (h.fails_hold _).bind _
  | cons first before ih =>
    simp only [List.cons_append, split]
    split
    · split
      · exact (Fails.throw _).bind _
      · exact .after _ fun i => ih (some i) held
    · exact .after _ fun key => .after _ fun value => ih kind ((key, value) :: held)

/-- **No record of several kinds is torn.** -/
theorem fails_read (h : d.Torn) : Fails (variants.read source d) := by
  unfold read
  cases h with
  | broken f => exact fails_refuse _ _
  | extension f => exact fails_refuse _ _
  | item before h =>
    cases before with
    | nil => exact (variants.fails_kindIndex h).bind _
    | cons first before => exact .after _ fun kind => (fails_holdItems (h.fails_hold _) _ _).bind _
  | key before h => exact (variants.fails_split (.inl h) before none []).bind _
  | value before h => exact (variants.fails_split (.inr h) before none []).bind _

end Variants
end Datum

namespace MessagePack

/-- **Bytes that end within a value** hold no record of several kinds. -/
theorem fails_decode {α : Type} (variants : Datum.Variants α) {part later : Bytes} {d : Datum}
    (hwhole : read (part ++ later) = (d, some [])) (hlater : later ≠ []) :
    Datum.Fails (decode (variants.read .packed) part) := by
  have hsteady := steady_readValue depthLimit
  rcases hread : read part with ⟨d', _ | rest⟩
  · rw [decode, hread]
    exact variants.fails_read (hsteady.torn hread)
  · -- A value that is read whole from the part would leave the rest of the bytes.
    have hleft := hsteady.whole hread later
    rw [← read, hwhole] at hleft
    simp only [Prod.mk.injEq, Option.some.injEq, List.nil_eq, List.append_eq_nil_iff] at hleft
    exact absurd hleft.2.2 hlater

end MessagePack
end Container
