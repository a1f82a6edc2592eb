import Mathlib.Data.List.Forall2
import Container.Proofs.Datum.Members
import Container.Proofs.Datum.Whole

set_option autoImplicit false

/-!
# Reading records of several kinds in any order

The entry that says of which kind a record is may stand anywhere among the others. These are held
back until it is found, and what is legible in all its parts can be held back.

## Main definitions

* `Datum.Whole` — values all of whose parts are legible.
* `Datum.Variants.Held` — what entries are held back as.

## Main results

* `Datum.Variants.read_record_iff` — what a record of several kinds is read as.
-/

namespace Container.Datum

namespace Variants

variable {α : Type} (variants : Variants α) (source : Source)

/-- The entries are held back as these. -/
def Held (source : Source) : List (String × Datum) → List (String × Datum) → Prop :=
  List.Forall₂ fun e e' => e'.1 = e.1 ∧ e.2.hold ((heldDepth source).map (· - 1)) = .ok e'.2

/-- Entries that are held back keep their names. -/
theorem Held.names {source : Source} {entries fields : List (String × Datum)}
    (h : Held source entries fields) : fields.map (·.1) = entries.map (·.1) := by
  induction h with
  | nil => rfl
  | cons h _ ih => rw [List.map_cons, List.map_cons, h.1, ih]

/-- Entries of some names are held back as the entries of those names. -/
theorem Held.filter {source : Source} {entries fields : List (String × Datum)}
    (h : Held source entries fields) (keep : String → Bool) :
    Held source (entries.filter fun e => keep e.1) (fields.filter fun e => keep e.1) := by
  induction h with
  | nil => exact .nil
  | @cons e e' entries fields he _ ih =>
    obtain ⟨hname, hhold⟩ := he
    by_cases hkeep : keep e.1 = true
    · rw [List.filter_cons_of_pos (by simpa using hkeep),
        List.filter_cons_of_pos (by simpa [hname] using hkeep)]
      exact .cons ⟨hname, hhold⟩ ih
    · rw [List.filter_cons_of_neg (by simpa using hkeep),
        List.filter_cons_of_neg (by simpa [hname] using hkeep)]
      exact ih

/-- A name that comes once comes once after its value has been held back. -/
theorem Held.once {source : Source} {entries fields : List (String × Datum)}
    (h : Held source entries fields) {name : String} {d d' : Datum} (honce : Once entries name d)
    (hhold : d.hold ((heldDepth source).map (· - 1)) = .ok d') : Once fields name d' := by
  have hfilter := h.filter fun name' => decide (name' = name)
  rw [honce] at hfilter
  obtain ⟨⟨name', d''⟩, rest, ⟨hname, hhold'⟩, hrest, heq⟩ :=
    List.forall₂_cons_left_iff.mp hfilter
  obtain rfl := List.forall₂_nil_left_iff.mp hrest
  simp only at hname hhold'
  rw [hhold, Except.ok.injEq] at hhold'
  rw [Once, heq, hname, hhold']

/-- What is legible in all its parts can be held back, whatever it stands among. -/
theorem exists_held {source : Source} (hsource : heldDepth source = none)
    {entries : List (String × Datum)} (h : ∀ e ∈ entries, e.2.Whole) :
    ∃ fields, Held source entries fields ∧ ∀ f ∈ fields, f.2.Whole := by
  induction entries with
  | nil => exact ⟨[], .nil, by simp⟩
  | cons e entries ih =>
    obtain ⟨d, hhold, hd⟩ := (h e List.mem_cons_self).exists_hold
    obtain ⟨fields, hheld, hfields⟩ := ih fun e he => h e (List.mem_cons_of_mem _ he)
    exact ⟨(e.1, d) :: fields, .cons ⟨rfl, by rw [hsource]; exact hhold⟩ hheld,
      List.forall_mem_cons.mpr ⟨hd, hfields⟩⟩

/-- Entries with their values held back, after a value that is. -/
theorem held_cons {source : Source} {e : String × Datum} {entries fields : List (String × Datum)} :
    Held source (e :: entries) fields ↔
      ∃ d fields', e.2.hold ((heldDepth source).map (· - 1)) = .ok d ∧
        fields = (e.1, d) :: fields' ∧ Held source entries fields' := by
  rw [Held, List.forall₂_cons_left_iff]
  constructor
  · rintro ⟨⟨_, d⟩, fields', ⟨rfl, hhold⟩, hheld, rfl⟩
    exact ⟨d, fields', hhold, rfl, hheld⟩
  · rintro ⟨d, fields', hhold, rfl, hheld⟩
    exact ⟨(e.1, d), fields', ⟨rfl, hhold⟩, hheld, rfl⟩

/-- The kind is known already and is not given again, or it is given once. -/
def Determines (kind : Option Nat) (entries : List (String × Datum)) (i : Nat) : Prop :=
  (kind = some i ∧ tag ∉ entries.map (·.1)) ∨
    (kind = none ∧ ∃ d, Once entries tag d ∧ variants.kindIndex source d = .ok i)

variable {variants source}

theorem determines_nil {kind : Option Nat} {i : Nat} :
    variants.Determines source kind [] i ↔ kind = some i := by
  simp [Determines, Once]

/-- An entry with another name does not say which kind it is. -/
theorem determines_cons_other {kind : Option Nat} {name : String} {d : Datum}
    {entries : List (String × Datum)} {i : Nat} (hname : name ≠ tag) :
    variants.Determines source kind ((name, d) :: entries) i ↔
      variants.Determines source kind entries i := by
  have honce (d') : Once ((name, d) :: entries) tag d' ↔ Once entries tag d' := by
    rw [Once, List.filter_cons_of_neg (by simpa using hname), Once]
  simp only [Determines, honce, List.map_cons, List.mem_cons, not_or]
  simp [hname.symm]

/-- The kind is given by an entry with its name, and by no other after that. -/
theorem determines_cons_tag {kind : Option Nat} {d : Datum} {entries : List (String × Datum)}
    {i : Nat} :
    variants.Determines source kind ((tag, d) :: entries) i ↔
      kind = none ∧ variants.kindIndex source d = .ok i ∧ tag ∉ entries.map (·.1) := by
  have honce (d') : Once ((tag, d) :: entries) tag d' ↔ d' = d ∧ tag ∉ entries.map (·.1) := by
    rw [Once, List.filter_cons_of_pos (by simp), List.cons.injEq, List.filter_eq_nil_iff]
    have hnone : (∀ e ∈ entries, ¬ decide (e.1 = tag) = true) ↔ tag ∉ entries.map (·.1) := by
      rw [List.mem_map, not_exists]
      exact forall_congr' fun e => by rw [not_and, decide_eq_true_iff]
    rw [hnone, Prod.mk.injEq]
    simp [eq_comm]
  simp only [Determines, honce, List.map_cons, List.mem_cons, true_or, not_true_eq_false, and_false,
    false_or]
  constructor
  · rintro ⟨hkind, _, ⟨rfl, hnone⟩, hindex⟩
    exact ⟨hkind, hindex, hnone⟩
  · rintro ⟨hkind, hindex, hnone⟩
    exact ⟨hkind, d, ⟨rfl, hnone⟩, hindex⟩

variable (variants source)

/-- An entry is looked at before those after it. -/
theorem split_cons (kind : Option Nat) (held : List (Datum × Datum)) (name : String) (value : Datum)
    (entries : List (String × Datum)) :
    variants.split source kind held (keyed ((name, value) :: entries)) =
      if name = tag then
        if kind.isSome then .error (.duplicateField tag)
        else variants.kindIndex source value >>= fun i =>
          variants.split source (some i) held (keyed entries)
      else value.hold ((heldDepth source).map (· - 1)) >>= fun value =>
        variants.split source kind ((.text name, value) :: held) (keyed entries) := by
  simp only [keyed, List.map_cons, split, isTag, decide_eq_true_eq, hold]
  split
  · split <;> rfl
  · rfl

/-- **Taking entries apart** gives the kind that they determine, and the others held back. -/
theorem split_keyed_iff {kind : Option Nat} {held : List (Datum × Datum)}
    {entries : List (String × Datum)} {i : Nat} {held' : List (Datum × Datum)} :
    variants.split source kind held (keyed entries) = .ok (some i, held') ↔
      variants.Determines source kind entries i ∧
        ∃ fields, Held source (entries.filter (·.1 ≠ tag)) fields ∧
          held' = held.reverse ++ keyed fields := by
  induction entries generalizing kind held with
  | nil =>
    simp [keyed, split, determines_nil, Held, eq_comm]
  | cons e entries ih =>
    obtain ⟨name, value⟩ := e
    rw [split_cons]
    by_cases hname : name = tag
    · subst hname
      rw [if_pos rfl, determines_cons_tag, List.filter_cons_of_neg (by simp)]
      cases kind with
      | some j => simp
      | none =>
        cases hindex : variants.kindIndex source value with
        | error mismatch => simp [bind, Except.bind]
        | ok j =>
          simp only [Option.isSome_none, Bool.false_eq_true, if_false, bind, Except.bind, ih]
          simp only [Determines, Option.some.injEq, reduceCtorEq, false_and, or_false, true_and,
            Except.ok.injEq]
    · rw [if_neg hname, determines_cons_other hname,
        List.filter_cons_of_pos (by simpa using hname)]
      cases hhold : value.hold ((heldDepth source).map (· - 1)) with
      | error mismatch => simp [bind, Except.bind, held_cons, hhold]
      | ok d =>
        simp only [bind, Except.bind, ih, held_cons, hhold, Except.ok.injEq]
        refine and_congr_right fun _ => ⟨?_, ?_⟩
        · rintro ⟨fields, hheld, rfl⟩
          exact ⟨(name, d) :: fields, ⟨d, fields, rfl, rfl, hheld⟩, by simp [keyed]⟩
        · rintro ⟨_, ⟨_, fields, rfl, rfl, hheld⟩, rfl⟩
          exact ⟨fields, hheld, by simp [keyed]⟩

/-- A record of several kinds is taken apart, and then its content is read. -/
theorem read_record (entries : List (String × Datum)) :
    variants.read source (.record entries) =
      variants.split source none [] (keyed entries) >>= fun split =>
        match split with
        | (none, _) => .error (.missingField tag)
        | (some kind, held) => variants.content kind (.map held) := rfl

/-- **A record of several kinds** is what its content is read as once the other entries have been
held back, if it gives its kind once, and is nothing otherwise. -/
theorem read_record_iff {entries : List (String × Datum)} {a : α} :
    variants.read source (.record entries) = .ok a ↔
      ∃ d i fields, Once entries tag d ∧ variants.kindIndex source d = .ok i ∧
        Held source (entries.filter (·.1 ≠ tag)) fields ∧
        variants.content i (.record fields) = .ok a := by
  have hsplit := @split_keyed_iff α variants source none [] entries
  simp only [Determines, reduceCtorEq, false_and, false_or, true_and, List.reverse_nil,
    List.nil_append] at hsplit
  rw [read_record]
  constructor
  · intro h
    rcases hresult : variants.split source none [] (keyed entries) with mismatch | ⟨_ | i, held⟩
    · rw [hresult] at h
      cases h
    · rw [hresult] at h
      cases h
    · obtain ⟨⟨d, honce, hindex⟩, fields, hheld, rfl⟩ := hsplit.mp hresult
      rw [hresult] at h
      exact ⟨d, i, fields, honce, hindex, hheld, h⟩
  · rintro ⟨d, i, fields, honce, hindex, hheld, hcontent⟩
    rw [hsplit.mpr ⟨⟨d, honce, hindex⟩, fields, hheld, rfl⟩]
    exact hcontent

end Variants
end Container.Datum
