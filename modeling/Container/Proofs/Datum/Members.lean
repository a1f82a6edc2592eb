import Mathlib.Data.List.Nodup
import Container.Proofs.Datum.Fields
import Container.Proofs.MessagePack.Torn

set_option autoImplicit false

/-!
# Reading records in any order

What a record is read as depends on the entries with a known name only, and of these only on the
value that each name comes with: not on their order, and not on what stands between them. A known
name that comes twice is refused.

## Main definitions

* `Datum.Once` — a name that comes once among entries, and its value.
* `Datum.Shape.field?` — the field of a shape that a name is that of.
* `Datum.Shape.known` — the entries that a shape has fields for.
* `Datum.Shape.recognised` — the same of entries with any keys.

## Main results

* `Datum.Shape.exists_collect_record` — a record whose known names come at most once each is
  collected.
* `Datum.Shape.eq_of_collectEntries` — what is collected is what is recognised.
* `Datum.Shape.value?_of_collect` — what is collected is what the record has.
* `Datum.Shape.fails_collect_of_twice` — no known name comes twice.
-/

namespace Container.Datum

/-! ## Entries by name -/

/-- Among the entries, the name comes exactly once, with this value. -/
def Once (entries : List (String × Datum)) (name : String) (d : Datum) : Prop :=
  entries.filter (·.1 = name) = [(name, d)]

namespace Once

variable {entries entries' : List (String × Datum)} {name : String} {d : Datum}

/-- The order of the entries makes no difference. -/
theorem perm (h : Once entries name d) (hperm : entries.Perm entries') : Once entries' name d := by
  have hfilter := hperm.filter (·.1 = name)
  rw [h] at hfilter
  exact List.perm_singleton.mp hfilter.symm

theorem mem (h : Once entries name d) : (name, d) ∈ entries := by
  have hmem : (name, d) ∈ entries.filter (·.1 = name) := by
    rw [h]
    exact List.mem_singleton_self _
  exact (List.mem_filter.mp hmem).1

/-- The name comes with no other value. -/
theorem eq_of_mem (h : Once entries name d) {d' : Datum} (hmem : (name, d') ∈ entries) :
    d' = d := by
  have hfilter : (name, d') ∈ entries.filter (·.1 = name) := List.mem_filter.mpr ⟨hmem, by simp⟩
  rw [h, List.mem_singleton] at hfilter
  exact (Prod.mk.inj hfilter).2

theorem count (h : Once entries name d) : (entries.map (·.1)).count name = 1 := by
  rw [List.count, List.countP_map, List.countP_eq_length_filter]
  exact congrArg List.length h

end Once

/-- A name that is among others once comes with one value. -/
theorem once_of_nodup {entries : List (String × Datum)} (hnodup : (entries.map (·.1)).Nodup)
    {name : String} {d : Datum} (hmem : (name, d) ∈ entries) : Once entries name d := by
  induction entries with
  | nil => cases hmem
  | cons e entries ih =>
    rw [List.map_cons, List.nodup_cons] at hnodup
    rcases List.mem_cons.mp hmem with rfl | hmem
    · have hnone : entries.filter (·.1 = name) = [] := by
        rw [List.filter_eq_nil_iff]
        intro e he heq
        exact hnodup.1 (List.mem_map.mpr ⟨e, he, by simpa using heq⟩)
      simp [Once, hnone]
    · have hne : e.1 ≠ name := by
        rintro rfl
        exact hnodup.1 (List.mem_map.mpr ⟨_, hmem, rfl⟩)
      have hrest := ih hnodup.2 hmem
      rwa [Once, List.filter_cons_of_neg (by simpa using hne)]

/-- A name that comes once is found with its value. -/
theorem Once.lookup {entries : List (String × Datum)} {name : String} {d : Datum}
    (h : Once entries name d) : entries.lookup name = some d := by
  induction entries with
  | nil => cases h
  | cons e entries ih =>
    obtain ⟨name', value⟩ := e
    by_cases hname : name' = name
    · subst hname
      obtain rfl := h.eq_of_mem List.mem_cons_self
      simp
    · rw [Once, List.filter_cons_of_neg (by simpa using hname)] at h
      have hne : (name == name') = false := by simpa using fun heq => hname heq.symm
      rw [List.lookup_cons, hne]
      exact ih h

/-- A name that is not among the entries is not found. -/
theorem lookup_of_not_mem {entries : List (String × Datum)} {name : String}
    (h : name ∉ entries.map (·.1)) : entries.lookup name = none := by
  rw [List.lookup_eq_none_iff]
  intro e he
  simpa using fun heq => h (List.mem_map.mpr ⟨e, he, heq.symm⟩)

/-- Entries that are left out do not matter to the names of the others. -/
theorem lookup_filter (keep : String → Bool) {entries : List (String × Datum)} {name : String}
    (h : keep name = true) :
    (entries.filter fun e => keep e.1).lookup name = entries.lookup name := by
  induction entries with
  | nil => rfl
  | cons e entries ih =>
    obtain ⟨name', value⟩ := e
    by_cases hkeep : keep name' = true
    · rw [List.filter_cons_of_pos (by simpa using hkeep), List.lookup_cons, List.lookup_cons, ih]
    · have hne : (name == name') = false := by
        simpa using fun heq => hkeep (by rwa [← heq])
      rw [List.filter_cons_of_neg (by simpa using hkeep), ih, List.lookup_cons, hne]

/-- Entries that are left out do not count for the others. -/
theorem count_filter (keep : String → Bool) {entries : List (String × Datum)} {name : String}
    (h : keep name = true) :
    ((entries.filter fun e => keep e.1).map (·.1)).count name = (entries.map (·.1)).count name := by
  have hmap : (entries.filter fun e => keep e.1).map (·.1) = (entries.map (·.1)).filter keep := by
    rw [List.filter_map]
    rfl
  rw [hmap, List.count_filter h]

/-- A name that comes once does so where others are left out. -/
theorem Once.filter (keep : String → Bool) {entries : List (String × Datum)} {name : String}
    {d : Datum} (honce : Once entries name d) (h : keep name = true) :
    Once (entries.filter fun e => keep e.1) name d := by
  rw [Once, List.filter_filter, ← honce]
  refine List.filter_congr fun e _ => ?_
  by_cases hname : e.1 = name
  · simp [hname, h]
  · simp [hname]

/-- Entries by name, as those of a map. -/
def keyed (entries : List (String × Datum)) : List (Datum × Datum) :=
  entries.map fun (name, value) => (.text name, value)

/-! ## Collecting -/

namespace Shape

variable (shape : Shape) (source : Source)

/-- The field of the shape with this name. -/
def field? (name : String) : Option Field :=
  (shape.names.idxOf? name).bind (shape.fields[·]?)

/-- The entries with the name of a field, in their order. -/
def known (entries : List (String × Datum)) : Fields := entries.filter (·.1 ∈ shape.names)

variable {shape}

/-- Entries with other names do not matter to what comes under a known name. -/
theorem lookup_known {entries : List (String × Datum)} {name : String}
    (hname : name ∈ shape.names) : (shape.known entries).lookup name = entries.lookup name :=
  lookup_filter (fun name => decide (name ∈ shape.names)) (by simpa using hname)

/-- A known name comes as often as it does. -/
theorem count_known {entries : List (String × Datum)} {name : String}
    (hname : name ∈ shape.names) :
    ((shape.known entries).map (·.1)).count name = (entries.map (·.1)).count name :=
  count_filter (fun name => decide (name ∈ shape.names)) (by simpa using hname)

theorem mem_of_mem_known {entries : List (String × Datum)} {e : String × Datum}
    (h : e ∈ shape.known entries) : e ∈ entries ∧ e.1 ∈ shape.names := by
  obtain ⟨hmem, hname⟩ := List.mem_filter.mp h
  exact ⟨hmem, by simpa using hname⟩

theorem known_cons_pos {name : String} {value : Datum} {entries : List (String × Datum)}
    (hname : name ∈ shape.names) :
    shape.known ((name, value) :: entries) = (name, value) :: shape.known entries :=
  List.filter_cons_of_pos (by simpa using hname)

theorem known_cons_neg {name : String} {value : Datum} {entries : List (String × Datum)}
    (hname : name ∉ shape.names) :
    shape.known ((name, value) :: entries) = shape.known entries :=
  List.filter_cons_of_neg (by simpa using hname)

/-- The field with a name is one of the shape, and has that name. -/
theorem eq_of_field? {name : String} {field : Field} (h : shape.field? name = some field) :
    field ∈ shape.fields ∧ field.name = name := by
  obtain ⟨i, hindex, hget⟩ := Option.bind_eq_some_iff.mp h
  obtain ⟨hlt, hname, -⟩ := List.idxOf?_eq_some_iff.mp hindex
  obtain ⟨_, rfl⟩ := List.getElem?_eq_some_iff.mp hget
  exact ⟨List.getElem_mem _, by simpa [names] using hname⟩

/-- A name has a field where it is one of the names of the shape. -/
theorem field?_eq_none_iff {name : String} : shape.field? name = none ↔ name ∉ shape.names := by
  rw [field?, Option.bind_eq_none_iff]
  constructor
  · intro h
    rw [← List.idxOf?_eq_none_iff, Option.eq_none_iff_forall_ne_some]
    intro i hindex
    obtain ⟨hlt, -⟩ := List.idxOf?_eq_some_iff.mp hindex
    rw [names, List.length_map] at hlt
    exact absurd (h i hindex) (by simp [hlt])
  · intro h i hindex
    rw [List.idxOf?_eq_none_iff.mpr h] at hindex
    cases hindex

/-- The field that a key stands for. -/
def fieldOf? (key : Datum) : Option Field :=
  match keyIndex? source shape.names key with
  | .ok index? => index?.bind (shape.fields[·]?)
  | .error _ => none

/-- The entries whose keys stand for fields, by the names of these. -/
def recognised (entries : List (Datum × Datum)) : Fields :=
  entries.filterMap fun e => (shape.fieldOf? source e.1).map fun field => (field.name, e.2)

/-- Of entries by name, those with the name of a field are recognised. -/
theorem recognised_keyed (entries : List (String × Datum)) :
    shape.recognised source (keyed entries) = shape.known entries := by
  induction entries with
  | nil => rfl
  | cons e entries ih =>
    obtain ⟨name, value⟩ := e
    have hkey : shape.fieldOf? source (.text name) = shape.field? name := rfl
    rw [recognised, keyed, List.map_cons, List.filterMap_cons]
    simp only [hkey]
    rcases hfield : shape.field? name with _ | field
    · rw [known_cons_neg (field?_eq_none_iff.mp hfield)]
      exact ih
    · obtain ⟨hmem, rfl⟩ := eq_of_field? hfield
      rw [known_cons_pos (List.mem_map_of_mem hmem)]
      exact congrArg _ ih

/-- An entry is looked at before those after it. -/
theorem collectEntries_cons (found : Fields) (key value : Datum) (entries : List (Datum × Datum)) :
    shape.collectEntries source found ((key, value) :: entries) =
      (keyIndex? source shape.names key >>= fun index? =>
        match index?.bind (shape.fields[·]?) with
        | none =>
          match value.fault? with
          | some f => .error (.fault f)
          | none => shape.collectEntries source found entries
        | some field => do
          if found.any (fun (name, _) => name = field.name) then
            throw (.duplicateField field.name)
          field.check value
          shape.collectEntries source (found ++ [(field.name, value)]) entries) := rfl

/-- An entry that was taken is passed over, or is the first with the name of a field and can be what
that field is. -/
theorem collectEntries_cons_cases {key value : Datum} {entries : List (Datum × Datum)}
    {found found' : Fields}
    (h : shape.collectEntries source found ((key, value) :: entries) = .ok found') :
    (shape.fieldOf? source key = none ∧ shape.collectEntries source found entries = .ok found') ∨
      ∃ field, shape.fieldOf? source key = some field ∧ field.name ∉ found.map (·.1) ∧
        field.check value = .ok () ∧
        shape.collectEntries source (found ++ [(field.name, value)]) entries = .ok found' := by
  rw [collectEntries_cons] at h
  cases hkey : keyIndex? source shape.names key with
  | error mismatch =>
    rw [hkey] at h
    cases h
  | ok index? =>
    simp only [hkey, bind, Except.bind] at h
    rw [fieldOf?, hkey]
    rcases hfield : Option.bind index? (shape.fields[·]?) with _ | field
    · simp only [hfield] at h
      split at h
      · cases h
      · exact .inl ⟨hfield, h⟩
    · simp only [hfield] at h
      split at h
      · cases h
      · rename_i hfresh
        cases hcheck : field.check value with
        | error mismatch =>
          rw [hcheck] at h
          cases h
        | ok _ =>
          rw [hcheck] at h
          exact .inr ⟨field, hfield, by simpa using hfresh, hcheck, h⟩

/-- **What is collected**: the entries that are recognised, in their order, no name twice, and each
taken by its field. -/
theorem eq_of_collectEntries {entries : List (Datum × Datum)} {found found' : Fields}
    (h : shape.collectEntries source found entries = .ok found') :
    found' = found ++ shape.recognised source entries ∧
      ((found.map (·.1)).Nodup → (found'.map (·.1)).Nodup) ∧
        ∀ e ∈ entries, ∀ field, shape.fieldOf? source e.1 = some field →
          field.check e.2 = .ok () := by
  induction entries generalizing found with
  | nil =>
    cases h
    exact ⟨(List.append_nil _).symm, id, by simp⟩
  | cons e entries ih =>
    obtain ⟨key, value⟩ := e
    rw [recognised, List.filterMap_cons]
    rcases collectEntries_cons_cases source h with
      ⟨hother, h⟩ | ⟨field, hfield, hnew, hcheck, h⟩
    · obtain ⟨heq, hnodup, htaken⟩ := ih h
      rw [hother]
      exact ⟨heq, hnodup, List.forall_mem_cons.mpr ⟨by simp [hother], htaken⟩⟩
    · obtain ⟨heq, hnodup, htaken⟩ := ih h
      rw [hfield]
      refine ⟨by rw [heq, List.append_assoc]; rfl, fun hfound => hnodup ?_,
        List.forall_mem_cons.mpr ⟨by simpa [hfield] using hcheck, htaken⟩⟩
      rw [List.map_append, List.map_singleton]
      exact hfound.append (List.nodup_singleton _) (by simpa using hnew)

/-- What becomes of an entry by name is up to the field with that name. -/
theorem collectEntries_keyed_cons (found : Fields) (name : String) (value : Datum)
    (entries : List (String × Datum)) :
    shape.collectEntries source found (keyed ((name, value) :: entries)) =
      (match shape.field? name with
      | none =>
        match value.fault? with
        | some f => .error (.fault f)
        | none => shape.collectEntries source found (keyed entries)
      | some field => do
        if found.any (fun (name, _) => name = field.name) then
          throw (.duplicateField field.name)
        field.check value
        shape.collectEntries source (found ++ [(field.name, value)]) (keyed entries)) := rfl

/-- Entries whose known names come once each, none of them found before, are collected if each is
taken and the others can be passed over. -/
theorem collectEntries_eq_ok {entries : List (String × Datum)} {found : Fields}
    (hnodup : ((found ++ shape.known entries).map (·.1)).Nodup)
    (htaken : ∀ e ∈ entries, ∀ field ∈ shape.fields, field.name = e.1 → field.check e.2 = .ok ())
    (hother : ∀ e ∈ entries, e.1 ∉ shape.names → e.2.fault? = none) :
    shape.collectEntries source found (keyed entries) = .ok (found ++ shape.known entries) := by
  induction entries generalizing found with
  | nil => simp [keyed, known, collectEntries]
  | cons e entries ih =>
    obtain ⟨name, value⟩ := e
    have htaken' := fun e he => htaken e (List.mem_cons_of_mem (name, value) he)
    have hother' := fun e he => hother e (List.mem_cons_of_mem (name, value) he)
    rw [collectEntries_keyed_cons]
    rcases hfield : shape.field? name with _ | field
    · have hname := field?_eq_none_iff.mp hfield
      rw [known_cons_neg hname] at hnodup ⊢
      simp only [hother (name, value) List.mem_cons_self hname]
      exact ih hnodup htaken' hother'
    · obtain ⟨hmem, rfl⟩ := eq_of_field? hfield
      have hname : field.name ∈ shape.names := List.mem_map_of_mem hmem
      rw [known_cons_pos hname] at hnodup ⊢
      rw [← List.singleton_append, ← List.append_assoc] at hnodup ⊢
      have hfresh : found.any (fun (name, _) => name = field.name) = false := by
        rw [List.map_append, List.map_append, List.append_assoc, List.nodup_append] at hnodup
        simp only [List.any_eq_false, decide_eq_true_eq]
        intro e he heq
        exact hnodup.2.2 e.1 (List.mem_map_of_mem he) field.name (by simp) heq
      simp only [hfresh, htaken (field.name, value) List.mem_cons_self field hmem rfl]
      exact ih hnodup htaken' hother'

/-- What is collected of a record. -/
theorem eq_of_collect {entries : List (String × Datum)} {found : Fields}
    (h : shape.collect source (.record entries) = .ok found) :
    found = shape.known entries ∧ (found.map (·.1)).Nodup := by
  have hcollect : shape.collectEntries source [] (keyed entries) = .ok found := h
  obtain ⟨heq, hnodup, -⟩ := eq_of_collectEntries source hcollect
  exact ⟨heq.trans (recognised_keyed source entries), hnodup List.nodup_nil⟩

/-- What has been collected of a record under a known name is what the record has. -/
theorem value?_of_collect {entries : List (String × Datum)} {found : Fields}
    (h : shape.collect source (.record entries) = .ok found) {name : String}
    (hname : name ∈ shape.names) : found.value? name = entries.lookup name := by
  obtain ⟨rfl, -⟩ := eq_of_collect source h
  exact lookup_known hname

/-- **No known name comes twice.** -/
theorem fails_collect_of_twice {entries : List (String × Datum)} {name : String}
    (hname : name ∈ shape.names) (htwice : 1 < (entries.map (·.1)).count name) :
    Fails (shape.collect source (.record entries)) := by
  cases hcollect : shape.collect source (.record entries) with
  | error mismatch => exact ⟨mismatch, rfl⟩
  | ok found =>
    obtain ⟨rfl, hnodup⟩ := eq_of_collect source hcollect
    have honce := List.nodup_iff_count_le_one.mp hnodup name
    rw [count_known hname] at honce
    omega

/-- **A record in any order**: if each known name comes once, with a value that its field takes, or
does not come at all, the record is collected, whatever else is in it. -/
theorem exists_collect_record {entries : List (String × Datum)}
    (hknown : ∀ field ∈ shape.fields, (∃ d, Once entries field.name d ∧ field.check d = .ok ()) ∨
      field.name ∉ entries.map (·.1))
    (hother : ∀ e ∈ entries, e.1 ∉ shape.names → e.2.fault? = none) :
    ∃ found, shape.collect source (.record entries) = .ok found := by
  have hnodup : ((([] : Fields) ++ shape.known entries).map (·.1)).Nodup := by
    rw [List.nil_append, List.nodup_iff_count_le_one]
    intro name
    by_cases hname : name ∈ shape.names
    · rw [count_known hname]
      obtain ⟨field, hfield, rfl⟩ := List.mem_map.mp hname
      obtain ⟨d, honce, -⟩ | habsent := hknown field hfield
      · exact Nat.le_of_eq honce.count
      · rw [List.count_eq_zero.mpr habsent]
        exact Nat.zero_le 1
    · rw [List.count_eq_zero.mpr]
      · exact Nat.zero_le 1
      · intro hmem
        obtain ⟨e, he, rfl⟩ := List.mem_map.mp hmem
        exact hname (mem_of_mem_known he).2
  refine ⟨_, collectEntries_eq_ok source hnodup ?_ hother⟩
  rintro e he field hfield hname
  obtain ⟨d, honce, hcheck⟩ | habsent := hknown field hfield
  · obtain rfl : e.2 = d := honce.eq_of_mem (by rwa [hname])
    exact hcheck
  · exact absurd (List.mem_map.mpr ⟨e, he, hname.symm⟩) habsent

/-- A record that does not give a known name once is not read by one who needs that name. -/
theorem fails_of_count_ne_one {α : Type} {entries : List (String × Datum)} {name : String}
    (hname : name ∈ shape.names) (hcount : (entries.map (·.1)).count name ≠ 1)
    {next : Fields → Reading α} (hnext : ∀ found : Fields, found.value? name = none →
      Fails (next found)) :
    Fails (shape.collect source (.record entries) >>= next) := by
  by_cases htwice : 1 < (entries.map (·.1)).count name
  · exact (fails_collect_of_twice source hname htwice).bind next
  · have habsent : name ∉ entries.map (·.1) := by
      rw [← List.count_eq_zero]
      omega
    cases hcollect : shape.collect source (.record entries) with
    | error mismatch => exact ⟨mismatch, rfl⟩
    | ok found =>
      refine hnext found ?_
      rw [value?_of_collect source hcollect hname, lookup_of_not_mem habsent]

end Shape

/-- A field that has to be there is missed. -/
theorem Fields.fails_required {α : Type} {found : Fields} {name : String}
    (h : found.value? name = none) (read : Datum → Reading α) :
    Fails (found.required name read) := by
  rw [required, h]
  exact .throw _

end Container.Datum
