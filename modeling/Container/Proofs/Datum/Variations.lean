import Mathlib.Data.List.Duplicate
import Container.Proofs.Datum.Members

set_option autoImplicit false

/-!
# Documents of the same thing

A record documents something by its members, each of which documents a part of it: in any order,
among others that nobody knows, and without those members that only say what is in force anyway.
Whatever varies in this way is read as the same thing. A record in which a known name is repeated
is refused, wherever in the document it stands.

## Main definitions

* `Datum.Member`, `Datum.Comprises` — the members of a record, and the records that have them.
* `Datum.Faithful` — documents that are read as what they document.
* `Datum.Shape.Has` — the value of a field in a value that a record may be read of.
* `Datum.Shape.Repeats` — a map in which a known name is repeated.

## Main results

* `Datum.exists_collect_of_comprises` — what is collected of a record with these members.
* `Datum.Shape.of_collect` — what is collected is what the value has.
* `Datum.Shape.fails_collect_of_repeats` — no known name is repeated.
-/

namespace Container.Datum

variable {α β : Type}

/-! ## Lists side by side -/

section Related

variable {γ : Type} {R : α → β → Prop} {as : List α} {bs : List β} (h : List.Forall₂ R as bs)

include h

/-- Each member of the one list is related to one of the other. -/
theorem exists_related {a : α} (ha : a ∈ as) : ∃ b ∈ bs, R a b := by
  induction h with
  | nil => cases ha
  | @cons first b _ _ hfirst _ ih =>
    rcases List.mem_cons.mp ha with rfl | ha
    · exact ⟨b, List.mem_cons_self, hfirst⟩
    · obtain ⟨b, hb, hrelated⟩ := ih ha
      exact ⟨b, List.mem_cons_of_mem _ hb, hrelated⟩

/-- What related members agree in, the lists agree in. -/
theorem map_eq_map {f : α → γ} {g : β → γ} (hagree : ∀ a b, R a b → f a = g b) :
    as.map f = bs.map g := by
  rw [← List.forall₂_eq_eq_eq, List.forall₂_map_left_iff, List.forall₂_map_right_iff]
  exact h.imp hagree

end Related

/-! ## Values that can be passed over -/

/-- The items of what can be passed over can be passed over. -/
theorem fault?_of_mem_items {items : List Datum} (h : (Datum.sequence items).fault? = none) :
    ∀ item ∈ items, item.fault? = none := by
  rw [fault?] at h
  induction items with
  | nil => simp
  | cons item items ih =>
    rw [faultOfItems?] at h
    cases hitem : item.fault? with
    | some f =>
      rw [hitem] at h
      cases h
    | none =>
      rw [hitem] at h
      exact List.forall_mem_cons.mpr ⟨hitem, ih h⟩

/-- The values of the entries of what can be passed over can be passed over. -/
theorem fault?_of_mem_entries {entries : List (String × Datum)}
    (h : (Datum.record entries).fault? = none) : ∀ e ∈ entries, e.2.fault? = none := by
  rw [record, fault?] at h
  induction entries with
  | nil => simp
  | cons e entries ih =>
    obtain ⟨name, value⟩ := e
    have hkey : (Datum.text name).fault? = none := rfl
    rw [List.map_cons, faultOfEntries?, hkey] at h
    cases hvalue : value.fault? with
    | some f =>
      rw [hvalue] at h
      cases h
    | none =>
      rw [hvalue] at h
      exact List.forall_mem_cons.mpr ⟨hvalue, ih h⟩

/-! ## Faithful documents -/

/-- What documents something is read as it, provided that it can be passed over at all. -/
def Faithful (documents : α → Datum → Prop) (read : Datum → Reading α) : Prop :=
  ∀ a d, documents a d → d.fault? = none → read d = .ok a

/-- The value documents what may be absent: it is null, or documents what is there. -/
def DocumentsOption (documents : α → Datum → Prop) : Option α → Datum → Prop
  | none, d => d = .null
  | some a, d => documents a d

/-- The value is a sequence whose items document the items, in their order. -/
def DocumentsList (documents : α → Datum → Prop) (as : List α) (d : Datum) : Prop :=
  ∃ items, d = .sequence items ∧ List.Forall₂ documents as items

variable {documents : α → Datum → Prop} {read : Datum → Reading α}

theorem Faithful.option (h : Faithful documents read)
    (hsome : ∀ a d, documents a d → readOptional read d = some <$> read d) :
    Faithful (DocumentsOption documents) (readOptional read) := by
  rintro (_ | a) d hd hfault
  · obtain rfl : d = .null := hd
    rfl
  · rw [hsome a d hd, h a d hd hfault]
    rfl

theorem Faithful.list (h : Faithful documents read) :
    Faithful (DocumentsList documents) (readSequence read) := by
  rintro as _ ⟨items, rfl, hitems⟩ hfault
  have hpassed := fault?_of_mem_items hfault
  clear hfault
  show items.mapM read = .ok as
  induction hitems with
  | nil => rfl
  | @cons a item as items ha hitems ih =>
    obtain ⟨hitem, hrest⟩ := List.forall_mem_cons.mp hpassed
    rw [List.mapM_cons, h a item ha hitem]
    simp only [bind, Except.bind, ih hrest, pure, Except.pure]

/-! ## Members of a record -/

/-- A member of a record: its name, when it may be left out, and which values it may have. -/
structure Member where
  name : String
  omissible : Prop
  allows : Datum → Prop

/-- A member that documents a part and is never left out. -/
def Member.of (name : String) (documents : α → Datum → Prop) (a : α) : Member :=
  ⟨name, False, documents a⟩

/-- A member that documents a part and may be left out where that part is the default. -/
def Member.unless (name : String) (default : α) (documents : α → Datum → Prop) (a : α) : Member :=
  ⟨name, a = default, documents a⟩

/-- The value is a record with these members: each of them comes once, or is left out where it may
be. Neither the order nor any other entries matter. -/
def Comprises (members : List Member) (d : Datum) : Prop :=
  ∃ entries, d = .record entries ∧ ∀ m ∈ members,
    (∃ v, Once entries m.name v ∧ m.allows v) ∨ (m.omissible ∧ m.name ∉ entries.map (·.1))

/-- A record that gives the members in their order has them. -/
theorem comprises_record {members : List Member} {entries : List (String × Datum)}
    (hnodup : (members.map (·.name)).Nodup)
    (h : List.Forall₂ (fun m e => e.1 = m.name ∧ m.allows e.2) members entries) :
    Comprises members (.record entries) := by
  have hnames : members.map (·.name) = entries.map (·.1) := map_eq_map h fun _ _ he => he.1.symm
  refine ⟨entries, rfl, fun m hm => .inl ?_⟩
  obtain ⟨⟨name, v⟩, hmem, rfl, hallows⟩ := exists_related h hm
  exact ⟨v, once_of_nodup (by rwa [← hnames]) hmem, hallows⟩

/-- The field takes whatever the member may be. -/
def Field.Takes (field : Field) (m : Member) : Prop :=
  field.name = m.name ∧ ∀ v, m.allows v → v.fault? = none → field.check v = .ok ()

theorem Field.takes_of (h : Faithful documents read) (name : String) (absence : Absence) (a : α) :
    (Field.of name read absence).Takes (.of name documents a) :=
  ⟨rfl, fun v hv hfault => check_of (h a v hv hfault)⟩

theorem Field.takes_unless (h : Faithful documents read) (name : String) (absence : Absence)
    (default a : α) : (Field.of name read absence).Takes (.unless name default documents a) :=
  ⟨rfl, fun v hv hfault => check_of (h a v hv hfault)⟩

/-- The member has been found, or it may be left out and is not there. -/
def Fields.Found (found : Fields) (m : Member) : Prop :=
  (∃ v, found.value? m.name = some v ∧ m.allows v ∧ v.fault? = none) ∨
    (m.omissible ∧ found.value? m.name = none)

/-- **What is collected of a record with these members** are these members. -/
theorem exists_collect_of_comprises (shape : Shape) {members : List Member} {d : Datum}
    (h : Comprises members d) (hfault : d.fault? = none)
    (htakes : List.Forall₂ Field.Takes shape.fields members) (source : Source) :
    ∃ found, shape.collect source d = .ok found ∧ ∀ m ∈ members, found.Found m := by
  obtain ⟨entries, rfl, hmembers⟩ := h
  have hpassed := fault?_of_mem_entries hfault
  obtain ⟨found, hcollect⟩ := shape.exists_collect_record source
    (fun field hfield => by
      obtain ⟨m, hm, hname, htaken⟩ := exists_related htakes hfield
      rw [hname]
      obtain ⟨v, honce, hv⟩ | ⟨-, habsent⟩ := hmembers m hm
      · exact .inl ⟨v, honce, htaken v hv (hpassed _ honce.mem)⟩
      · exact .inr habsent)
    fun e he _ => hpassed e he
  have hnames : shape.names = members.map (·.name) := map_eq_map htakes fun _ _ h => h.1
  refine ⟨found, hcollect, fun m hm => ?_⟩
  have hname : m.name ∈ shape.names := by
    rw [hnames]
    exact List.mem_map_of_mem hm
  have hvalue := Shape.value?_of_collect source hcollect hname
  obtain ⟨v, honce, hv⟩ | ⟨homissible, habsent⟩ := hmembers m hm
  · exact .inl ⟨v, hvalue.trans honce.lookup, hv, hpassed _ honce.mem⟩
  · exact .inr ⟨homissible, hvalue.trans (lookup_of_not_mem habsent)⟩

namespace Fields.Found

variable {found : Fields} {name : String} {a : α}

/-- A member that has been found is read as what it documents. -/
theorem required (h : found.Found (.of name documents a)) (hread : Faithful documents read) :
    found.required name read = .ok a := by
  obtain ⟨v, hvalue, hv, hfault⟩ | ⟨⟨⟩, -⟩ := h
  have hvalue : found.value? name = some v := hvalue
  rw [Fields.required, hvalue]
  exact hread a v hv hfault

/-- A member that has been left out is taken from the default. -/
theorem withDefault {default : α} (h : found.Found (.unless name default documents a))
    (hread : Faithful documents read) : found.withDefault name default read = .ok a := by
  obtain ⟨v, hvalue, hv, hfault⟩ | ⟨homissible, hvalue⟩ := h
  · have hvalue : found.value? name = some v := hvalue
    rw [Fields.withDefault, hvalue]
    exact hread a v hv hfault
  · have hvalue : found.value? name = none := hvalue
    have homissible : a = default := homissible
    rw [Fields.withDefault, hvalue, homissible]

end Fields.Found

/-! ## Parts of a value -/

namespace Shape

variable (shape : Shape) (source : Source)

/-- The value of a field in a value that a record may be read of: under the name of the field in a
map, or at its place in an array. -/
inductive Has : Datum → String → Datum → Prop
  | entry {entries : List (Datum × Datum)} {name : String} {v : Datum}
      (h : (Datum.text name, v) ∈ entries) : Has (.map entries) name v
  | item {items : List Datum} {i : Nat} {name : String} {v : Datum}
      (hname : shape.names[i]? = some name) (h : items[i]? = some v) : Has (.sequence items) name v

/-- The value is a map in which a known name is repeated. -/
def Repeats (d : Datum) : Prop :=
  ∃ entries name, d = .map entries ∧ name ∈ shape.names ∧
    List.Duplicate (Datum.text name) (entries.map (·.1))

variable {shape}

/-- Where no two fields have one name, each is found under its own. -/
theorem field?_of_getElem? (hnodup : shape.names.Nodup) {i : Nat} {field : Field}
    (h : shape.fields[i]? = some field) : shape.field? field.name = some field := by
  have hname : shape.names[i]? = some field.name := by simp [names, h]
  obtain ⟨hi, hget⟩ := List.getElem?_eq_some_iff.mp hname
  have hindex : shape.names.idxOf? field.name = some i := by
    refine List.idxOf?_eq_some_iff.mpr ⟨hi, hget, fun j hj heq => ?_⟩
    exact Nat.ne_of_lt hj (hnodup.getElem_inj_iff.mp (heq.trans hget.symm))
  rw [field?, hindex]
  exact h

/-- **What is collected of an array**: its items, no name twice, and each taken by the field at its
place. -/
theorem eq_of_collectItems {fields : List Field} {items : List Datum} {found found' : Fields}
    (h : shape.collectItems source found fields items = .ok found') :
    found' = found ++ named (fields.zip items) ∧
      ((found.map (·.1) ++ fields.map (·.name)).Nodup → (found'.map (·.1)).Nodup) ∧
        ∀ e ∈ fields.zip items, e.1.check e.2 = .ok () := by
  induction fields generalizing items found with
  | nil =>
    cases items with
    | nil =>
      cases h
      simp [named]
    | cons item items => cases h
  | cons field fields ih =>
    cases items with
    | nil =>
      rw [collectItems] at h
      cases habsence : field.absence with
      | refused =>
        rw [habsence] at h
        cases h
      | defaulted =>
        rw [habsence] at h
        obtain ⟨heq, hnodup, -⟩ := ih h
        refine ⟨by simpa using heq, fun hnames => hnodup (hnames.sublist ?_), by simp⟩
        exact (List.sublist_cons_self _ _).append_left _
    | cons item items =>
      rw [collectItems] at h
      cases hcheck : field.check item with
      | error mismatch =>
        rw [hcheck] at h
        cases h
      | ok _ =>
        rw [hcheck] at h
        obtain ⟨heq, hnodup, htaken⟩ := ih h
        refine ⟨by simp [heq, named], fun hnames => hnodup ?_,
          List.forall_mem_cons.mpr ⟨hcheck, htaken⟩⟩
        rwa [List.map_append, List.map_singleton, List.append_assoc]

/-- **What is collected is what the value has**, taken by the field with its name. -/
theorem of_collect (hnodup : shape.names.Nodup) {d : Datum} {found : Fields}
    (h : shape.collect source d = .ok found) {name : String} {v : Datum}
    (hhas : shape.Has d name v) {field : Field} (hfield : shape.field? name = some field) :
    found.value? name = some v ∧ field.check v = .ok () := by
  cases hhas with
  | @entry entries _ _ hmem =>
    have hcollect : shape.collectEntries source [] entries = .ok found := h
    obtain ⟨rfl, hfound, htaken⟩ := eq_of_collectEntries source hcollect
    have hkey : shape.fieldOf? source (.text name) = some field := hfield
    obtain ⟨-, rfl⟩ := eq_of_field? hfield
    refine ⟨(once_of_nodup (hfound List.nodup_nil) ?_).lookup, htaken _ hmem field hkey⟩
    exact List.mem_filterMap.mpr ⟨_, hmem, by rw [hkey]; rfl⟩
  | @item items i _ _ hname hitem =>
    have hcollect : shape.collectItems source [] shape.fields items = .ok found := h
    obtain ⟨rfl, hfound, htaken⟩ := eq_of_collectItems source hcollect
    obtain ⟨field', hget, rfl⟩ := Option.map_eq_some_iff.mp
      ((List.getElem?_map (f := Field.name)).symm.trans hname)
    obtain rfl := Option.some.inj (hfield.symm.trans (field?_of_getElem? hnodup hget))
    have hmem : (field, v) ∈ shape.fields.zip items :=
      List.mem_of_getElem? (List.getElem?_zip_eq_some.mpr ⟨hget, hitem⟩)
    exact ⟨(once_of_nodup (hfound hnodup) (List.mem_map.mpr ⟨_, hmem, rfl⟩)).lookup,
      htaken _ hmem⟩

/-- A value with a part that its field does not take is not collected. -/
theorem fails_collect_of_has (hnodup : shape.names.Nodup) {d v : Datum} {name : String}
    (hhas : shape.Has d name v) {field : Field} (hfield : shape.field? name = some field)
    (h : Fails (field.check v)) : Fails (shape.collect source d) := by
  cases hcollect : shape.collect source d with
  | error mismatch => exact ⟨mismatch, rfl⟩
  | ok found =>
    obtain ⟨mismatch, hcheck⟩ := h
    rw [(of_collect source hnodup hcollect hhas hfield).2] at hcheck
    cases hcheck

/-- **No known name is repeated.** -/
theorem fails_collect_of_repeats {d : Datum} (h : shape.Repeats d) :
    Fails (shape.collect source d) := by
  obtain ⟨entries, name, rfl, hname, hduplicate⟩ := h
  cases hcollect : shape.collect source (.map entries) with
  | error mismatch => exact ⟨mismatch, rfl⟩
  | ok found =>
    have hcollect : shape.collectEntries source [] entries = .ok found := hcollect
    obtain ⟨rfl, hfound, -⟩ := eq_of_collectEntries source hcollect
    have hfield : ∃ field, shape.fieldOf? source (.text name) = some field :=
      Option.ne_none_iff_exists'.mp fun hnone => field?_eq_none_iff.mp hnone hname
    obtain ⟨field, hfield⟩ := hfield
    have hnames : (shape.recognised source entries).map (·.1) =
        (entries.map (·.1)).filterMap fun key => (shape.fieldOf? source key).map Field.name := by
      rw [recognised, List.map_filterMap, List.filterMap_map]
      refine List.filterMap_congr fun e _ => ?_
      rw [Option.map_map]
      rfl
    have htwice := (List.duplicate_iff_sublist.mp hduplicate).filterMap
      fun key => (shape.fieldOf? source key).map Field.name
    rw [← hnames, List.filterMap_cons, List.filterMap_cons, hfield] at htwice
    exact absurd htwice (List.nodup_iff_sublist.mp (hfound List.nodup_nil) _)

end Shape

end Container.Datum
