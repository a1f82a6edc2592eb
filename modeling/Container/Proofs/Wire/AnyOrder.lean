import Container.Proofs.Datum.Kinds
import Container.Proofs.Wire.RoundTrip

set_option autoImplicit false

/-!
# Messages in any order and in any form

A message is recognised by its kind and by the fields of that kind: in whatever order they come,
whatever else stands between them, and in whichever of its forms each of them is written. A kind or
a field that is missing, or that comes twice, is refused.

## Main definitions

* `Datum.Same` — values that differ at most in how a number was written.
* `Wire.Conveys` — entries that give the kind and the fields of a message.
* `Wire.Recognised` — a message that is recognised by its kind and its fields alone.

## Main results

* `Wire.recognised_messages` — every message is.
-/

namespace Container

open Datum MessagePack

/-! ## Values -/

namespace Datum

/-- The whole number that a value is, if it is one. -/
def number? : Datum → Option Int
  | .natural n _ => some n
  | .integer i => some i
  | _ => none

/-- The values are equal, or are the same whole number. -/
def Same (d d' : Datum) : Prop := d' = d ∨ ∃ i, d.number? = some i ∧ d'.number? = some i

namespace Same

variable {d d' : Datum}

theorem refl (d : Datum) : Same d d := .inl rfl

/-- How a whole number was written makes no difference to what it is read as. -/
theorem readInt_of_number? {i : Int} (h : d.number? = some i) (low high : Int)
    (expected : Expected) : readInt low high expected d = readInt.check low high expected i := by
  cases d <;> cases h <;> rfl

theorem readInt_eq (h : Same d d') (low high : Int) (expected : Expected) :
    readInt low high expected d' = readInt low high expected d := by
  obtain rfl | ⟨i, hi, hi'⟩ := h
  · rfl
  · rw [readInt_of_number? hi, readInt_of_number? hi']

theorem readInt32_eq (h : Same d d') : readInt32 d' = readInt32 d := by
  rw [readInt32, h.readInt_eq, readInt32]

theorem readUInt64_eq (h : Same d d') : readUInt64 d' = readUInt64 d := by
  rw [readUInt64, h.readInt_eq, readUInt64]

/-- A whole number is no text, however it was written. -/
theorem readTextAs_of_number? {i : Int} (h : d.number? = some i) (expected : Expected) :
    readTextAs expected d = .error (.wrongType (.integer i) expected) := by
  cases d <;> cases h <;> rfl

theorem readTextAs_eq (h : Same d d') (expected : Expected) :
    readTextAs expected d' = readTextAs expected d := by
  obtain rfl | ⟨i, hi, hi'⟩ := h
  · rfl
  · rw [readTextAs_of_number? hi, readTextAs_of_number? hi']

theorem readText_eq (h : Same d d') : readText d' = readText d := h.readTextAs_eq .text

theorem readPath_eq (h : Same d d') : readPath d' = readPath d := by
  rw [readPath, h.readTextAs_eq, readPath]

/-- A text is the same as no other value. -/
theorem eq_text {s : String} (h : Same (.text s) d) : d = .text s := by
  obtain rfl | ⟨i, hi, -⟩ := h
  · rfl
  · cases hi

/-- What is the same as a value that is held back as it is, is too. -/
theorem hold_eq (h : Same d d') {depth : Option Nat} (hself : d.hold depth = .ok d) :
    d'.hold depth = .ok d' := by
  obtain rfl | ⟨i, -, hi'⟩ := h
  · exact hself
  · cases d' <;> cases hi' <;> simp [hold]

end Same

/-- The entries have the same names, in order, and the same values. -/
def SameEntries : List (String × Datum) → List (String × Datum) → Prop :=
  List.Forall₂ fun e e' => e'.1 = e.1 ∧ Same e.2 e'.2

namespace SameEntries

variable {entries entries' : List (String × Datum)}

theorem names (h : SameEntries entries entries') :
    entries'.map (·.1) = entries.map (·.1) := by
  induction h with
  | nil => rfl
  | cons he _ ih => rw [List.map_cons, List.map_cons, he.1, ih]

theorem exists_mem (h : SameEntries entries entries') {name : String} {d : Datum}
    (hmem : (name, d) ∈ entries) : ∃ d', Same d d' ∧ (name, d') ∈ entries' := by
  induction h with
  | nil => cases hmem
  | @cons e e' _ _ he _ ih =>
    obtain ⟨name', d'⟩ := e'
    obtain ⟨rfl, hsame⟩ := he
    rcases List.mem_cons.mp hmem with rfl | hmem
    · exact ⟨d', hsame, List.mem_cons_self⟩
    · obtain ⟨d', hsame, hd'⟩ := ih hmem
      exact ⟨d', hsame, List.mem_cons_of_mem _ hd'⟩

end SameEntries
end Datum

namespace Wire

/-! ## Entries -/

/-- The entries are those of a message of this kind with these fields, in any order, among others
with names that no field of the kind has. -/
def Conveys (kind : String) (fields entries : List (String × Datum)) : Prop :=
  ∃ own other, entries.Perm (own ++ other) ∧
    SameEntries ((Variants.tag, .text kind) :: fields) own ∧
      ∀ e ∈ other, e.1 ∉ Variants.tag :: fields.map (·.1)

/-- The kind and each of the fields come once, with the same value. -/
theorem Conveys.once {kind : String} {fields entries : List (String × Datum)}
    (h : Conveys kind fields entries) (hnodup : (Variants.tag :: fields.map (·.1)).Nodup)
    {name : String} {d : Datum} (hmem : (name, d) ∈ (Variants.tag, .text kind) :: fields) :
    ∃ d', Same d d' ∧ Once entries name d' := by
  obtain ⟨own, other, hperm, hown, hother⟩ := h
  obtain ⟨d', hsame, hmem'⟩ := hown.exists_mem hmem
  have hothers : other.filter (·.1 = name) = [] := by
    rw [List.filter_eq_nil_iff]
    intro e he heq
    obtain rfl : e.1 = name := by simpa using heq
    have hname : e.1 ∈ ((Variants.tag, Datum.text kind) :: fields).map (·.1) :=
      List.mem_map.mpr ⟨_, hmem, rfl⟩
    exact hother e he hname
  refine ⟨d', hsame, Once.perm ?_ hperm.symm⟩
  rw [Once, List.filter_append, hothers, List.append_nil]
  exact once_of_nodup (by rw [hown.names]; exact hnodup) hmem'

/-! ## Content -/

/-- The name comes once, with a value that is read so. -/
def Reads {α : Type} (entries : List (String × Datum)) (name : String) (read : Datum → Reading α)
    (a : α) : Prop :=
  ∃ d, Once entries name d ∧ read d = .ok a

end Wire

open Wire

variable {entries : List (String × Datum)}

/-- What has been collected of a record in which a field comes once is that field. -/
theorem Wire.Reads.required {α : Type} {shape : Shape} {source : Source} {found : Fields}
    {name : String} {read : Datum → Reading α} {a : α} (h : Reads entries name read a)
    (hcollect : shape.collect source (.record entries) = .ok found) (hname : name ∈ shape.names) :
    found.required name read = .ok a := by
  obtain ⟨d, honce, hread⟩ := h
  rw [Fields.required, Shape.value?_of_collect source hcollect hname, honce.lookup]
  exact hread

theorem Wire.Reads.check {α : Type} {name : String} {read : Datum → Reading α} {a : α}
    (h : Reads entries name read a) :
    ∃ d, Once entries name d ∧ (Field.of name read).check d = .ok () := by
  obtain ⟨d, honce, hread⟩ := h
  exact ⟨d, honce, Field.check_of hread⟩

/-- A mount request whose fields come once each, whatever else is there. -/
theorem MountRequest.read_entries {request : MountRequest} (source : Source)
    (hwhole : ∀ e ∈ entries, e.2.Whole) (hsource : Reads entries "source" readPath request.source)
    (htarget : Reads entries "target" readPath request.target)
    (hfstype : Reads entries "fstype" readText request.fstype)
    (hflags : Reads entries "flags" readUInt64 request.flags)
    (hdata : Reads entries "data" readText request.data) :
    MountRequest.read source (.record entries) = .ok request := by
  obtain ⟨found, hcollect⟩ := shape.exists_collect_record source
    (by
      simp only [shape, List.forall_mem_cons]
      exact ⟨.inl hsource.check, .inl htarget.check, .inl hfstype.check, .inl hflags.check,
        .inl hdata.check, by simp⟩)
    fun e he _ => (hwhole e he).fault?
  have hnames : ∀ name ∈ ["source", "target", "fstype", "flags", "data"], name ∈ shape.names := by
    decide
  simp only [MountRequest.read, hcollect, bind, Except.bind,
    hsource.required hcollect (hnames _ (by decide)),
    htarget.required hcollect (hnames _ (by decide)),
    hfstype.required hcollect (hnames _ (by decide)),
    hflags.required hcollect (hnames _ (by decide)),
    hdata.required hcollect (hnames _ (by decide))]
  rfl

/-- The content of a message with one field, which comes once, whatever else is there. -/
theorem Datum.readSingle_entries {α : Type} {shapeName name : String} {read : Datum → Reading α}
    {a : α} (hwhole : ∀ e ∈ entries, e.2.Whole) (h : Reads entries name read a) :
    readSingle shapeName name read (.record entries) = .ok a := by
  obtain ⟨found, hcollect⟩ := (Shape.mk shapeName [.of name read]).exists_collect_record .held
    (by simpa using .inl h.check) fun e he _ => (hwhole e he).fault?
  simp only [readSingle, hcollect, bind, Except.bind]
  exact h.required hcollect (by simp [Shape.names, Field.of])

/-! ## Messages -/

section Kinds

variable {α : Type} {variants : Variants α} {kind : String} {i : Nat}
  {fields : List (String × Datum)}

/-- A record that gives the kind and the fields of a message is what its content is read as. -/
theorem Wire.Conveys.read (h : Conveys kind fields entries)
    (hindex : variants.names.idxOf? kind = some i)
    (hnodup : (Variants.tag :: fields.map (·.1)).Nodup)
    (hself : ∀ f ∈ fields, f.2.hold none = .ok f.2) (hwhole : ∀ e ∈ entries, e.2.Whole) {a : α}
    (hcontent : ∀ held : List (String × Datum), (∀ e ∈ held, e.2.Whole) →
      (∀ f ∈ fields, ∃ d, Same f.2 d ∧ Once held f.1 d) →
        variants.content i (.record held) = .ok a) :
    variants.read .packed (.record entries) = .ok a := by
  have hothers : ∀ e ∈ entries.filter (·.1 ≠ Variants.tag), e.2.Whole := fun e he =>
    hwhole e (List.mem_filter.mp he).1
  obtain ⟨held, hheld, hheldWhole⟩ := @Variants.exists_held .packed rfl _ hothers
  obtain ⟨d, hsame, htag⟩ := h.once hnodup List.mem_cons_self
  obtain rfl := hsame.eq_text
  have hkind : variants.kindIndex .packed (.text kind) = .ok i := by
    simp only [Variants.kindIndex, hindex]
  refine (variants.read_record_iff .packed).mpr ⟨_, i, held, htag, hkind, hheld, ?_⟩
  refine hcontent held hheldWhole fun f hf => ?_
  obtain ⟨d, hsame, honce⟩ := h.once hnodup (List.mem_cons_of_mem _ hf)
  have hname : f.1 ≠ Variants.tag := by
    rintro heq
    exact (List.nodup_cons.mp hnodup).1 (List.mem_map.mpr ⟨f, hf, heq⟩)
  have hfilter : Once (entries.filter (·.1 ≠ Variants.tag)) f.1 d :=
    Once.filter (fun name => decide (name ≠ Variants.tag)) honce (by simpa using hname)
  exact ⟨d, hsame, hheld.once hfilter (hsame.hold_eq (hself f hf))⟩

/-- A record that gives a field of its kind not exactly once is refused if the content is. -/
theorem Wire.fails_read_of_count (hindex : variants.names.idxOf? kind = some i)
    (hkind : (Variants.tag, .text kind) ∈ entries) {name : String} (hname : name ≠ Variants.tag)
    (hcount : (entries.map (·.1)).count name ≠ 1)
    (hcontent : ∀ held : List (String × Datum), (held.map (·.1)).count name ≠ 1 →
      Fails (variants.content i (.record held))) :
    Fails (variants.read .packed (.record entries)) := by
  cases hread : variants.read .packed (.record entries) with
  | error mismatch => exact ⟨mismatch, rfl⟩
  | ok a =>
    obtain ⟨d, i', held, honce, hkind', hheld, hread⟩ := (variants.read_record_iff .packed).mp hread
    obtain rfl := honce.eq_of_mem hkind
    simp only [Variants.kindIndex, hindex, Except.ok.injEq] at hkind'
    subst hkind'
    have hcount' : (held.map (·.1)).count name ≠ 1 := by
      rwa [hheld.names,
        count_filter (fun name => decide (name ≠ Variants.tag)) (by simpa using hname)]
    obtain ⟨mismatch, hfails⟩ := hcontent held hcount'
    rw [hread] at hfails
    cases hfails

/-- A record that does not give its kind once is refused. -/
theorem Wire.fails_read_of_count_tag (hcount : (entries.map (·.1)).count Variants.tag ≠ 1) :
    Fails (variants.read .packed (.record entries)) := by
  cases hread : variants.read .packed (.record entries) with
  | error mismatch => exact ⟨mismatch, rfl⟩
  | ok a =>
    obtain ⟨d, -, -, honce, -⟩ := (variants.read_record_iff .packed).mp hread
    exact absurd honce.count hcount

end Kinds

/-- A mount request needs each of its fields once. -/
theorem MountRequest.fails_read (source : Source) {name : String}
    (hname : name ∈ ["source", "target", "fstype", "flags", "data"])
    (hcount : (entries.map (·.1)).count name ≠ 1) :
    Fails (MountRequest.read source (.record entries)) := by
  refine Shape.fails_of_count_ne_one source hname hcount fun found habsent => ?_
  have hmissed {α : Type} (read : Datum → Reading α) : Fails (found.required name read) :=
    Fields.fails_required habsent read
  simp only [List.mem_cons, List.not_mem_nil, or_false] at hname
  obtain rfl | rfl | rfl | rfl | rfl := hname
  · exact (hmissed _).bind _
  · exact .after _ fun _ => (hmissed _).bind _
  · exact .after _ fun _ => .after _ fun _ => (hmissed _).bind _
  · exact .after _ fun _ => .after _ fun _ => .after _ fun _ => (hmissed _).bind _
  · exact .after _ fun _ => .after _ fun _ => .after _ fun _ => .after _ fun _ =>
      (hmissed _).bind _

/-- The content of a message with one field needs that field once. -/
theorem Datum.fails_readSingle {α : Type} {name : String}
    (hcount : (entries.map (·.1)).count name ≠ 1) (shapeName : String)
    (read : Datum → Reading α) : Fails (readSingle shapeName name read (.record entries)) :=
  Shape.fails_of_count_ne_one .held (by simp [Shape.names, Field.of]) hcount
    fun _ habsent => Fields.fails_required habsent read

/-- Entries that give a kind with one field are read as the content that the field is. -/
theorem Wire.Conveys.readSingle {α β : Type} {variants : Variants α} {kind name : String} {i : Nat}
    {d : Datum} (h : Conveys kind [(name, d)] entries)
    (hindex : variants.names.idxOf? kind = some i) (hname : name ≠ Variants.tag)
    (hself : d.hold none = .ok d) (hwhole : ∀ e ∈ entries, e.2.Whole)
    {shapeName : String} {read : Datum → Reading β} {f : β → α} {b : β}
    (hcontent : variants.content i = fun d => f <$> Datum.readSingle shapeName name read d)
    (hread : ∀ d', Same d d' → read d' = .ok b) :
    variants.read .packed (.record entries) = .ok (f b) := by
  refine h.read hindex (by simpa using hname.symm) (by simpa using hself) hwhole
    fun held hheld honce => ?_
  obtain ⟨d', hsame, hd'⟩ := honce (name, d) (by simp)
  have hsingle : Datum.readSingle shapeName name read (.record held) = .ok b :=
    readSingle_entries hheld ⟨d', hd', hread d' hsame⟩
  simp only [hcontent, hsingle]
  rfl

/-- Entries that give a mount are read as that mount. -/
theorem Request.read_mount {s t fstype data : String} {flags : UInt64}
    (h : Conveys "Mount" [("source", .text s), ("target", .text t), ("fstype", .text fstype),
      ("flags", .nat flags.toNat), ("data", .text data)] entries)
    (hwhole : ∀ e ∈ entries, e.2.Whole) : Request.read .packed (.record entries) =
      .ok (.mount ⟨.ofText s, .ofText t, fstype, flags, data⟩) := by
  have hindex : variants.names.idxOf? "Mount" = some 0 := rfl
  refine h.read hindex (by simp [Variants.tag]) (by simp) hwhole fun held hheld honce => ?_
  simp only [List.forall_mem_cons] at honce
  obtain ⟨⟨ds, hs, hsource⟩, ⟨dt, ht, htarget⟩, ⟨df, hf, hfstype⟩, ⟨dn, hn, hflags⟩,
    ⟨dd, hd, hdata⟩, -⟩ := honce
  have hread : MountRequest.read .held (.record held) =
      .ok ⟨.ofText s, .ofText t, fstype, flags, data⟩ :=
    MountRequest.read_entries .held hheld ⟨ds, hsource, by rw [hs.readPath_eq, readPath_text]⟩
      ⟨dt, htarget, by rw [ht.readPath_eq, readPath_text]⟩
      ⟨df, hfstype, by rw [hf.readText_eq, readText_text]⟩
      ⟨dn, hflags, by rw [hn.readUInt64_eq, readUInt64_nat]⟩
      ⟨dd, hdata, by rw [hd.readText_eq, readText_text]⟩
  show Request.mount <$> MountRequest.read .held _ = _
  rw [hread]
  rfl

/-- **A request in any order**: it has fields, and entries that give them and its kind are read as
it. -/
theorem Request.Valued.read_conveyed {request : Request} {d : Datum} (h : request.Valued d) :
    ∃ fields, fields.map (·.1) = request.fieldNames ∧ d = .tagged request.kind fields ∧
      ∀ entries, Conveys request.kind fields entries → (∀ e ∈ entries, e.2.Whole) →
        Request.read .packed (.record entries) = .ok request := by
  cases h with
  | mount s t fstype data flags =>
    exact ⟨_, rfl, rfl, fun entries hconveys hwhole => Request.read_mount hconveys hwhole⟩
  | chroot s =>
    refine ⟨_, rfl, rfl, fun entries hconveys hwhole => ?_⟩
    have hindex : variants.names.idxOf? "Chroot" = some 1 := rfl
    refine hconveys.readSingle hindex (by decide) (by simp) hwhole rfl fun d' hsame => ?_
    rw [hsame.readPath_eq, readPath_text]
  | ping =>
    refine ⟨_, rfl, rfl, fun entries hconveys hwhole => ?_⟩
    have hindex : variants.names.idxOf? "Ping" = some 2 := rfl
    exact hconveys.read hindex (by decide) (by simp) hwhole fun _ _ _ => rfl

/-- **A response in any order**: it has fields, and entries that give them and its kind are read as
it. -/
theorem Response.read_conveyed (response : Response) :
    ∃ fields, fields.map (·.1) = response.fieldNames ∧
      response.toDatum = .tagged response.kind fields ∧
      ∀ entries, Conveys response.kind fields entries → (∀ e ∈ entries, e.2.Whole) →
        Response.read .packed (.record entries) = .ok response := by
  cases response with
  | mount code =>
    refine ⟨_, rfl, rfl, fun entries hconveys hwhole => ?_⟩
    have hindex : variants.names.idxOf? "Mount" = some 0 := rfl
    refine hconveys.readSingle hindex (by decide) (by simp) hwhole rfl fun d' hsame => ?_
    rw [hsame.readInt32_eq, readInt32_int]
  | chroot code =>
    refine ⟨_, rfl, rfl, fun entries hconveys hwhole => ?_⟩
    have hindex : variants.names.idxOf? "Chroot" = some 1 := rfl
    refine hconveys.readSingle hindex (by decide) (by simp) hwhole rfl fun d' hsame => ?_
    rw [hsame.readInt32_eq, readInt32_int]
  | pong =>
    refine ⟨_, rfl, rfl, fun entries hconveys hwhole => ?_⟩
    have hindex : variants.names.idxOf? "Pong" = some 2 := rfl
    exact hconveys.read hindex (by decide) (by simp) hwhole fun _ _ _ => rfl
  | error message =>
    refine ⟨_, rfl, rfl, fun entries hconveys hwhole => ?_⟩
    have hindex : variants.names.idxOf? "Error" = some 3 := rfl
    refine hconveys.readSingle hindex (by decide) (by simp) hwhole rfl fun d' hsame => ?_
    rw [hsame.readText_eq, readText_text]

/-- Entries that name the kind of a request and do not give each of its fields once are refused. -/
theorem Request.fails_read_of_count {request : Request}
    (hkind : (Variants.tag, .text request.kind) ∈ entries) {name : String}
    (hname : name ∈ request.fieldNames) (hcount : (entries.map (·.1)).count name ≠ 1) :
    Fails (Request.read .packed (.record entries)) := by
  have htag : name ≠ Variants.tag := by
    rintro rfl
    cases request <;> simp [fieldNames, Variants.tag] at hname
  cases request with
  | mount request =>
    have hindex : variants.names.idxOf? "Mount" = some 0 := rfl
    exact Wire.fails_read_of_count hindex hkind htag hcount fun held hheld =>
      (MountRequest.fails_read .held hname hheld).map _
  | chroot path =>
    obtain rfl := List.mem_singleton.mp hname
    have hindex : variants.names.idxOf? "Chroot" = some 1 := rfl
    exact Wire.fails_read_of_count hindex hkind htag hcount fun held hheld =>
      (fails_readSingle hheld _ _).map _
  | ping => cases hname

/-- Entries that name the kind of a response and do not give each of its fields once are
refused. -/
theorem Response.fails_read_of_count {response : Response}
    (hkind : (Variants.tag, .text response.kind) ∈ entries) {name : String}
    (hname : name ∈ response.fieldNames) (hcount : (entries.map (·.1)).count name ≠ 1) :
    Fails (Response.read .packed (.record entries)) := by
  have htag : name ≠ Variants.tag := by
    rintro rfl
    cases response <;> simp [fieldNames, Variants.tag] at hname
  cases response with
  | mount code =>
    obtain rfl := List.mem_singleton.mp hname
    have hindex : variants.names.idxOf? "Mount" = some 0 := rfl
    exact Wire.fails_read_of_count hindex hkind htag hcount fun held hheld =>
      (fails_readSingle hheld _ _).map _
  | chroot code =>
    obtain rfl := List.mem_singleton.mp hname
    have hindex : variants.names.idxOf? "Chroot" = some 1 := rfl
    exact Wire.fails_read_of_count hindex hkind htag hcount fun held hheld =>
      (fails_readSingle hheld _ _).map _
  | pong => cases hname
  | error message =>
    obtain rfl := List.mem_singleton.mp hname
    have hindex : variants.names.idxOf? "Error" = some 3 := rfl
    exact Wire.fails_read_of_count hindex hkind htag hcount fun held hheld =>
      (fails_readSingle hheld _ _).map _

/-! ## Bytes -/

namespace Wire

/-- A message of some kind, with fields of these names and of this value, that is recognised by them
alone. -/
structure Recognised {α : Type} (decode : Bytes → Reading α) (kind : String) (names : List String)
    (value : Datum) (message : α) : Prop where
  /-- It is a record of its kind and its fields. -/
  form : ∃ fields, fields.map (·.1) = names ∧ value = .tagged kind fields
  /-- Bytes of entries that give the kind and the fields are read as the message: in any order, with
  whatever other entries between them, and in whichever form they are written. -/
  read : ∀ fields, value = .tagged kind fields → ∀ entries bs, Conveys kind fields entries →
    Form depthLimit (.record entries) bs → ∀ rest, decode (bs ++ rest) = .ok message
  /-- Bytes of entries that name the kind and do not give each of the fields once are refused. -/
  refused : ∀ entries bs, Form depthLimit (.record entries) bs →
    (Variants.tag, .text kind) ∈ entries →
      ∀ name ∈ names, (entries.map (·.1)).count name ≠ 1 → ∀ rest, Fails (decode (bs ++ rest))

/-- A record of a kind has its fields only. -/
theorem fields_eq_of_tagged {kind : String} {fields fields' : List (String × Datum)}
    (h : Datum.tagged kind fields = .tagged kind fields') : fields = fields' := by
  have hmap := Datum.map.inj h
  rw [List.map_cons, List.map_cons, List.cons.injEq] at hmap
  refine List.map_injective_iff.mpr (fun f f' heq => ?_) hmap.2
  obtain ⟨name, d⟩ := f
  obtain ⟨name', d'⟩ := f'
  simpa using heq

/-- What a form of a value is decoded to. -/
theorem decode_form {α : Type} (reader : Datum → Reading α) {d : Datum} {bs : Bytes}
    (h : Form depthLimit d bs) (rest : Bytes) :
    MessagePack.decode reader (bs ++ rest) = reader d := by
  rw [MessagePack.decode, MessagePack.read, readValue_form h rest]

/-- The values of a record with a form are legible in all their parts. -/
theorem whole_of_form {depth : Nat} {entries : List (String × Datum)} {bs : Bytes}
    (h : Form depth (.record entries) bs) : ∀ e ∈ entries, e.2.Whole := by
  have hwhole := h.whole
  rw [record] at hwhole
  cases hwhole with
  | map hkeys hvalues =>
    exact fun e he => hvalues (.text e.1, e.2) (List.mem_map.mpr ⟨e, he, rfl⟩)

/-- A head and after it each name and its value, each in one of its forms, are a form of a
record. -/
theorem form_record {depth : Nat} {head : Bytes} {entries : List ((String × Bytes) × Datum × Bytes)}
    (hhead : Heads.map.Tells entries.length head)
    (hentries : ∀ e ∈ entries, Form depth (.text e.1.1) e.1.2 ∧ Form depth e.2.1 e.2.2) :
    Form (depth + 1) (.record (entries.map fun e => (e.1.1, e.2.1)))
      (head ++ entries.flatMap fun e => e.1.2 ++ e.2.2) := by
  have hmap := @Form.map depth head (entries.map fun e => ((.text e.1.1, e.1.2), e.2))
    (by rwa [List.length_map]) (List.forall_mem_map.mpr fun e he => (hentries e he).1)
    (List.forall_mem_map.mpr fun e he => (hentries e he).2)
  simpa [record, Function.comp_def, List.flatMap_map] using hmap

/-- **Messages in any order and in any form**: every message that has a value is recognised by its
kind and its fields, and a record that does not give its kind once is no message.

**Proof sketch.** Every form of a record is read as the record (`decode_form`). What it is read as
depends on the value that each known name comes with: what stands elsewhere is held back and passed
over, and the fields themselves are held back as they are, however their numbers were written
(`Request.Valued.read_conveyed`, `Response.read_conveyed`). A record of which something has been
read gave its kind and the fields of that kind once each, so one that names a field of its kind
never, or twice, is refused (`Request.fails_read_of_count`), and so is one that does not give its
kind once, for both sides (`fails_read_of_count_tag`). -/
theorem recognised_messages :
    (∀ (request : Request) (d : Datum), request.toDatum? = some d →
      Recognised Request.decode request.kind request.fieldNames d request) ∧
    (∀ response : Response, Recognised Response.decode response.kind response.fieldNames
      response.toDatum response) ∧
    ∀ entries bs, Form depthLimit (.record entries) bs →
      (entries.map (·.1)).count Variants.tag ≠ 1 → ∀ rest, HoldsNoMessage (bs ++ rest) := by
  refine ⟨fun request d hd => ?_, fun response => ?_, fun entries bs hform hcount rest => ?_⟩
  · obtain ⟨fields, hnames, hvalue, hread⟩ := (Request.valued_of_toDatum? hd).read_conveyed
    refine ⟨⟨fields, hnames, hvalue⟩, ?_, ?_⟩
    · intro fields' hvalue' entries bs hconveys hform rest
      obtain rfl := fields_eq_of_tagged (hvalue'.symm.trans hvalue)
      exact (decode_form _ hform rest).trans (hread entries hconveys (whole_of_form hform))
    · intro entries bs hform hkind name hname hcount rest
      rw [Request.decode, decode_form _ hform]
      exact Request.fails_read_of_count hkind hname hcount
  · obtain ⟨fields, hnames, hvalue, hread⟩ := response.read_conveyed
    refine ⟨⟨fields, hnames, hvalue⟩, ?_, ?_⟩
    · intro fields' hvalue' entries bs hconveys hform rest
      obtain rfl := fields_eq_of_tagged (hvalue'.symm.trans hvalue)
      exact (decode_form _ hform rest).trans (hread entries hconveys (whole_of_form hform))
    · intro entries bs hform hkind name hname hcount rest
      rw [Response.decode, decode_form _ hform]
      exact Response.fails_read_of_count hkind hname hcount
  · rw [HoldsNoMessage, Request.decode, Response.decode, decode_form _ hform, decode_form _ hform]
    exact ⟨fails_read_of_count_tag hcount, fails_read_of_count_tag hcount⟩

/-- The answer to a change of the root, with its kind last, its code in four bytes and a value that
nobody asked for before them. With its code twice it is refused. -/
theorem recognised_chroot_late :
    let other : Bytes := [0xD9, 1] ++ Utf8.bytes "x" ++ ([0xDC, 0, 1] ++ [0xC0])
    let code : Bytes := [0xA4] ++ Utf8.bytes "code" ++ [0xD2, 0, 0, 0, 5]
    let kind : Bytes := [0xA4] ++ Utf8.bytes "type" ++ ([0xDA, 0, 6] ++ Utf8.bytes "Chroot")
    Response.decode ([0xDF, 0, 0, 0, 3] ++ (other ++ code ++ kind) ++ [0xC1]) = .ok (.chroot 5) ∧
      Fails (Response.decode ([0x83] ++ (code ++ code ++ kind) ++ [])) := by
  intro other code kind
  have hshort (s : String) (head : UInt8) (h : head = UInt8.ofNat (0xA0 + (Utf8.bytes s).length))
      (hsize : (Utf8.bytes s).length < 2 ^ 5) : Form 1022 (.text s) ([head] ++ Utf8.bytes s) := by
    subst h
    exact .ofText _ (.short rfl hsize)
  have hcode := hshort "code" 0xA4 (by decide) (by decide)
  have htype := hshort "type" 0xA4 (by decide) (by decide)
  have hx : Form 1022 (.text "x") ([0xD9, 1] ++ Utf8.bytes "x") :=
    .ofText _ (@Heads.Tells.long _ _ 0xD9 1 (by decide) (by decide))
  have hkind : Form 1022 (.text "Chroot") ([0xDA, 0, 6] ++ Utf8.bytes "Chroot") :=
    .ofText _ (@Heads.Tells.long _ _ 0xDA 2 (by decide) (by decide))
  have hfive : Form 1022 (.integer 5) [0xD2, 0, 0, 0, 5] :=
    @Form.integer 1022 0xD2 4 5 (by decide) (by decide) (by decide)
  have hitems : Form 1022 (.sequence [.null]) ([0xDC, 0, 1] ++ [0xC0]) :=
    @Form.sequence 1021 [0xDC, 0, 1] [(.null, [0xC0])]
      (@Heads.Tells.long _ _ 0xDC 2 (by decide) (by decide)) (by simpa using Form.null 1021)
  have hread : Form depthLimit
      (.record [("x", .sequence [.null]), ("code", .integer 5), ("type", .text "Chroot")])
      ([0xDF, 0, 0, 0, 3] ++ (other ++ code ++ kind)) := by
    have hrecord := @form_record 1022 [0xDF, 0, 0, 0, 3]
      [(("x", _), _, _), (("code", _), _, _), (("type", _), _, _)]
      (@Heads.Tells.long _ _ 0xDF 4 (by decide) (by decide))
      (List.forall_mem_cons.mpr ⟨⟨hx, hitems⟩, List.forall_mem_cons.mpr ⟨⟨hcode, hfive⟩,
        List.forall_mem_cons.mpr ⟨⟨htype, hkind⟩, by simp⟩⟩⟩)
    simpa [other, code, kind, depthLimit] using hrecord
  have hrefused : Form depthLimit
      (.record [("code", .integer 5), ("code", .integer 5), ("type", .text "Chroot")])
      ([0x83] ++ (code ++ code ++ kind)) := by
    have hrecord := @form_record 1022 [0x83]
      [(("code", _), _, _), (("code", _), _, _), (("type", _), _, _)] (.short rfl (by decide))
      (List.forall_mem_cons.mpr ⟨⟨hcode, hfive⟩, List.forall_mem_cons.mpr ⟨⟨hcode, hfive⟩,
        List.forall_mem_cons.mpr ⟨⟨htype, hkind⟩, by simp⟩⟩⟩)
    simpa [code, kind, depthLimit] using hrecord
  have hconveys : Conveys "Chroot" [("code", .int 5)]
      [("x", .sequence [.null]), ("code", .integer 5), ("type", .text "Chroot")] := by
    refine ⟨[("type", .text "Chroot"), ("code", .integer 5)], [("x", .sequence [.null])], ?_, ?_,
      ?_⟩
    · exact (List.reverse_perm _).symm
    · exact .cons ⟨rfl, .refl _⟩ (.cons ⟨rfl, .inr ⟨5, rfl, rfl⟩⟩ .nil)
    · simp [Variants.tag]
  have hrecognised := recognised_messages.2.1 (.chroot 5)
  have hkindMem : (Variants.tag, .text (Response.chroot 5).kind) ∈
      [("code", .integer 5), ("code", .integer 5), ("type", Datum.text "Chroot")] := by
    simp [Variants.tag, Response.kind]
  exact ⟨hrecognised.read _ rfl _ _ hconveys hread _,
    hrecognised.refused _ _ hrefused hkindMem "code" (by decide) (by decide) []⟩

end Wire
end Container
