import Container.Datum.Record

set_option autoImplicit false

/-!
# Reading records in the order of their fields

A record that gives the fields of its shape in their order, each with a value that the field
takes, is collected as it stands; and a record that says first of which kind it is is read as the
content of that kind.

## Main definitions

* `Datum.named` — fields with values, by name.

## Main results

* `Datum.Shape.collect_record` — collecting a record with the fields of its shape.
* `Datum.Variants.read_tagged` — reading a record that begins with its tag.
-/

namespace Container.Datum

/-- Fields with values, by name. -/
def named (entries : List (Field × Datum)) : Fields := entries.map fun e => (e.1.name, e.2)

/-- A name is found where it comes first. -/
theorem idxOf?_middle {before after : List String} {name : String} (h : name ∉ before) :
    (before ++ name :: after).idxOf? name = some before.length := by
  induction before with
  | nil => simp [List.idxOf?_cons]
  | cons first before ih =>
    simp only [List.mem_cons, not_or] at h
    have hne : (first == name) = false := by simpa using fun heq => h.1 heq.symm
    rw [List.cons_append, List.idxOf?_cons, hne, ih h.2]
    rfl

/-! ## Fields -/

/-- A field takes what it can read. -/
theorem Field.check_of {β : Type} {name : String} {absence : Absence} {read : Datum → Reading β}
    {d : Datum} {b : β} (h : read d = .ok b) : (Field.of name read absence).check d = .ok () := by
  simp only [Field.of, h, Functor.map, Except.map]

namespace Shape

variable (shape : Shape) (source : Source)

/-- Fields that come in the order of the shape are added to those already found. -/
theorem collectEntries_named (hnames : shape.names.Nodup) {seen rest : List (Field × Datum)}
    (hfields : shape.fields = (seen ++ rest).map (·.1))
    (htaken : ∀ e ∈ rest, e.1.check e.2 = .ok ()) :
    shape.collectEntries source (named seen)
        ((named rest).map fun (name, value) => (.text name, value)) =
      .ok (named (seen ++ rest)) := by
  induction rest generalizing seen with
  | nil => simp [named, collectEntries]
  | cons e rest ih =>
    obtain ⟨field, value⟩ := e
    have hsplit : shape.names = seen.map (·.1.name) ++ field.name :: rest.map (·.1.name) := by
      simp [names, hfields, Function.comp_def]
    have hnew : field.name ∉ seen.map (·.1.name) := by
      rw [hsplit, List.nodup_append] at hnames
      intro hmem
      exact hnames.2.2 _ hmem _ (by simp) rfl
    have hindex : shape.names.idxOf? field.name = some seen.length := by
      rw [hsplit, idxOf?_middle hnew, List.length_map]
    have hget : shape.fields[seen.length]? = some field := by simp [hfields]
    have hfresh : (named seen).any (fun (name, _) => name = field.name) = false := by
      simpa [named] using hnew
    have hcheck : field.check value = .ok () := htaken (field, value) (by simp)
    have hshape : shape.fields = ((seen ++ [(field, value)]) ++ rest).map (·.1) := by
      simp [hfields]
    have hrest := ih hshape fun e he => htaken e (by simp [he])
    simp only [named, List.map_cons, List.map_append, List.map_nil] at hrest hfresh ⊢
    rw [collectEntries]
    simp only [keyIndex?, hindex, Except.bind, bind, Option.bind, hget, hfresh, hcheck]
    simpa using hrest

/-- A record with the fields of its shape, in their order, is collected as it stands. -/
theorem collect_record (hnames : shape.names.Nodup) (entries : List (Field × Datum))
    (hfields : shape.fields = entries.map (·.1)) (htaken : ∀ e ∈ entries, e.1.check e.2 = .ok ()) :
    shape.collect source (.record (named entries)) = .ok (named entries) :=
  @collectEntries_named shape source hnames [] entries hfields htaken

end Shape

/-! ## Kinds -/

namespace Variants

variable {α : Type} (variants : Variants α) (source : Source)

/-- Entries that are not the tag, and that are held back as they are, come after those already
held. -/
theorem split_held (kind : Nat) {fields : List (String × Datum)} (htag : ∀ f ∈ fields, f.1 ≠ tag)
    (hheld : ∀ f ∈ fields, f.2.hold ((heldDepth source).map (· - 1)) = .ok f.2)
    (held : List (Datum × Datum)) :
    variants.split source (some kind) held (fields.map fun (name, value) => (.text name, value)) =
      .ok (some kind,
        held.reverse ++ fields.map fun (name, value) => (.text name, value)) := by
  induction fields generalizing held with
  | nil => simp [split]
  | cons f fields ih =>
    obtain ⟨name, value⟩ := f
    have hname : isTag (.text name) = false := by
      simpa [isTag] using htag (name, value) (by simp)
    have hvalue := hheld (name, value) (by simp)
    have hrest := ih (fun f hf => htag f (by simp [hf])) (fun f hf => hheld f (by simp [hf]))
      ((.text name, value) :: held)
    simp only [List.map_cons, split, hname, hold, Except.bind, bind]
    simp only at hvalue
    simp only [hvalue, hrest]
    simp

/-- A record that begins with the name of its kind is read as the content of that kind. -/
theorem read_tagged {kind : String} {i : Nat} (hkind : variants.names.idxOf? kind = some i)
    {fields : List (String × Datum)} (htag : ∀ f ∈ fields, f.1 ≠ tag)
    (hheld : ∀ f ∈ fields, f.2.hold ((heldDepth source).map (· - 1)) = .ok f.2) :
    variants.read source (.record ((tag, .text kind) :: fields)) =
      variants.content i (.record fields) := by
  have hrest := variants.split_held source i htag hheld []
  simp only [record, List.map_cons, read, split, isTag, decide_true, if_true, kindIndex, hkind,
    Except.bind, bind, Option.isSome, hrest]
  simp

end Variants
end Container.Datum
