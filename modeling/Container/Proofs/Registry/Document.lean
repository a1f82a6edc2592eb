import Container.Proofs.Config.RoundTrip
import Container.Proofs.Host.Plain
import Container.Proofs.Path.Components
import Container.Teardown.Registry

set_option autoImplicit false

/-!
# The records of a registry

A record is a document with a place of its own below the root of the registry. The document is read
back as what it was made of, and the place says of which container it is.

## Main definitions

* `InstanceInfo.document?` — the document of a record.
* `Registry.Key`, `Registry.Key.place` — a container of a kind, and where its record is.
* `Registry.IsId` — the ids that containers may have.

## Main results

* `InstanceInfo.parse_document` — a record is read back from its document.
* `Registry.locate_of_isId`, `Registry.locate_of_not_isId` — where a record is, if it has a place.
* `Registry.Key.place_injective` — the records of two containers are at two places.
-/

namespace Container

open Datum Path

/-! ## Documents -/

/-- A number of thirty-two bits is read back from the whole number that it is. -/
theorem Datum.standsFor_int32 (n : Int32) : StandsFor readInt32 n (.int n.toInt) := by
  have hlow : -2 ^ 31 ≤ n.toInt := n.minValue_le_toInt
  have hhigh : n.toInt < 2 ^ 31 := n.toInt_lt
  have hcheck : readInt.check (-2 ^ 31) (2 ^ 31 - 1) .i32 n.toInt = .ok n.toInt :=
    if_pos ⟨hlow, by omega⟩
  unfold Datum.int
  split
  · rename_i hnonneg
    refine ⟨?_, .natural (by omega)⟩
    have hnat : ((n.toInt.toNat : Nat) : Int) = n.toInt := Int.toNat_of_nonneg hnonneg
    simp only [readInt32, Datum.nat, readInt, hnat, hcheck, Functor.map, Except.map,
      Int32.ofInt_toInt]
  · rename_i hneg
    constructor
    · simp only [readInt32, readInt, hcheck, Functor.map, Except.map, Int32.ofInt_toInt]
    · have hminus : n.toInt = -((-n.toInt).toNat : Int) := by omega
      rw [hminus]
      exact .negative (by omega) (by omega)

namespace InstanceInfo

variable {info : InstanceInfo}

/-- The document of a record. -/
def document? (info : InstanceInfo) : Option Bytes :=
  info.toDatum?.map fun d => Utf8.bytes (Json.pretty d)

theorem standsFor_toDatum? {d : Datum} (h : info.toDatum? = some d) :
    StandsFor InstanceInfo.read info d := by
  simp only [toDatum?, Option.bind_eq_bind, Option.bind_eq_some_iff, Option.pure_def,
    Option.some.injEq] at h
  obtain ⟨image, himageOf, rfl⟩ := h
  have hid := standsFor_text info.containerId
  have hpid : StandsFor (readOptional readInt32) info.pid?
      ((info.pid?.map fun pid => .int pid.toInt).getD .null) := by
    have hof : ofOption? (fun pid : Int32 => some (.int pid.toInt)) info.pid? =
        some ((info.pid?.map fun pid => .int pid.toInt).getD .null) := by
      cases info.pid? <;> rfl
    refine standsFor_ofOption? ?_ hof
    intro pid d hd
    obtain rfl : Datum.int pid.toInt = d := Option.some.inj hd
    refine ⟨standsFor_int32 pid, ?_⟩
    unfold Datum.int
    split <;> nofun
  have himage := standsFor_path himageOf
  have hcollect := shape.collect_record .json (by decide) [
    (.of "container_id" readText, .text info.containerId),
    (.of "pid" (readOptional readInt32), (info.pid?.map fun pid => .int pid.toInt).getD .null),
    (.of "image" readPath, image)] rfl
    (by simp [Field.check_of hid.reads, Field.check_of hpid.reads, Field.check_of himage.reads])
  refine ⟨?_, .record (by simp [hid.printable, hpid.printable, himage.printable])⟩
  simp only [named, List.map_cons, List.map_nil, Field.of] at hcollect
  simp [InstanceInfo.read, hcollect, bind, Except.bind, Fields.required, Fields.optional,
    Fields.withDefault, Fields.value?, List.lookup_cons, hid.reads, hpid.reads, himage.reads, pure,
    Except.pure]

/-- A record has a value exactly if its image is text. -/
theorem isSome_toDatum? (info : InstanceInfo) :
    info.toDatum?.isSome = info.image.text?.isSome := by
  unfold toDatum? ofPath?
  cases info.image.text? <;> rfl

/-- **A record is read back from its document.** -/
theorem parse_document {content : Bytes} (h : info.document? = some content) :
    Json.parse InstanceInfo.read content = .ok info := by
  obtain ⟨d, hd, rfl⟩ := Option.map_eq_some_iff.mp h
  obtain ⟨hreads, hprintable⟩ := standsFor_toDatum? hd
  rw [Json.parse_pretty hprintable, hreads]
  rfl

end InstanceInfo

/-! ## Places -/

namespace Registry

/-- The ids that containers may have. -/
def IsId (containerId : String) : Prop :=
  containerId ≠ "" ∧ '/' ∉ containerId.toList ∧ containerId.toList.head? ≠ some '.'

instance (containerId : String) : Decidable (IsId containerId) :=
  inferInstanceAs (Decidable (_ ∧ _ ∧ _))

/-- Those are the ids that are not refused. -/
theorem isValidId_iff {containerId : String} : isValidId containerId = true ↔ IsId containerId := by
  simp [isValidId, IsId, String.startsWith_char_eq_head?, and_assoc]

/-- A container of a kind. -/
structure Key where
  kind : String
  containerId : String
  deriving DecidableEq

namespace Key

variable {key : Key}

/-- The names below the root of a registry that lead to the record of a container. -/
def place (key : Key) : List Bytes :=
  [Utf8.bytes key.kind, Utf8.bytes (key.containerId ++ ".json")]

/-- **The records of two containers are at two places.** -/
theorem place_injective : Function.Injective place := by
  rintro ⟨kind, containerId⟩ ⟨kind', containerId'⟩ h
  simp only [place, List.cons.injEq, and_true] at h
  obtain rfl : kind = kind' := Utf8.bytes_injective h.1
  have hid : containerId ++ ".json" = containerId' ++ ".json" := Utf8.bytes_injective h.2
  obtain rfl : containerId = containerId' := by simpa using hid
  rfl

/-- A container whose kind is a name for a directory, without a zero byte there or in its id. -/
structure Ordinary (key : Key) : Prop where
  kind : IsEntry (Utf8.bytes key.kind)
  kind_noNul : 0 ∉ Utf8.bytes key.kind
  id_noNul : '\x00' ∉ key.containerId.toList

instance : Decidable key.Ordinary :=
  decidable_of_iff (IsEntry (Utf8.bytes key.kind) ∧ 0 ∉ Utf8.bytes key.kind ∧
      '\x00' ∉ key.containerId.toList)
    ⟨fun ⟨kind, kind_noNul, id_noNul⟩ => ⟨kind, kind_noNul, id_noNul⟩,
      fun ⟨kind, kind_noNul, id_noNul⟩ => ⟨kind, kind_noNul, id_noNul⟩⟩

variable (h : key.Ordinary) (hid : IsId key.containerId)
include h hid

/-- The file of a record has a name that a directory may have for a file. -/
theorem Ordinary.fileName :
    IsEntry (Utf8.bytes (key.containerId ++ ".json")) ∧
      0 ∉ Utf8.bytes (key.containerId ++ ".json") := by
  have hlength : 5 ≤ (Utf8.bytes (key.containerId ++ ".json")).length := by
    have hending : (Utf8.bytes ".json").length = 5 := rfl
    rw [Utf8.bytes_append, List.length_append, hending]
    omega
  have hslash : '/' ∉ (key.containerId ++ ".json").toList := by
    simpa [String.toList_append] using hid.2.1
  have hzero : '\x00' ∉ (key.containerId ++ ".json").toList := by
    simpa [String.toList_append] using h.id_noNul
  refine ⟨⟨⟨?_, ?_⟩, ?_, mt (Utf8.mem_toList_of_ascii_mem (by decide) rfl) hslash⟩,
    mt (Utf8.mem_toList_of_ascii_mem (by decide) rfl) hzero⟩
  all_goals
    intro hshort
    rw [hshort] at hlength
    simp at hlength

/-- Its names may stand one after the other in a path. -/
theorem Ordinary.place : ∀ n ∈ key.place, IsEntry n ∧ 0 ∉ n := by
  intro n hn
  rcases List.mem_pair.mp hn with rfl | rfl
  · exact ⟨h.kind, h.kind_noNul⟩
  · exact h.fileName hid

end Key

variable {σ : Type} (registry : Registry)

/-- Where the record of a container is. -/
theorem locate_of_isId {key : Key} (h : IsId key.containerId) (s : σ) :
    registry.locate key.containerId key.kind s = (.ok (registry.root.down key.place), s) := by
  rw [locate, recordPath?, if_pos (isValidId_iff.mpr h)]
  rfl

/-- A container whose id is not allowed has no place for a record. -/
theorem locate_of_not_isId {containerId : String} (h : ¬ IsId containerId) (kind : String) (s : σ) :
    registry.locate containerId kind s =
      (.error (.failed (.record (.invalidId containerId))), s) := by
  rw [locate, recordPath?, if_neg (mt isValidId_iff.mp h)]
  rfl

end Registry
end Container
