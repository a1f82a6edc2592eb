import Container.Proofs.Datum.Fields
import Container.Proofs.MessagePack.RoundTrip
import Container.Proofs.Path.Text
import Container.Wire.Frame

set_option autoImplicit false

/-!
# What is sent is received

The value of a message is read as that message, and so are its bytes, whatever follows them, if
the format has room for its strings.

## Main definitions

* `Request.Valued` — a request all of whose paths are text, and its value.
* `Request.IsText` — a request all of whose paths are text.
* `Request.IsShort`, `Response.IsShort` — messages whose strings the format has room for.

## Main results

* `Request.decode_encode?`, `Response.decode_encode` — messages are read back from their bytes.
-/

namespace Container

open Datum MessagePack

/-! ## Scalars -/

/-- The text of a path has the bytes of the path. -/
theorem Path.eq_ofText {p : Path} {s : String} (h : p.text? = some s) : p = Path.ofText s := by
  rw [Path.ofText, Utf8.bytes_of_text? h]

namespace Datum

@[simp] theorem readPath_text (s : String) : readPath (.text s) = .ok (Path.ofText s) := rfl

@[simp] theorem readText_text (s : String) : readText (.text s) = .ok s := rfl

/-- A number of sixty-four bits is read back. -/
@[simp] theorem readUInt64_nat (n : UInt64) : readUInt64 (.nat n.toNat) = .ok n := by
  have h : n.toNat < 2 ^ 64 := n.toNat_lt
  simp only [readUInt64, Datum.nat, readInt, readInt.check]
  rw [if_pos (by omega)]
  simp [Functor.map, Except.map]

/-- A number of thirty-two bits with a sign is read back. -/
@[simp] theorem readInt32_int (n : Int32) : readInt32 (.int n.toInt) = .ok n := by
  have hlow := n.le_toInt
  have hhigh := n.toInt_lt
  unfold Datum.int
  split
  · rename_i hpos
    simp only [readInt32, Datum.nat, readInt, readInt.check]
    rw [Int.toNat_of_nonneg hpos, if_pos (by omega)]
    simp only [Functor.map, Except.map, Int32.ofInt_toInt]
  · simp only [readInt32, readInt, readInt.check]
    rw [if_pos (by omega)]
    simp only [Functor.map, Except.map, Int32.ofInt_toInt]

/-- Numbers are held back as they are. -/
@[simp] theorem hold_nat (depth : Option Nat) (n : Nat) :
    (Datum.nat n).hold depth = .ok (.nat n) := by
  simp [Datum.nat, hold]

@[simp] theorem hold_int (depth : Option Nat) (i : Int) :
    (Datum.int i).hold depth = .ok (.int i) := by
  unfold Datum.int
  split
  · exact hold_nat depth _
  · simp [hold]

@[simp] theorem hold_text (depth : Option Nat) (s : String) :
    (Datum.text s).hold depth = .ok (.text s) := by
  simp [hold]

/-- The content of a message with one field is the value of that field. -/
theorem readSingle_record {α : Type} {shapeName field : String} {read : Datum → Reading α}
    {d : Datum} {a : α} (h : read d = .ok a) :
    readSingle shapeName field read (.record [(field, d)]) = .ok a := by
  have hcollect := (Shape.mk shapeName [.of field read]).collect_record .held
    (by simp [Shape.names]) [(.of field read, d)] rfl (by simpa using Field.check_of h)
  simp only [named, List.map_cons, List.map_nil, Field.of] at hcollect
  simp [readSingle, Field.of, hcollect, bind, Except.bind, Fields.required, Fields.value?, h]

end Datum

/-! ## Values -/

/-- The value of a mount request is read as that request. -/
theorem MountRequest.read_record (s t fstype data : String) (flags : UInt64) :
    MountRequest.read .held (.record [("source", .text s), ("target", .text t),
      ("fstype", .text fstype), ("flags", .nat flags.toNat), ("data", .text data)]) =
      .ok ⟨.ofText s, .ofText t, fstype, flags, data⟩ := by
  have hcollect := shape.collect_record .held (by decide) [
    (.of "source" readPath, .text s), (.of "target" readPath, .text t),
    (.of "fstype" readText, .text fstype), (.of "flags" readUInt64, .nat flags.toNat),
    (.of "data" readText, .text data)] rfl
    (by simp [Field.check_of (readPath_text s), Field.check_of (readPath_text t),
      Field.check_of (readText_text fstype), Field.check_of (readText_text data),
      Field.check_of (readUInt64_nat flags)])
  simp only [named, List.map_cons, List.map_nil, Field.of] at hcollect
  simp [MountRequest.read, hcollect, bind, Except.bind, Fields.required, Fields.value?,
    List.lookup_cons, pure, Except.pure]

/-- A request all of whose paths are text, and its value. -/
inductive Request.Valued : Request → Datum → Prop
  | mount (s t fstype data : String) (flags : UInt64) :
      Valued (.mount ⟨.ofText s, .ofText t, fstype, flags, data⟩)
        (.tagged "Mount" [("source", .text s), ("target", .text t), ("fstype", .text fstype),
          ("flags", .nat flags.toNat), ("data", .text data)])
  | chroot (s : String) : Valued (.chroot (.ofText s)) (.tagged "Chroot" [("path", .text s)])
  | ping : Valued .ping (.tagged "Ping" [])

namespace Request

variable {request : Request} {d : Datum}

/-- A request all of whose paths are text. -/
def IsText : Request → Prop
  | .mount request => request.source.IsText ∧ request.target.IsText
  | .chroot path => path.IsText
  | .ping => True

/-- A request all of whose paths are text has bytes. -/
theorem IsText.exists_encode? (h : request.IsText) : ∃ body, request.encode? = some body := by
  cases request with
  | mount request =>
    obtain ⟨source, target, fstype, flags, data⟩ := request
    obtain ⟨hs, ht⟩ := h
    obtain ⟨s, rfl⟩ := Path.isText_iff.mp hs
    obtain ⟨t, rfl⟩ := Path.isText_iff.mp ht
    simp [encode?, toDatum?, MountRequest.fields?, ofPath?]
  | chroot path =>
    obtain ⟨s, rfl⟩ := Path.isText_iff.mp h
    simp [encode?, toDatum?, ofPath?]
  | ping => simp [encode?, toDatum?]

/-- Only requests all of whose paths are text have a value. -/
theorem valued_of_toDatum? (h : request.toDatum? = some d) : request.Valued d := by
  cases request with
  | mount request =>
    obtain ⟨source, target, fstype, flags, data⟩ := request
    rcases hs : source.text? with _ | s
    · simp [toDatum?, MountRequest.fields?, ofPath?, hs] at h
    · rcases ht : target.text? with _ | t
      · simp [toDatum?, MountRequest.fields?, ofPath?, hs, ht] at h
      · simp only [toDatum?, MountRequest.fields?, ofPath?, hs, ht, Option.map_some,
          Option.bind_eq_bind, Option.bind_some, Option.pure_def, Option.some.injEq] at h
        obtain rfl := Path.eq_ofText hs
        obtain rfl := Path.eq_ofText ht
        subst h
        exact .mount s t fstype data flags
  | chroot path =>
    rcases hs : path.text? with _ | s
    · simp [toDatum?, ofPath?, hs] at h
    · simp only [toDatum?, ofPath?, hs, Option.map_some, Option.bind_eq_bind, Option.bind_some,
        Option.pure_def, Option.some.injEq] at h
      obtain rfl := Path.eq_ofText hs
      subst h
      exact .chroot s
  | ping =>
    cases h
    exact .ping

/-- The value of a request is read as that request. -/
theorem read_valued (h : request.Valued d) : Request.read .packed d = .ok request := by
  cases h with
  | mount s t fstype data flags =>
    refine (variants.read_tagged .packed (i := 0) rfl (by simp [Variants.tag]) (by simp)).trans ?_
    show Request.mount <$> MountRequest.read .held _ = _
    rw [MountRequest.read_record]
    rfl
  | chroot s =>
    refine (variants.read_tagged .packed (i := 1) rfl (by simp [Variants.tag]) (by simp)).trans ?_
    show Request.chroot <$> readSingle _ "path" readPath _ = _
    rw [readSingle_record (readPath_text s)]
    rfl
  | ping => exact variants.read_tagged .packed (i := 2) rfl (by simp) (by simp)

end Request

/-- The value of a response is read as that response. -/
theorem Response.read_toDatum (response : Response) :
    Response.read .packed response.toDatum = .ok response := by
  cases response with
  | mount code =>
    refine (variants.read_tagged .packed (i := 0) rfl (by simp [Variants.tag]) (by simp)).trans ?_
    show Response.mount <$> readSingle _ "code" readInt32 _ = _
    rw [readSingle_record (readInt32_int code)]
    rfl
  | chroot code =>
    refine (variants.read_tagged .packed (i := 1) rfl (by simp [Variants.tag]) (by simp)).trans ?_
    show Response.chroot <$> readSingle _ "code" readInt32 _ = _
    rw [readSingle_record (readInt32_int code)]
    rfl
  | pong => exact variants.read_tagged .packed (i := 2) rfl (by simp) (by simp)
  | error message =>
    refine (variants.read_tagged .packed (i := 3) rfl (by simp [Variants.tag]) (by simp)).trans ?_
    show Response.error <$> readSingle _ "message" readText _ = _
    rw [readSingle_record (readText_text message)]
    rfl

/-! ## Bytes -/

/-- Whole numbers of thirty-two bits have a form in the format. -/
theorem storable_int (depth : Nat) (code : Int32) : (Datum.int code.toInt).Storable depth := by
  have hlow := code.le_toInt
  have hhigh := code.toInt_lt
  unfold Datum.int
  split
  · exact .natural depth (by omega)
  · have h : code.toInt = -(code.toInt.natAbs : Int) := by omega
    rw [h]
    exact .negative depth (by omega) (by omega)

/-- The strings of the request have fewer bytes than the longest length that the format can
tell. -/
def Request.IsShort : Request → Prop
  | .mount request =>
    request.source.bytes.length < 2 ^ 32 ∧ request.target.bytes.length < 2 ^ 32 ∧
      (Utf8.bytes request.fstype).length < 2 ^ 32 ∧ (Utf8.bytes request.data).length < 2 ^ 32
  | .chroot path => path.bytes.length < 2 ^ 32
  | .ping => True

/-- The strings of the response have fewer bytes than the longest length that the format can
tell. -/
def Response.IsShort : Response → Prop
  | .error message => (Utf8.bytes message).length < 2 ^ 32
  | _ => True

/-- The value of a request with short strings has a form in the format. -/
theorem Request.Valued.storable {request : Request} {d : Datum} (h : request.Valued d)
    (hshort : request.IsShort) : d.Storable depthLimit := by
  cases h with
  | mount s t fstype data flags =>
    obtain ⟨hs, ht, hfstype, hdata⟩ := hshort
    refine storable_record (by simp) ?_
    simp only [List.mem_cons, List.not_mem_nil, or_false, forall_eq_or_imp, forall_eq]
    exact ⟨⟨.text _ (by decide), .text _ (by decide)⟩, ⟨.text _ (by decide), .text _ hs⟩,
      ⟨.text _ (by decide), .text _ ht⟩, ⟨.text _ (by decide), .text _ hfstype⟩,
      ⟨.text _ (by decide), .natural _ flags.toNat_lt⟩, ⟨.text _ (by decide), .text _ hdata⟩⟩
  | chroot s =>
    refine storable_record (by simp) ?_
    simp only [List.mem_cons, List.not_mem_nil, or_false, forall_eq_or_imp, forall_eq]
    exact ⟨⟨.text _ (by decide), .text _ (by decide)⟩, ⟨.text _ (by decide), .text _ hshort⟩⟩
  | ping =>
    refine storable_record (by simp) ?_
    simp only [List.mem_cons, List.not_mem_nil, or_false, forall_eq]
    exact ⟨.text _ (by decide), .text _ (by decide)⟩

/-- The value of a response with a short message has a form in the format. -/
theorem Response.storable (response : Response) (hshort : response.IsShort) :
    response.toDatum.Storable depthLimit := by
  cases response with
  | mount code | chroot code =>
    refine storable_record (by simp) ?_
    simp only [List.mem_cons, List.not_mem_nil, or_false, forall_eq_or_imp, forall_eq]
    exact ⟨⟨.text _ (by decide), .text _ (by decide)⟩, ⟨.text _ (by decide), storable_int _ code⟩⟩
  | pong =>
    refine storable_record (by simp) ?_
    simp only [List.mem_cons, List.not_mem_nil, or_false, forall_eq]
    exact ⟨.text _ (by decide), .text _ (by decide)⟩
  | error message =>
    refine storable_record (by simp) ?_
    simp only [List.mem_cons, List.not_mem_nil, or_false, forall_eq_or_imp, forall_eq]
    exact ⟨⟨.text _ (by decide), .text _ (by decide)⟩, ⟨.text _ (by decide), .text _ hshort⟩⟩

/-- A request with few bytes has short strings. -/
theorem Request.isShort_of_length {request : Request} {body : Bytes}
    (h : request.encode? = some body) (hsize : body.length < 2 ^ 32) : request.IsShort := by
  obtain ⟨d, hd, rfl⟩ := Option.map_eq_some_iff.mp h
  have hfield : ∀ (fields : List (String × Datum)), d = .record fields → ∀ name s,
      (name, .text s) ∈ fields → (Utf8.bytes s).length < 2 ^ 32 := by
    rintro fields rfl name s hmem
    exact Nat.lt_trans (length_bytes_lt_encode_record hmem) hsize
  cases Request.valued_of_toDatum? hd with
  | mount s t fstype data flags =>
    exact ⟨hfield _ rfl "source" s (by simp), hfield _ rfl "target" t (by simp),
      hfield _ rfl "fstype" fstype (by simp), hfield _ rfl "data" data (by simp)⟩
  | chroot s => exact hfield _ rfl "path" s (by simp)
  | ping => trivial

/-- A response with few bytes has a short message. -/
theorem Response.isShort_of_length (response : Response)
    (hsize : response.encode.length < 2 ^ 32) : response.IsShort := by
  cases response with
  | error message =>
    have hfield : ("message", Datum.text message) ∈
        [(Variants.tag, .text "Error"), ("message", .text message)] := by simp
    exact Nat.lt_trans (length_bytes_lt_encode_record hfield) hsize
  | _ => trivial

/-- **A request is read back from its bytes**, whatever follows them. -/
theorem Request.decode_encode? {request : Request} {body : Bytes} (h : request.encode? = some body)
    (hshort : request.IsShort) (rest : Bytes) : Request.decode (body ++ rest) = .ok request := by
  obtain ⟨d, hd, rfl⟩ := Option.map_eq_some_iff.mp h
  have hvalued := Request.valued_of_toDatum? hd
  rw [Request.decode, decode_encode (hvalued.storable hshort), Request.read_valued hvalued]

/-- **A response is read back from its bytes**, whatever follows them. -/
theorem Response.decode_encode (response : Response) (hshort : response.IsShort)
    (rest : Bytes) : Response.decode (response.encode ++ rest) = .ok response := by
  rw [Response.decode, Response.encode, MessagePack.decode_encode (response.storable hshort),
    Response.read_toDatum]

end Container
