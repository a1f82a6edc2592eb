import Container.Proofs.MessagePack.Torn
import Container.Proofs.Wire.Messages

set_option autoImplicit false

/-!
# The bytes of a message

The bytes of a message say where it ends: they are read as that message whatever follows them, and
no part of them that ends sooner is a message of either kind. A message is written as a map that
begins with its kind and goes on with its fields by name.

## Main definitions

* `Request.kind`, `Request.fieldNames`, `Response.kind`, `Response.fieldNames` — what a message is
  called, and its fields.
* `Wire.HoldsNoMessage` — bytes that are neither a request nor a response.
* `Wire.Encodes` — bytes that are those of a message.

## Main results

* `Wire.encodes_messages` — which messages have bytes, and what is known of them.
-/

namespace Container

open Datum MessagePack

/-! ## The form of messages -/

/-- What a request is called. -/
def Request.kind : Request → String
  | .mount _ => "Mount"
  | .chroot _ => "Chroot"
  | .ping => "Ping"

/-- The names of the fields of a request, in order. -/
def Request.fieldNames : Request → List String
  | .mount _ => ["source", "target", "fstype", "flags", "data"]
  | .chroot _ => ["path"]
  | .ping => []

/-- What a response is called. -/
def Response.kind : Response → String
  | .mount _ => "Mount"
  | .chroot _ => "Chroot"
  | .pong => "Pong"
  | .error _ => "Error"

/-- The names of the fields of a response, in order. -/
def Response.fieldNames : Response → List String
  | .mount _ | .chroot _ => ["code"]
  | .pong => []
  | .error _ => ["message"]

namespace Wire

/-- Bytes that are neither a request nor a response. -/
def HoldsNoMessage (bs : Bytes) : Prop :=
  Fails (Request.decode bs) ∧ Fails (Response.decode bs)

/-- Bytes that are those of a message of some kind, with fields of these names. -/
structure Encodes {α : Type} (decode : Bytes → Reading α) (kind : String) (names : List String)
    (message : α) (bs : Bytes) : Prop where
  /-- They are a map that begins with the kind and goes on with the fields. -/
  form : ∃ fields : List (String × Datum), fields.map (·.1) = names ∧
    bs = mapHead (names.length + 1) ++ (encode (.text "type") ++ (encode (.text kind) ++
      encodeEntries (fields.map fun (name, value) => (.text name, value))))
  /-- They are read as the message, whatever follows them. -/
  whole : ∀ rest, decode (bs ++ rest) = .ok message
  /-- No part of them that ends sooner is a message. -/
  part : ∀ part, part <+: bs → part ≠ bs → HoldsNoMessage part

/-- The bytes of a record that begins with its kind. -/
theorem encode_tagged (kind : String) (fields : List (String × Datum)) :
    encode (.tagged kind fields) =
      mapHead (fields.length + 1) ++ (encode (.text "type") ++ (encode (.text kind) ++
        encodeEntries (fields.map fun (name, value) => (.text name, value)))) := by
  simp only [tagged, record, Variants.tag, List.map_cons, encode, encodeEntries, List.length_cons,
    List.length_map]

/-- No part of the bytes of a value that ends sooner is a message. -/
theorem holdsNoMessage_of_part {d : Datum} (h : d.Storable depthLimit) {part : Bytes}
    (hpart : part <+: encode d) (hne : part ≠ encode d) : HoldsNoMessage part := by
  obtain ⟨later, hlater⟩ := hpart
  have hwhole : MessagePack.read (part ++ later) = (d, some []) := by
    have hread := readValue_encode h []
    rwa [List.append_nil, ← hlater] at hread
  have hrest : later ≠ [] := by
    rintro rfl
    exact hne (by rw [← hlater, List.append_nil])
  exact ⟨fails_decode Request.variants hwhole hrest, fails_decode Response.variants hwhole hrest⟩

/-- The bytes of a request are those of a map with its kind and its fields. -/
theorem form_request {request : Request} {d : Datum} (h : request.Valued d) :
    ∃ fields : List (String × Datum), fields.map (·.1) = request.fieldNames ∧
      d = .tagged request.kind fields := by
  cases h <;> exact ⟨_, rfl, rfl⟩

/-- The bytes of a response are those of a map with its kind and its fields. -/
theorem form_response (response : Response) :
    ∃ fields : List (String × Datum), fields.map (·.1) = response.fieldNames ∧
      response.toDatum = .tagged response.kind fields := by
  cases response <;> exact ⟨_, rfl, rfl⟩

/-- Only a request all of whose paths are text has bytes. -/
theorem isText_of_encode? {request : Request} {body : Bytes} (h : request.encode? = some body) :
    request.IsText := by
  obtain ⟨d, hd, -⟩ := Option.map_eq_some_iff.mp h
  cases Request.valued_of_toDatum? hd with
  | mount s t fstype data flags => exact ⟨Path.isText_ofText s, Path.isText_ofText t⟩
  | chroot s => exact Path.isText_ofText s
  | ping => trivial

/-- **The bytes of messages**: a request all of whose paths are text has bytes, and no other
request has any. Every response has bytes. If the format has room for the strings of a message, its
bytes are a map that begins with its kind, they are read as the message whatever follows them, and
no part of them that ends sooner is a message.

**Proof sketch.** What is written is read back with whatever follows left over. So were a value
read whole from a part that ends sooner, it would be the value that was written, with nothing
missing. What is not read whole is torn, and no message is. -/
theorem encodes_messages :
    (∀ request : Request, request.IsText → request.IsShort → ∃ body,
      request.encode? = some body ∧
        Encodes Request.decode request.kind request.fieldNames request body) ∧
    (∀ request : Request, ¬ request.IsText → request.encode? = none) ∧
    ∀ response : Response, response.IsShort →
      Encodes Response.decode response.kind response.fieldNames response response.encode := by
  refine ⟨?_, ?_, ?_⟩
  · intro request htext hshort
    obtain ⟨body, hencode⟩ := htext.exists_encode?
    refine ⟨body, hencode, ?_, Request.decode_encode? hencode hshort, ?_⟩
    all_goals
      obtain ⟨d, hd, rfl⟩ := Option.map_eq_some_iff.mp hencode
      have hvalued := Request.valued_of_toDatum? hd
    · obtain ⟨fields, hnames, rfl⟩ := form_request hvalued
      refine ⟨fields, hnames, ?_⟩
      rw [encode_tagged, ← hnames, List.length_map]
    · intro part hpart hne
      exact holdsNoMessage_of_part (hvalued.storable hshort) hpart hne
  · intro request htext
    rw [Option.eq_none_iff_forall_ne_some]
    intro body hbody
    exact htext (isText_of_encode? hbody)
  · intro response hshort
    refine ⟨?_, response.decode_encode hshort, ?_⟩
    · obtain ⟨fields, hnames, hdatum⟩ := form_response response
      refine ⟨fields, hnames, ?_⟩
      rw [Response.encode, hdatum, encode_tagged, ← hnames, List.length_map]
    · intro part hpart hne
      exact holdsNoMessage_of_part (response.storable hshort) hpart hne

/-- A mount whose strings and flags are just too long for the shorter forms of their lengths is
read back from its bytes. -/
theorem encodes_wideMount :
    let request : Request := .mount ⟨.ofText (String.ofList (List.replicate 32 'a')),
      .ofText (String.ofList (List.replicate 256 'b')), "", 0x8000000000000000, "é"⟩
    request.IsText ∧ request.IsShort ∧ ∃ body, request.encode? = some body ∧
      Request.decode (body ++ [0xC1]) = .ok request ∧ HoldsNoMessage body.dropLast := by
  intro request
  have htext : request.IsText := ⟨Path.isText_ofText _, Path.isText_ofText _⟩
  have hshort : request.IsShort := by refine ⟨?_, ?_, ?_, ?_⟩ <;> decide +kernel
  obtain ⟨body, hencode, hencodes⟩ := encodes_messages.1 request htext hshort
  refine ⟨htext, hshort, body, hencode, hencodes.whole _, ?_⟩
  refine hencodes.part _ (List.dropLast_prefix body) fun heq => ?_
  obtain ⟨fields, -, hform⟩ := hencodes.form
  have hhead : (mapHead (request.fieldNames.length + 1)).length = 1 := rfl
  have hlength := congrArg List.length hform
  have hsame := congrArg List.length heq
  rw [List.length_append, hhead] at hlength
  rw [List.length_dropLast] at hsame
  omega

end Wire
end Container
