import Container.Proofs.Act
import Container.Proofs.MessagePack.Torn
import Container.Wire.Frame

set_option autoImplicit false

/-!
# Frames in any stream of bytes

A stream gives its bytes one after the other, for ever or until it fails for some reason. Receiving
a message takes from it the four bytes of a header and then, unless these announce too much, exactly
the body that they announce. What is taken does not depend on what the body holds, so after a body
that holds no message the next frame is found where it begins.

## Main definitions

* `ByteSource` — where the bytes of a stream come from, one by one.
* `ByteSource.Gives`, `ByteSource.Breaks` — the bytes that come, and where they end.
* `ByteSource.Receives` — what receiving a message comes to, and what is taken for it.
* `Channel.receiveEach` — messages that are received in turn, whatever comes of each.

## Main results

* `ByteSource.take_eq_ok_iff`, `ByteSource.take_eq_error_iff` — taking so many bytes.
* `ByteSource.receiveMessage_eq_iff` — receiving one message.
* `ByteSource.receiveEach_frames` — receiving message after message.
* `ByteSource.boundary_law` — what is known of receiving messages from any stream.
-/

namespace Container

open MessagePack

variable {σ α : Type}

/-- Where the bytes of a stream come from: what asking for the next one comes to. -/
structure ByteSource (σ : Type) where
  next : StateM σ (Except IoFault UInt8)

namespace ByteSource

variable {source : ByteSource σ} {s m s' : σ} {n : Nat} {bs : Bytes} {fault : IoFault}

/-- Asks for so many bytes, one after the other, up to the first that does not come. -/
def take (source : ByteSource σ) : Nat → StateM σ (Except IoFault Bytes)
  | 0 => return .ok []
  | n + 1 => do
    match ← source.next with
    | .error fault => return .error fault
    | .ok b => return (← source.take n).map (b :: ·)

/-- The connection over which the bytes come. -/
def channel (source : ByteSource σ) : Channel σ where
  send _ := pure (.ok ())
  receive := source.take
  close := pure (.ok ())

/-! ## Bytes that come -/

/-- These bytes are the next to come. -/
inductive Gives (source : ByteSource σ) : σ → Bytes → σ → Prop
  | nothing (s : σ) : Gives source s [] s
  | byte {s m s' : σ} {b : UInt8} {bs : Bytes} (hnext : source.next s = (.ok b, m))
      (hrest : Gives source m bs s') : Gives source s (b :: bs) s'

/-- These bytes are the next to come, and then none does. -/
inductive Breaks (source : ByteSource σ) (s : σ) (bs : Bytes) (fault : IoFault) (s' : σ) : Prop
  | intro {m : σ} (hgives : source.Gives s bs m) (hnext : source.next m = (.error fault, s'))

/-- Bytes come one part after the other. -/
theorem gives_append_iff {bs' : Bytes} :
    source.Gives s (bs ++ bs') s' ↔ ∃ m, source.Gives s bs m ∧ source.Gives m bs' s' := by
  induction bs generalizing s with
  | nil =>
    constructor
    · intro h
      exact ⟨s, .nothing s, h⟩
    · rintro ⟨_, ⟨⟩, h⟩
      exact h
  | cons b bs ih =>
    constructor
    · rintro (_ | ⟨hnext, hrest⟩)
      obtain ⟨m, hgives, hlater⟩ := ih.mp hrest
      exact ⟨m, .byte hnext hgives, hlater⟩
    · rintro ⟨m, _ | ⟨hnext, hgives⟩, hlater⟩
      exact .byte hnext (ih.mpr ⟨m, hgives, hlater⟩)

/-- What is left of a stream after its first bytes breaks where the stream does. -/
theorem breaks_append_iff {bs' : Bytes} :
    source.Breaks s (bs ++ bs') fault s' ↔
      ∃ m, source.Gives s bs m ∧ source.Breaks m bs' fault s' := by
  constructor
  · rintro ⟨hgives, hnext⟩
    obtain ⟨m, hbefore, hafter⟩ := gives_append_iff.mp hgives
    exact ⟨m, hbefore, .intro hafter hnext⟩
  · rintro ⟨m, hbefore, ⟨hafter, hnext⟩⟩
    exact .intro (gives_append_iff.mpr ⟨m, hbefore, hafter⟩) hnext

/-- Asking for one byte more. -/
theorem take_succ (source : ByteSource σ) (n : Nat) (s : σ) :
    source.take (n + 1) s = match source.next s with
      | (.error fault, m) => (.error fault, m)
      | (.ok b, m) => ((source.take n m).1.map (b :: ·), (source.take n m).2) := by
  simp only [take, Act.bind_apply]
  rcases source.next s with ⟨_ | _, _⟩ <;> rfl

/-- Bytes that come are taken. -/
theorem Gives.take_eq (h : source.Gives s bs s') : source.take bs.length s = (.ok bs, s') := by
  induction h with
  | nothing s => rfl
  | byte hnext _ ih =>
    rw [List.length_cons, take_succ, hnext]
    simp only [ih]
    rfl

/-- Where too few bytes come, the last answer is that of the stream. -/
theorem Gives.take_eq_of_next (h : source.Gives s bs m) (hn : bs.length < n)
    (hnext : source.next m = (.error fault, s')) : source.take n s = (.error fault, s') := by
  induction h generalizing n with
  | nothing s =>
    obtain ⟨n, rfl⟩ := Nat.exists_eq_add_one.mpr hn
    rw [take_succ, hnext]
  | byte hbyte _ ih =>
    rw [List.length_cons] at hn
    obtain ⟨n, rfl⟩ := Nat.exists_eq_add_one.mpr (Nat.zero_lt_of_lt hn)
    rw [take_succ, hbyte]
    simp only [ih (Nat.lt_of_succ_lt_succ hn) hnext]
    rfl

/-- However many bytes are asked for, either so many come, or the stream breaks before. -/
theorem gives_or_breaks (source : ByteSource σ) (n : Nat) (s : σ) :
    (∃ bs s', bs.length = n ∧ source.Gives s bs s') ∨
      ∃ bs fault s', bs.length < n ∧ source.Breaks s bs fault s' := by
  induction n generalizing s with
  | zero => exact .inl ⟨[], s, rfl, .nothing s⟩
  | succ n ih =>
    rcases hnext : source.next s with ⟨fault | b, m⟩
    · exact .inr ⟨[], fault, m, by simp, .intro (.nothing s) hnext⟩
    · rcases ih m with ⟨bs, s', rfl, hgives⟩ | ⟨bs, fault, s', hfew, ⟨hgives, hend⟩⟩
      · exact .inl ⟨b :: bs, s', rfl, .byte hnext hgives⟩
      · exact .inr ⟨b :: bs, fault, s', by simpa using hfew, .intro (.byte hnext hgives) hend⟩

/-- **Bytes are taken** exactly if so many come, and then the stream is where they end. -/
theorem take_eq_ok_iff :
    source.take n s = (.ok bs, s') ↔ bs.length = n ∧ source.Gives s bs s' := by
  refine ⟨fun h => ?_, fun ⟨hlength, hgives⟩ => hlength ▸ hgives.take_eq⟩
  rcases source.gives_or_breaks n s with
    ⟨bs', m, rfl, hgives⟩ | ⟨bs', fault, m, hfew, ⟨hgives, hend⟩⟩
  · rw [hgives.take_eq] at h
    cases h
    exact ⟨rfl, hgives⟩
  · rw [hgives.take_eq_of_next hfew hend] at h
    cases h

/-- **Taking bytes fails** exactly if too few come, and then all of these are gone. -/
theorem take_eq_error_iff :
    source.take n s = (.error fault, s') ↔ ∃ bs, bs.length < n ∧ source.Breaks s bs fault s' := by
  refine ⟨fun h => ?_, fun ⟨bs, hfew, ⟨hgives, hend⟩⟩ => hgives.take_eq_of_next hfew hend⟩
  rcases source.gives_or_breaks n s with
    ⟨bs, m, rfl, hgives⟩ | ⟨bs, fault, m, hfew, ⟨hgives, hend⟩⟩
  · rw [hgives.take_eq] at h
    cases h
  · rw [hgives.take_eq_of_next hfew hend] at h
    cases h
    exact ⟨bs, hfew, .intro hgives hend⟩

/-! ## One message -/

variable {decode : Bytes → Datum.Reading α} {result : Except Stop α} {taken : Bytes}

/-- What a body comes to, once it has been taken. -/
def outcome (decode : Bytes → Datum.Reading α) (body : Bytes) : Except Failure α :=
  (decode body).mapError fun mismatch => .protocol (.notDecodable mismatch)

/-- What receiving a message comes to, the bytes that are taken for it, and where the stream is
then. -/
inductive Receives (source : ByteSource σ) (decode : Bytes → Datum.Reading α) (s : σ) :
    Except Stop α → Bytes → σ → Prop
  /-- There are too few bytes for a header. -/
  | short {part : Bytes} {fault : IoFault} {s' : σ} (hpart : part.length < 4)
      (hbreaks : source.Breaks s part fault s') :
      Receives source decode s (.error (.failed (.io fault))) part s'
  /-- Too much is announced, and nothing after the header is taken. -/
  | oversized {header : Bytes} {s' : σ} (hheader : header.length = 4)
      (hlength : Frame.maxLength < bigEndian header) (hgives : source.Gives s header s') :
      Receives source decode s
        (.error (.failed (.protocol (.frameTooLarge (bigEndian header))))) header s'
  /-- There are fewer bytes than were announced. -/
  | truncated {header part : Bytes} {fault : IoFault} {s' : σ} (hheader : header.length = 4)
      (hlength : bigEndian header ≤ Frame.maxLength) (hpart : part.length < bigEndian header)
      (hbreaks : source.Breaks s (header ++ part) fault s') :
      Receives source decode s (.error (.failed (.io fault))) (header ++ part) s'
  /-- The whole body is taken, whatever it holds. -/
  | whole {header body : Bytes} {s' : σ} (hheader : header.length = 4)
      (hlength : bigEndian header = body.length) (hbody : body.length ≤ Frame.maxLength)
      (hgives : source.Gives s (header ++ body) s') :
      Receives source decode s ((outcome decode body).mapError .failed) (header ++ body) s'

/-- Receiving a message takes a header and then, unless it announces too much, a body. -/
theorem receiveMessage_apply (source : ByteSource σ) (decode : Bytes → Datum.Reading α) (s : σ) :
    source.channel.receiveMessage decode s = match source.take 4 s with
      | (.error fault, m) => (.error (.failed (.io fault)), m)
      | (.ok header, m) =>
        if Frame.maxLength < bigEndian header then
          (.error (.failed (.protocol (.frameTooLarge (bigEndian header)))), m)
        else match source.take (bigEndian header) m with
          | (.error fault, m) => (.error (.failed (.io fault)), m)
          | (.ok body, m) => ((outcome decode body).mapError .failed, m) := by
  have hreceive : ∀ n s, source.channel.receive n s = source.take n s := fun _ _ => rfl
  rw [Channel.receiveMessage, Act.run_bind, Act.run_call, hreceive]
  rcases source.take 4 s with ⟨fault | header, m⟩
  · rfl
  · by_cases hlarge : Frame.maxLength < bigEndian header
    · have hlength : Frame.bodyLength header = .error (.frameTooLarge (bigEndian header)) :=
        if_neg (Nat.not_le.mpr hlarge)
      simp only [mapError_ok, hlength, if_pos hlarge]
      rfl
    · have hlength : Frame.bodyLength header = .ok (bigEndian header) :=
        if_pos (Nat.not_lt.mp hlarge)
      simp only [mapError_ok, hlength, if_neg hlarge, Act.run_bind, Act.run_call, hreceive]
      rcases source.take (bigEndian header) m with ⟨fault | body, m⟩
      · rfl
      · simp only [mapError_ok, outcome]
        cases decode body <;> rfl

/-- **What receiving a message comes to** is settled by the bytes that come and by nothing else. -/
theorem receiveMessage_eq_iff :
    source.channel.receiveMessage decode s = (result, s') ↔
      ∃ taken, Receives source decode s result taken s' := by
  rw [receiveMessage_apply]
  constructor
  · intro h
    rcases hheader : source.take 4 s with ⟨fault | header, m⟩
    · rw [hheader] at h
      cases h
      obtain ⟨part, hpart, hbreaks⟩ := take_eq_error_iff.mp hheader
      exact ⟨part, .short hpart hbreaks⟩
    · obtain ⟨hfour, hgives⟩ := take_eq_ok_iff.mp hheader
      simp only [hheader] at h
      split at h
      · rename_i hlarge
        cases h
        exact ⟨header, .oversized hfour hlarge hgives⟩
      · rename_i hlarge
        have hlength := Nat.not_lt.mp hlarge
        rcases hbody : source.take (bigEndian header) m with ⟨fault | body, m'⟩
        · rw [hbody] at h
          cases h
          obtain ⟨part, hpart, hbreaks⟩ := take_eq_error_iff.mp hbody
          exact ⟨header ++ part, .truncated hfour hlength hpart
            (breaks_append_iff.mpr ⟨m, hgives, hbreaks⟩)⟩
        · rw [hbody] at h
          cases h
          obtain ⟨hall, hrest⟩ := take_eq_ok_iff.mp hbody
          exact ⟨header ++ body, .whole hfour hall.symm (hall ▸ hlength)
            (gives_append_iff.mpr ⟨m, hgives, hrest⟩)⟩
  · rintro ⟨taken, h⟩
    cases h with
    | short hpart hbreaks => rw [take_eq_error_iff.mpr ⟨_, hpart, hbreaks⟩]
    | oversized hheader hlength hgives =>
      rw [take_eq_ok_iff.mpr ⟨hheader, hgives⟩]
      simp only [if_pos hlength]
    | truncated hheader hlength hpart hbreaks =>
      obtain ⟨m, hgives, hrest⟩ := breaks_append_iff.mp hbreaks
      rw [take_eq_ok_iff.mpr ⟨hheader, hgives⟩]
      simp only [if_neg (Nat.not_lt.mpr hlength), take_eq_error_iff.mpr ⟨_, hpart, hrest⟩]
    | whole hheader hlength hbody hgives =>
      obtain ⟨m, hbefore, hrest⟩ := gives_append_iff.mp hgives
      rw [take_eq_ok_iff.mpr ⟨hheader, hbefore⟩]
      simp only [hlength, if_neg (Nat.not_lt.mpr hbody), take_eq_ok_iff.mpr ⟨rfl, hrest⟩]

/-- No more is taken than a header and the longest body, and nothing behind the frame that the
header announces. -/
theorem Receives.length_le (h : Receives source decode s result taken s') :
    taken.length ≤ 4 + Frame.maxLength ∧
      (4 ≤ taken.length → taken.length ≤ 4 + bigEndian (taken.take 4)) := by
  cases h with
  | short hpart _ => omega
  | oversized hheader hlength _ => omega
  | @truncated header part _ _ hheader hlength hpart _ =>
    have htake : (header ++ part).take 4 = header := List.take_left' hheader
    rw [htake, List.length_append, hheader]
    omega
  | @whole header body _ hheader hlength hbody _ =>
    have htake : (header ++ body).take 4 = header := List.take_left' hheader
    rw [htake, List.length_append, hheader, hlength]
    omega

end ByteSource

/-! ## Message after message -/

/-- Receives messages one after the other, whatever comes of each. -/
def Channel.receiveEach (channel : Channel σ) (decoders : List (Bytes → Datum.Reading α)) :
    Act σ (List (Except Failure α)) :=
  decoders.mapM fun decode => (channel.receiveMessage decode).guarded

/-- The bytes of a frame. -/
def Frame.bytes (body : Bytes) : Bytes := bigEndianBytes 4 body.length ++ body

namespace ByteSource

variable {source : ByteSource σ} {s s' : σ}

/-- A message is received where the stream gives its frame. -/
theorem receives_frame {decode : Bytes → Datum.Reading α} {body : Bytes}
    (hbody : body.length ≤ Frame.maxLength) (h : source.Gives s (Frame.bytes body) s') :
    source.channel.receiveMessage decode s = ((outcome decode body).mapError .failed, s') := by
  have hlength : bigEndian (bigEndianBytes 4 body.length) = body.length := by
    refine bigEndian_bigEndianBytes ?_
    simp only [Frame.maxLength] at hbody
    omega
  exact receiveMessage_eq_iff.mpr ⟨_, .whole (length_bigEndianBytes 4 _) hlength hbody h⟩

/-- **Frames that follow each other** are received one by one, whatever the bodies hold. -/
theorem receiveEach_frames {frames : List ((Bytes → Datum.Reading α) × Bytes)}
    (hbodies : ∀ frame ∈ frames, frame.2.length ≤ Frame.maxLength)
    (h : source.Gives s (frames.flatMap fun frame => Frame.bytes frame.2) s') :
    source.channel.receiveEach (frames.map Prod.fst) s =
      (.ok (frames.map fun (decode, body) => outcome decode body), s') := by
  -- Each frame is taken as a whole, so only the place in the stream changes from one to the next.
  induction frames generalizing s with
  | nil =>
    cases h
    rfl
  | cons frame frames ih =>
    obtain ⟨decode, body⟩ := frame
    rw [List.flatMap_cons, gives_append_iff] at h
    obtain ⟨m, hfirst, hrest⟩ := h
    have hmessage : source.channel.receiveMessage decode s =
        ((outcome decode body).mapError .failed, m) :=
      receives_frame (hbodies (decode, body) (by simp)) hfirst
    have hlater := ih (fun frame hframe => hbodies frame (by simp [hframe])) hrest
    rw [Channel.receiveEach] at hlater ⊢
    rw [List.map_cons, List.mapM_cons, Act.run_bind, Act.run_guarded, hmessage]
    cases houtcome : outcome decode body <;>
      simp only [mapError_ok, mapError_error, Act.run_bind, hlater, Act.run_pure, List.map_cons,
        houtcome]

/-! ## Any stream -/

/-- **Receiving messages from a stream.**

* What receiving one comes to, and where the stream is then, is what the bytes that come make of it:
  too few for a header, a header that announces too much, too few for the body that it announces, or
  a whole frame.
* No more is taken than a header and the longest body, and nothing behind the frame.
* Frames that follow each other are received one by one, whatever their bodies hold, so a body
  without a message is no obstacle to the frames after it.

**Proof sketch.** Taking bytes comes to what the stream gives, or to where it breaks. After the four
bytes of a header there are three ways in which it can go on, and each takes what it says. A frame
is taken as a whole, so by induction the next one is found behind it. -/
theorem boundary_law (source : ByteSource σ) (s : σ) :
    (∀ (decode : Bytes → Datum.Reading α) (result : Except Stop α) (s' : σ),
      source.channel.receiveMessage decode s = (result, s') ↔
        ∃ taken, Receives source decode s result taken s') ∧
    (∀ (decode : Bytes → Datum.Reading α) (result : Except Stop α) (taken : Bytes) (s' : σ),
      Receives source decode s result taken s' →
        taken.length ≤ 4 + Frame.maxLength ∧
          (4 ≤ taken.length → taken.length ≤ 4 + bigEndian (taken.take 4))) ∧
    ∀ (frames : List ((Bytes → Datum.Reading α) × Bytes)) (s' : σ),
      (∀ frame ∈ frames, frame.2.length ≤ Frame.maxLength) →
      source.Gives s (frames.flatMap fun frame => Frame.bytes frame.2) s' →
        source.channel.receiveEach (frames.map Prod.fst) s =
          (.ok (frames.map fun (decode, body) => outcome decode body), s') := by
  refine ⟨fun decode result s' => receiveMessage_eq_iff, ?_, ?_⟩
  · intro decode result taken s' h
    exact h.length_le
  · intro frames s' hbodies hgives
    exact receiveEach_frames hbodies hgives

-- Of a stream without end that announces far too much, four bytes are taken.
example :
    let endless : ByteSource Nat := ⟨fun n => (.ok 0xFF, n + 1)⟩
    (endless.channel.receiveMessage Request.decode 0).2 = 4 := by rfl

/-! ## Streams that end -/

/-- The bytes in the state, one after the other, and then the end of the stream. -/
def ofBytes : ByteSource Bytes where
  next
    | [] => (.error .streamEnded, [])
    | b :: bs => (.ok b, bs)

/-- The bytes that are there come. -/
theorem gives_ofBytes (bs rest : Bytes) : ofBytes.Gives (bs ++ rest) bs rest := by
  induction bs with
  | nil => exact .nothing rest
  | cons b bs ih => exact .byte rfl ih

/-- A connection that only holds bytes is one over which these come. -/
theorem channel_ofBytes : ofBytes.channel = ByteStream.channel := by
  have hreceive : ofBytes.take = ByteStream.receive := by
    funext n bs
    rw [ByteStream.receive]
    cases htaken : takeBytes? n bs with
    | some found =>
      obtain ⟨rfl, rfl⟩ := eq_of_takeBytes? htaken
      exact (gives_ofBytes _ _).take_eq
    | none =>
      have hgives := gives_ofBytes bs []
      rw [List.append_nil] at hgives
      exact hgives.take_eq_of_next (length_of_takeBytes?_none htaken) rfl
  rw [channel, hreceive]
  rfl

/-- A frame whose one byte begins no value comes before one with a request, which is received. -/
theorem boundary_law_undecodable :
    let frames : List ((Bytes → Datum.Reading Request) × Bytes) :=
      [(Request.decode, [0xC1]), (Request.decode, Request.encode? .ping |>.getD [])]
    let bytes := frames.flatMap fun frame => Frame.bytes frame.2
    (∀ frame ∈ frames, frame.2.length ≤ Frame.maxLength) ∧ ofBytes.Gives bytes bytes [] ∧
      ∃ mismatch, ByteStream.channel.receiveEach (frames.map Prod.fst) bytes =
        (.ok [.error (.protocol (.notDecodable mismatch)), .ok .ping], []) := by
  intro frames bytes
  have hbodies : ∀ frame ∈ frames, frame.2.length ≤ Frame.maxLength := by decide
  have hgives : ofBytes.Gives bytes bytes [] := by
    simpa using gives_ofBytes bytes []
  refine ⟨hbodies, hgives, ?_⟩
  rw [← channel_ofBytes, (boundary_law ofBytes bytes).2.2 frames [] hbodies hgives]
  exact ⟨_, rfl⟩

end ByteSource
end Container
