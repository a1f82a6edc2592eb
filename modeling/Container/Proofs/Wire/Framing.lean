import Mathlib.Data.List.Induction
import Container.Proofs.Helper.Link
import Container.Proofs.Helper.Received

set_option autoImplicit false

/-!
# The law of frames

Messages that are written one after the other are read one by one, in order, whatever pieces the
bytes arrive in, and then the stream is at its end. A message that has no bytes, or too many, is
refused before any byte is written, so the next one begins where a message is expected. Both sides
have the same limit: every header that is written is accepted, and says the length it was made for.

## Main definitions

* `Message` — a request or a response.
* `Message.IsSendable` — a message with bytes that fit into a frame.
* `Message.sendAll`, `Message.receiveAll` — messages that are written and read in turn.
* `ByteStream.buffer`, `ByteStream.inPieces` — what is written to, and what is read from.

## Main results

* `ByteStream.flatten_takeExact`, `ByteStream.mirrors_receiveMessage` — how bytes are cut makes no
  difference.
* `Frame.header_eq_ok_iff` — headers and lengths are each other's inverse.
* `Message.framing_law` — what is written is read, and what is refused leaves no trace.
-/

namespace Container

open MessagePack

variable {σ : Type}

/-! ## Headers -/

namespace MessagePack

/-- Bytes are those of the number that they denote. -/
theorem bigEndianBytes_bigEndian (bs : Bytes) :
    bigEndianBytes bs.length (bigEndian bs) = bs := by
  induction bs using List.reverseRecOn with
  | nil => rfl
  | append_singleton bs b ih =>
    have hnumber : bigEndian (bs ++ [b]) = bigEndian bs * 256 + b.toNat := by simp [bigEndian]
    have hbyte : b.toNat < 256 := b.toNat_lt
    have hhigh : (bigEndian bs * 256 + b.toNat) / 256 = bigEndian bs := by omega
    have hlow : UInt8.ofNat (bigEndian bs * 256 + b.toNat) = b := by
      apply UInt8.toNat_inj.mp
      simp
    rw [List.length_append, List.length_singleton, bigEndianBytes, hnumber, hhigh, hlow, ih]

end MessagePack

namespace Frame

/-- **Headers and lengths are each other's inverse**: the header of a length is the one that
announces it. -/
theorem header_eq_ok_iff {length : Nat} {bs : Bytes} :
    header length = .ok bs ↔ bs.length = 4 ∧ bodyLength bs = .ok length := by
  constructor
  · intro h
    refine ⟨?_, bodyLength_header h⟩
    unfold header at h
    split at h
    · cases h
      exact length_bigEndianBytes 4 length
    · cases h
  · rintro ⟨hfour, h⟩
    unfold bodyLength at h
    simp only at h
    split at h
    · rename_i hle
      cases h
      rw [header, if_pos hle, ← hfour, bigEndianBytes_bigEndian]
    · cases h

end Frame

/-! ## Streams -/

namespace ByteStream

/-- What is written is added to the bytes that are there already. -/
def buffer : Channel Bytes where
  send bs := fun written => (.ok (), written ++ bs)
  receive := receive
  close := pure (.ok ())

/-- Takes exactly so many bytes, from as many pieces as it takes. -/
def takeExact (n : Nat) : StateM (List Bytes) (Except IoFault Bytes)
  | [] => if n = 0 then (.ok [], []) else (.error .streamEnded, [])
  | piece :: pieces =>
    if n ≤ piece.length then (.ok (piece.take n), piece.drop n :: pieces)
    else
      let later := takeExact (n - piece.length) pieces
      (later.1.map (piece ++ ·), later.2)

/-- A connection whose other side has sent bytes that arrive in these pieces, and has gone. -/
def inPieces : Channel (List Bytes) where
  send _ := pure (.ok ())
  receive := takeExact
  close := pure (.ok ())

/-- What is there first is taken first, and then what is missing. -/
theorem receive_append {n : Nat} {piece : Bytes} (h : piece.length ≤ n) (bs : Bytes) :
    receive n (piece ++ bs) =
      ((receive (n - piece.length) bs).1.map (piece ++ ·), (receive (n - piece.length) bs).2) := by
  unfold receive
  cases hlater : takeBytes? (n - piece.length) bs with
  | some taken =>
    obtain ⟨rfl, hlength⟩ := eq_of_takeBytes? hlater
    have hwhole : (piece ++ taken.1).length = n := by
      rw [List.length_append]
      omega
    rw [← List.append_assoc, takeBytes?_append hwhole]
    rfl
  | none =>
    have hfew := length_of_takeBytes?_none hlater
    have hnone : takeBytes? n (piece ++ bs) = none := by
      simp only [takeBytes?, List.length_take, List.length_append]
      rw [if_neg (by omega)]
    rw [hnone]
    rfl

/-- **How bytes are cut** makes no difference to what is taken, nor to what is left. -/
theorem flatten_takeExact (n : Nat) (pieces : List Bytes) :
    (takeExact n pieces).map id List.flatten = receive n pieces.flatten := by
  induction pieces generalizing n with
  | nil => cases n <;> rfl
  | cons piece pieces ih =>
    rw [takeExact, List.flatten_cons]
    split
    · rename_i hle
      have htake : (piece.take n).length = n := List.length_take_of_le hle
      have hsplit : piece ++ pieces.flatten = piece.take n ++ (piece.drop n ++ pieces.flatten) := by
        rw [← List.append_assoc, List.take_append_drop]
      rw [receive, hsplit, takeBytes?_append htake]
      rfl
    · rename_i hlt
      rw [receive_append (by omega), ← ih]
      rfl

/-- A computation on bytes in pieces does what another does on the bytes, however they are cut. -/
def Mirrors {α : Type} (act : Act (List Bytes) α) (whole : Act Bytes α) : Prop :=
  ∀ pieces : List Bytes, Prod.map id List.flatten (act pieces) = whole pieces.flatten

namespace Mirrors

variable {α β : Type} {act : Act (List Bytes) α} {whole : Act Bytes α}

theorem pure (a : α) : Mirrors (Pure.pure a) (Pure.pure a) := fun _ => rfl

theorem fail (f : Failure) : Mirrors (Act.fail f : Act _ α) (Act.fail f) := fun _ => rfl

/-- Taking bytes. -/
theorem receive (n : Nat) :
    Mirrors (Act.call (inPieces.receive n) .io) (Act.call (channel.receive n) .io) := by
  intro pieces
  rw [Act.run_call, Act.run_call]
  have htaken : (takeExact n pieces).map id List.flatten = channel.receive n pieces.flatten :=
    flatten_takeExact n pieces
  rw [← htaken]
  rfl

/-- One computation after another. -/
theorem bind {next : α → Act (List Bytes) β} {next' : α → Act Bytes β} (h : Mirrors act whole)
    (hnext : ∀ a, Mirrors (next a) (next' a)) : Mirrors (act >>= next) (whole >>= next') := by
  intro pieces
  rw [Act.run_bind, Act.run_bind, ← h pieces]
  rcases act pieces with ⟨stop | a, rest⟩
  · rfl
  · exact hnext a rest

/-- What a computation on the bytes comes to, one on the pieces does. -/
theorem exists_rest (h : Mirrors act whole) {pieces : List Bytes} {bs left : Bytes}
    {result : Except Stop α} (hbytes : pieces.flatten = bs) (hwhole : whole bs = (result, left)) :
    ∃ rest, act pieces = (result, rest) ∧ rest.flatten = left := by
  have heq := h pieces
  rw [hbytes, hwhole] at heq
  obtain ⟨hresult, hrest⟩ := Prod.mk.inj heq
  exact ⟨(act pieces).2, Prod.ext hresult rfl, hrest⟩

end Mirrors

/-- **Receiving a message** from bytes in pieces is receiving it from the bytes. -/
theorem mirrors_receiveMessage {α : Type} (decode : Bytes → Datum.Reading α) :
    Mirrors (inPieces.receiveMessage decode) (channel.receiveMessage decode) := by
  refine (Mirrors.receive 4).bind fun header => ?_
  cases Frame.bodyLength header with
  | error fault => exact .fail _
  | ok length =>
    refine (Mirrors.receive length).bind fun body => ?_
    cases decode body with
    | ok message => exact .pure message
    | error mismatch => exact .fail _

end ByteStream

/-! ## Messages -/

/-- A request or a response. -/
inductive Message where
  | request (request : Request)
  | response (response : Response)
  deriving DecidableEq

namespace Message

/-- Which of the two a message is. -/
inductive Kind where
  | asking
  | answering
  deriving DecidableEq

/-- Which of the two the message is. -/
def kind : Message → Kind
  | .request _ => .asking
  | .response _ => .answering

/-- The bytes of a message, if it has any. -/
def encode? : Message → Option Bytes
  | .request asked => asked.encode?
  | .response given => some given.encode

/-- The frame of a message. -/
def frame : Message → Except ProtocolFault Bytes
  | .request asked => asked.frame
  | .response given => given.frame

/-- The message of a kind that bytes begin with. -/
def decode : Kind → Bytes → Datum.Reading Message
  | .asking, bs => .request <$> Request.decode bs
  | .answering, bs => .response <$> Response.decode bs

/-- The message has bytes, and they fit into a frame. -/
def IsSendable (message : Message) : Prop :=
  ∃ body, message.encode? = some body ∧ body.length ≤ Frame.maxLength

instance (message : Message) : Decidable message.IsSendable :=
  decidable_of_iff (message.encode?.any (·.length ≤ Frame.maxLength) = true)
    (by simp [IsSendable, Option.any_eq_true])

/-- The bytes in which a message is sent, if it can be sent. -/
def framed (message : Message) : Bytes :=
  match message.frame with
  | .ok bs => bs
  | .error _ => []

/-- Writes messages one after the other, whatever becomes of each. -/
def sendAll (channel : Channel σ) (messages : List Message) :
    Act σ (List (Except Failure Unit)) :=
  messages.mapM fun message => (channel.sendFrame message.frame).guarded

/-- Reads messages of these kinds one after the other. -/
def receiveAll (channel : Channel σ) (kinds : List Kind) : Act σ (List Message) :=
  kinds.mapM fun kind => channel.receiveMessage (decode kind)

variable {message : Message} {body : Bytes}

/-! ### One message -/

/-- A message that can be sent has a frame, which is its length and its bytes. -/
theorem frame_eq (hencode : message.encode? = some body) (hsize : body.length ≤ Frame.maxLength) :
    message.frame = .ok (bigEndianBytes 4 body.length ++ body) := by
  cases message with
  | request asked => exact Link.frame_of_encode? hencode hsize
  | response given =>
    cases hencode
    exact Frame.ofBody_of_le hsize

/-- A message that cannot be sent has none. -/
theorem exists_fault (h : ¬ message.IsSendable) : ∃ fault, message.frame = .error fault := by
  cases message with
  | request asked =>
    cases hencode : asked.encode? with
    | none => exact ⟨.notEncodable, by rw [frame, Request.frame, hencode]⟩
    | some body =>
      have hsize : ¬ body.length ≤ Frame.maxLength := fun hsize => h ⟨body, hencode, hsize⟩
      exact ⟨_, by rw [frame, Request.frame, hencode]; exact Frame.ofBody_of_not_le hsize⟩
  | response given =>
    have hsize : ¬ given.encode.length ≤ Frame.maxLength := fun hsize => h ⟨_, rfl, hsize⟩
    exact ⟨_, Frame.ofBody_of_not_le hsize⟩

/-- The bytes of a message are decoded to it. -/
theorem decode_kind (hencode : message.encode? = some body)
    (hsize : body.length ≤ Frame.maxLength) : decode message.kind body = .ok message := by
  cases message with
  | request asked =>
    have hdecode : Request.decode body = .ok asked := Request.decode_of_le hencode hsize
    rw [kind, decode, hdecode]
    rfl
  | response given =>
    cases hencode
    have hdecode : Response.decode given.encode = .ok given := Response.decode_of_le hsize
    rw [kind, decode, hdecode]
    rfl

/-- **A message that cannot be sent** is refused, and no byte of it is written, whatever is written
to. -/
theorem sendFrame_refused {fault : ProtocolFault} (h : message.frame = .error fault)
    (channel : Channel σ) (s : σ) :
    channel.sendFrame message.frame s = (.error (.failed (.protocol fault)), s) := by
  rw [h]
  rfl

/-- A message is received where its frame is the first. -/
theorem receive_framed (h : message.IsSendable) (rest : Bytes) :
    ByteStream.channel.receiveMessage (decode message.kind) (message.framed ++ rest) =
      (.ok message, rest) := by
  obtain ⟨body, hencode, hsize⟩ := h
  have hframed : message.framed = bigEndianBytes 4 body.length ++ body := by
    rw [framed, frame_eq hencode hsize]
  rw [hframed, ByteStream.receiveMessage_body _ (Connection.next_frame hsize rest),
    decode_kind hencode hsize]
  rfl

/-! ### All of them -/

/-- The first message is written, and then the others, whatever became of it. -/
theorem sendAll_cons (channel : Channel σ) (message : Message) (messages : List Message) :
    sendAll channel (message :: messages) =
      (channel.sendFrame message.frame).guarded >>= fun outcome =>
        sendAll channel messages >>= fun outcomes => pure (outcome :: outcomes) := by
  rw [sendAll, List.mapM_cons]
  rfl

/-- Every message that can be sent is written, and no other leaves a byte. -/
theorem sendAll_buffer (messages : List Message) (before : Bytes) :
    ∃ outcomes, sendAll ByteStream.buffer messages before =
        (.ok outcomes, before ++ (messages.filter IsSendable).flatMap framed) ∧
      outcomes.map Except.isOk = messages.map fun message => decide message.IsSendable := by
  induction messages generalizing before with
  | nil => exact ⟨[], by simp [sendAll], rfl⟩
  | cons message messages ih =>
    rw [sendAll_cons, Act.run_bind, Act.run_guarded]
    by_cases h : message.IsSendable
    · have hsend : ByteStream.buffer.sendFrame message.frame before =
          (.ok (), before ++ message.framed) := by
        obtain ⟨body, hencode, hsize⟩ := h
        rw [framed, frame_eq hencode hsize]
        rfl
      obtain ⟨outcomes, hsent, houtcomes⟩ := ih (before ++ message.framed)
      refine ⟨.ok () :: outcomes, ?_, ?_⟩
      · simp only [hsend, Act.run_bind, hsent, Act.run_pure]
        rw [List.filter_cons_of_pos (by simpa using h), List.flatMap_cons, List.append_assoc]
      · rw [List.map_cons, List.map_cons, houtcomes, decide_eq_true h]
        rfl
    · obtain ⟨fault, hfault⟩ := exists_fault h
      obtain ⟨outcomes, hsent, houtcomes⟩ := ih before
      refine ⟨.error (.protocol fault) :: outcomes, ?_, ?_⟩
      · simp only [sendFrame_refused hfault, Act.run_bind, hsent, Act.run_pure]
        rw [List.filter_cons_of_neg (by simpa using h)]
      · rw [List.map_cons, List.map_cons, houtcomes, decide_eq_false h]
        rfl

/-- The first message is read, and then the others. -/
theorem receiveAll_cons (channel : Channel σ) (kind : Kind) (kinds : List Kind) :
    receiveAll channel (kind :: kinds) =
      channel.receiveMessage (decode kind) >>= fun message =>
        receiveAll channel kinds >>= fun messages => pure (message :: messages) := by
  rw [receiveAll, List.mapM_cons]
  rfl

/-- Reading messages from bytes in pieces is reading them from the bytes. -/
theorem mirrors_receiveAll (kinds : List Kind) :
    ByteStream.Mirrors (receiveAll ByteStream.inPieces kinds)
      (receiveAll ByteStream.channel kinds) := by
  induction kinds with
  | nil => exact .pure []
  | cons kind kinds ih =>
    rw [receiveAll_cons, receiveAll_cons]
    exact (ByteStream.mirrors_receiveMessage _).bind fun message => ih.bind fun _ => .pure _

/-- Messages whose frames follow each other are read in order. -/
theorem receiveAll_framed (messages : List Message)
    (h : ∀ message ∈ messages, message.IsSendable) (rest : Bytes) :
    receiveAll ByteStream.channel (messages.map kind) (messages.flatMap framed ++ rest) =
      (.ok messages, rest) := by
  induction messages with
  | nil => rfl
  | cons message messages ih =>
    rw [List.map_cons, receiveAll_cons, List.flatMap_cons, List.append_assoc, Act.run_bind,
      receive_framed (h message (by simp))]
    simp only [Act.run_bind, ih fun message hmem => h message (by simp [hmem]), Act.run_pure]

/-- **The law of frames.**

* Messages are written one after the other, and each is accepted exactly if it can be sent. However
  the bytes that were written are cut into pieces, those that were accepted are read from them, in
  order, and then the stream is at its end.
* A message that cannot be sent breaks the protocol, and nothing at all is written of it.
* A length has a header, and a header is accepted, exactly up to the limit, and the two are each
  other's inverse.

**Proof sketch.** What is written is the frame of each message that can be sent, one behind the
other (`sendAll_buffer`), and a message that cannot be sent is refused before a byte of it is
written (`exists_fault`, `sendFrame_refused`). A message is received where its frame is the first,
so by induction all of them are (`receiveAll_framed`). Reading from pieces goes through the same
steps as reading from the bytes, and takes the same bytes in each of them (`mirrors_receiveAll`); so
what holds of the bytes holds of every way to cut them. A header is the length in four bytes, which
determine it up to the limit (`Frame.header_eq_ok_iff`). -/
theorem framing_law :
    (∀ messages : List Message, ∃ outcomes written,
      sendAll ByteStream.buffer messages [] = (.ok outcomes, written) ∧
      outcomes.map Except.isOk = messages.map (fun message => decide message.IsSendable) ∧
      ∀ pieces : List Bytes, pieces.flatten = written → ∃ rest,
        let accepted := messages.filter IsSendable
        receiveAll ByteStream.inPieces (accepted.map kind) pieces = (.ok accepted, rest) ∧
        ∀ kind, (ByteStream.inPieces.receiveMessage (decode kind) rest).1 =
          .error (.failed (.io .streamEnded))) ∧
    (∀ message : Message, ¬ message.IsSendable →
      ∃ fault, ∀ (τ : Type) (channel : Channel τ) (s : τ),
      channel.sendFrame message.frame s = (.error (.failed (.protocol fault)), s)) ∧
    (∀ length, (∃ bs, Frame.header length = .ok bs) ↔ length ≤ Frame.maxLength) ∧
    (∀ bs, (∃ length, Frame.bodyLength bs = .ok length) ↔ bigEndian bs ≤ Frame.maxLength) ∧
    ∀ length bs, Frame.header length = .ok bs ↔
      bs.length = 4 ∧ Frame.bodyLength bs = .ok length := by
  refine ⟨fun messages => ?_, fun message h => ?_, fun length => ?_, fun bs => ?_, fun _ _ =>
    Frame.header_eq_ok_iff⟩
  · obtain ⟨outcomes, hsent, houtcomes⟩ := sendAll_buffer messages []
    refine ⟨outcomes, _, hsent, houtcomes, fun pieces hpieces => ?_⟩
    have hread := receiveAll_framed (messages.filter IsSendable)
      (fun message hmem => by simpa using (List.mem_filter.mp hmem).2) []
    rw [List.append_nil] at hread
    obtain ⟨rest, hreceived, hrest⟩ := (mirrors_receiveAll _).exists_rest hpieces hread
    refine ⟨rest, hreceived, fun kind => ?_⟩
    have hend : ByteStream.channel.receiveMessage (decode kind) [] =
        (.error (.failed (.io .streamEnded)), []) := rfl
    obtain ⟨_, hended, -⟩ := (ByteStream.mirrors_receiveMessage _).exists_rest hrest hend
    rw [hended]
  · obtain ⟨fault, hfault⟩ := exists_fault h
    exact ⟨fault, fun τ channel s => sendFrame_refused hfault channel s⟩
  · unfold Frame.header
    split <;> simp_all
  · unfold Frame.bodyLength
    simp only
    split <;> simp_all

/-- Three messages are written, the second of which has a path that is not text. The bytes arrive
in pieces that begin and end anywhere, and the other two are read. -/
theorem framing_law_skipped :
    let messages : List Message :=
      [.request .ping, .request (.chroot ⟨[0x2F, 0xFF]⟩), .response .pong]
    let pieces : List Bytes :=
      [[0, 0], [0, 11, 129, 164, 116, 121, 112, 101, 164, 80, 105, 110, 103, 0, 0, 0], [],
        [11, 129, 164, 116, 121, 112, 101, 164, 80, 111, 110], [103]]
    ∃ outcomes rest,
      sendAll ByteStream.buffer messages [] = (.ok outcomes, pieces.flatten) ∧
      outcomes.map Except.isOk = [true, false, true] ∧
      receiveAll ByteStream.inPieces [.asking, .answering] pieces =
        (.ok [.request .ping, .response .pong], rest) := by
  intro messages pieces
  obtain ⟨outcomes, written, hsent, houtcomes, hread⟩ := framing_law.1 messages
  have hwritten : (sendAll ByteStream.buffer messages []).2 = pieces.flatten := rfl
  have haccepted : messages.filter IsSendable = [.request .ping, .response .pong] := by decide
  have hsendable : messages.map (fun message => decide message.IsSendable) =
      [true, false, true] := by decide
  obtain rfl : written = pieces.flatten := by rw [← hwritten, hsent]
  obtain ⟨rest, hreceived, -⟩ := hread pieces rfl
  rw [haccepted] at hreceived
  exact ⟨outcomes, rest, hsent, houtcomes.trans hsendable, hreceived⟩

end Message
end Container
