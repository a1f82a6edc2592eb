import Container.Helper.Connection
import Container.Proofs.Act
import Container.Proofs.MessagePack.Torn
import Container.Proofs.Wire.Messages

set_option autoImplicit false

/-!
# Bytes in pieces

It does not matter to a helper how the bytes that it is sent are cut into pieces: what it does and
what it answers depends on the bytes alone. A piece that ends within a frame is kept until the
rest comes.

## Main definitions

* `Connection.feedPieces` — takes bytes in piece by piece.
* `Connection.Settled` — a connection that waits for more, as it is between two pieces.

## Main results

* `Connection.feed_append` — feeding bytes in two pieces is feeding them at once.
* `Connection.feedPieces_eq` — and so for any number of pieces.
* `Connection.feed_frame` — a whole frame is answered.
-/

namespace Container

open MessagePack

variable {σ : Type}

/-! ## Frames -/

namespace Frame

variable {body frame : Bytes}

/-- Every body that is not too long has a frame. -/
theorem ofBody_of_le (h : body.length ≤ maxLength) :
    ofBody body = .ok (bigEndianBytes 4 body.length ++ body) := by
  simp [ofBody, header, h, bind, Except.bind, pure, Except.pure]

/-- A body that is too long has none. -/
theorem ofBody_of_not_le (h : ¬body.length ≤ maxLength) :
    ofBody body = .error (.frameTooLarge body.length) := by
  simp [ofBody, header, h, bind, Except.bind]

end Frame

/-- The body of a frame is decoded to the request that it was made from. -/
theorem Request.decode_of_le {request : Request} {body : Bytes}
    (hencode : request.encode? = some body) (hsize : body.length ≤ Frame.maxLength) :
    Request.decode body = .ok request := by
  have hshort := Request.isShort_of_length hencode (by simp only [Frame.maxLength] at hsize; omega)
  have hrest := Request.decode_encode? hencode hshort []
  rwa [List.append_nil] at hrest

/-- The body of a frame is decoded to the response that it was made from. -/
theorem Response.decode_of_le {response : Response}
    (hsize : response.encode.length ≤ Frame.maxLength) :
    Response.decode response.encode = .ok response := by
  have hshort := response.isShort_of_length (by simp only [Frame.maxLength] at hsize; omega)
  have hrest := response.decode_encode hshort []
  rwa [List.append_nil] at hrest

namespace Connection

/-- A frame is found at the beginning of the bytes. -/
theorem next_frame {body : Bytes} (h : body.length ≤ Frame.maxLength) (rest : Bytes) :
    next (bigEndianBytes 4 body.length ++ body ++ rest) = .body body rest := by
  have hheader : Frame.header body.length = .ok (bigEndianBytes 4 body.length) := by
    simp [Frame.header, h]
  rw [next, List.append_assoc, takeBytes?_append (by simp)]
  simp only [Frame.bodyLength_header hheader, takeBytes?_append rfl]

/-- A frame that is there stays there. -/
theorem next_append_body {bs body rest : Bytes} (h : next bs = .body body rest) (later : Bytes) :
    next (bs ++ later) = .body body (rest ++ later) := by
  unfold next at h ⊢
  split at h
  · cases h
  · rename_i header rest₀ hheader
    rw [takeBytes?_append_of_some hheader]
    simp only
    split at h
    · cases h
    · split at h
      · cases h
      · rename_i hbody
        cases h
        simp only [takeBytes?_append_of_some hbody]

/-- A header that announces too much stays. -/
theorem next_append_wrong {bs : Bytes} {fault : ProtocolFault} (h : next bs = .wrong fault)
    (later : Bytes) : next (bs ++ later) = .wrong fault := by
  unfold next at h ⊢
  split at h
  · cases h
  · rename_i header rest₀ hheader
    rw [takeBytes?_append_of_some hheader]
    simp only
    split at h
    · cases h
      rfl
    · split at h
      · cases h
      · cases h

/-- Bytes are taken apart frame by frame, until there is no whole one or one that is too long. -/
theorem next_induction {P : Bytes → Prop} (incomplete : ∀ bs, next bs = .incomplete → P bs)
    (wrong : ∀ bs fault, next bs = .wrong fault → P bs)
    (body : ∀ bs body rest, next bs = .body body rest → P rest → P bs) (bs : Bytes) : P bs := by
  induction hsize : bs.length using Nat.strongRecOn generalizing bs with
  | ind size ih =>
    cases hnext : next bs with
    | incomplete => exact incomplete bs hnext
    | wrong fault => exact wrong bs fault hnext
    | body first rest =>
      exact body bs first rest hnext (ih rest.length (hsize ▸ length_of_next hnext) rest rfl)

/-! ## Draining -/

section Drain

variable (sys : System σ) (d : Dispatcher σ)

/-- Nothing happens where nothing is whole. -/
theorem drain_incomplete {bs : Bytes} (h : next bs = .incomplete) (answers : Bytes) :
    drain sys d answers bs = pure (⟨bs, none⟩, answers) := by
  rw [drain]
  split <;> simp_all

/-- A header that announces too much ends the connection. -/
theorem drain_wrong {bs : Bytes} {fault : ProtocolFault} (h : next bs = .wrong fault)
    (answers : Bytes) :
    drain sys d answers bs = pure (⟨[], some (.frame fault)⟩, answers) := by
  rw [drain]
  split <;> simp_all

/-- A frame is answered, and what follows it comes next. -/
theorem drain_body {bs body rest : Bytes} (h : next bs = .body body rest) (answers : Bytes) :
    drain sys d answers bs =
      match Request.decode body with
      | .error mismatch => pure (⟨[], some (.notDecodable mismatch)⟩, answers)
      | .ok request => d.handle sys request >>= fun response =>
        match response.frame with
        | .error fault => pure (⟨[], some (.frame fault)⟩, answers)
        | .ok frame => drain sys d (answers ++ frame) rest := by
  rw [drain]
  split
  · simp_all
  · simp_all
  · rename_i hbody
    rw [h] at hbody
    obtain ⟨rfl, rfl⟩ := Next.body.inj hbody
    rfl

/-- Answers that were given before stay before those that follow. -/
theorem drain_answers (answers later bs : Bytes) :
    drain sys d (answers ++ later) bs =
      (fun r => (r.1, answers ++ r.2)) <$> drain sys d later bs := by
  induction bs using next_induction generalizing later with
  | incomplete bs hnext => simp [drain_incomplete sys d hnext]
  | wrong bs fault hnext => simp [drain_wrong sys d hnext]
  | body bs body rest hnext ih =>
    rw [drain_body sys d hnext, drain_body sys d hnext]
    cases Request.decode body with
    | error mismatch => simp
    | ok request =>
      simp only [map_bind]
      congr 1
      funext response
      cases response.frame with
      | error fault => simp
      | ok frame =>
        simp only [List.append_assoc]
        exact ih (later ++ frame)

/-- Draining what is there and then what comes later is draining both at once. -/
theorem drain_append (answers bs later : Bytes) :
    drain sys d answers (bs ++ later) = drain sys d answers bs >>= fun r =>
      match r.1.ended? with
      | some _ => pure r
      | none => drain sys d r.2 (r.1.waiting ++ later) := by
  induction bs using next_induction generalizing answers with
  | incomplete bs hnext => simp [drain_incomplete sys d hnext]
  | wrong bs fault hnext =>
    simp [drain_wrong sys d hnext, drain_wrong sys d (next_append_wrong hnext later)]
  | body bs body rest hnext ih =>
    rw [drain_body sys d hnext, drain_body sys d (next_append_body hnext later)]
    cases Request.decode body with
    | error mismatch => simp
    | ok request =>
      simp only [bind_assoc]
      congr 1
      funext response
      cases response.frame with
      | error fault => simp
      | ok frame => exact ih _

end Drain

/-! ## Feeding -/

section Feed

variable (sys : System σ) (d : Dispatcher σ)

/-- Draining what is there and what comes later is draining what is there and then feeding. -/
theorem drain_feed (answers bs later : Bytes) :
    drain sys d answers (bs ++ later) = drain sys d answers bs >>= fun r =>
      (fun r' => (r'.1, r.2 ++ r'.2)) <$> r.1.feed sys d later := by
  rw [drain_append]
  congr 1
  funext r
  unfold feed
  cases r.1.ended? with
  | some e => simp
  | none =>
    have hanswers := drain_answers sys d r.2 [] (r.1.waiting ++ later)
    rwa [List.append_nil] at hanswers

/-- **Feeding bytes in two pieces** is feeding them at once: the second piece finds the connection
as the first left it, and its answers follow those to the first. -/
theorem feed_append (c : Connection) (first second : Bytes) :
    c.feed sys d (first ++ second) = c.feed sys d first >>= fun r =>
      (fun r' => (r'.1, r.2 ++ r'.2)) <$> r.1.feed sys d second := by
  unfold feed
  cases hended : c.ended? with
  | some e => simp [hended]
  | none =>
    rw [← List.append_assoc]
    exact drain_feed sys d [] (c.waiting ++ first) second

/-- Takes bytes in piece by piece. -/
def feedPieces (sys : System σ) (d : Dispatcher σ) (c : Connection) :
    List Bytes → Act σ (Connection × Bytes)
  | [] => return (c, [])
  | piece :: pieces => do
    let (c, answers) ← c.feed sys d piece
    let (c, later) ← feedPieces sys d c pieces
    return (c, answers ++ later)

/-- A connection that has answered all it could: it has ended, or what waits is not whole. -/
def Settled (c : Connection) : Prop :=
  match c.ended? with
  | some _ => True
  | none => next c.waiting = .incomplete

theorem settled_start : start.Settled := rfl

variable {sys d} {c c' : Connection} {answers : Bytes} {s s' : σ}

/-- What draining leaves is settled. -/
theorem settled_of_drain {before bs : Bytes}
    (h : drain sys d before bs s = (.ok (c, answers), s')) :
    c.Settled := by
  induction bs using next_induction generalizing before s with
  | incomplete bs hnext =>
    rw [drain_incomplete sys d hnext] at h
    cases h
    exact hnext
  | wrong bs fault hnext =>
    rw [drain_wrong sys d hnext] at h
    cases h
    trivial
  | body bs body rest hnext ih =>
    rw [drain_body sys d hnext] at h
    cases hdecode : Request.decode body with
    | error mismatch =>
      rw [hdecode] at h
      cases h
      trivial
    | ok request =>
      simp only [hdecode, Act.run_bind] at h
      rcases hhandle : d.handle sys request s with ⟨stop | response, s₁⟩
      · rw [hhandle] at h
        cases h
      · rw [hhandle] at h
        cases hframe : response.frame with
        | error fault =>
          simp only [hframe] at h
          cases h
          trivial
        | ok frame =>
          simp only [hframe] at h
          exact ih h

/-- A settled connection stays settled. -/
theorem Settled.of_feed (hc : c.Settled) {bs : Bytes}
    (h : c.feed sys d bs s = (.ok (c', answers), s')) : c'.Settled := by
  obtain ⟨waiting, ended?⟩ := c
  cases ended? with
  | some e =>
    cases h
    exact hc
  | none => exact settled_of_drain h

/-- Feeding nothing to a settled connection does nothing. -/
theorem Settled.feed_nil (hc : c.Settled) : c.feed sys d [] = pure (c, []) := by
  unfold Settled at hc
  obtain ⟨waiting, ended?⟩ := c
  cases ended? with
  | some e => rfl
  | none => simp only [feed, List.append_nil, drain_incomplete sys d hc]

/-- **How bytes are cut** makes no difference to what is done about them and answered to them. -/
theorem feedPieces_eq (hc : c.Settled) (pieces : List Bytes) :
    c.feedPieces sys d pieces = c.feed sys d pieces.flatten := by
  induction pieces generalizing c with
  | nil => exact hc.feed_nil.symm
  | cons piece pieces ih =>
    rw [List.flatten_cons, feed_append, feedPieces]
    funext s
    simp only [Act.run_bind, Act.run_map]
    rcases hfeed : c.feed sys d piece s with ⟨stop | ⟨c', answers⟩, s'⟩
    · rfl
    · simp only [ih (hc.of_feed hfeed)]
      rcases c'.feed sys d pieces.flatten s' with ⟨stop | ⟨c'', later⟩, s''⟩ <;> rfl

/-- A whole frame with a request is answered by handling the request. -/
theorem feed_frame {request : Request} {body : Bytes} (hencode : request.encode? = some body)
    (hsize : body.length ≤ Frame.maxLength) :
    start.feed sys d (bigEndianBytes 4 body.length ++ body) =
      d.handle sys request >>= fun response =>
        match response.frame with
        | .error fault => pure (⟨[], some (.frame fault)⟩, [])
        | .ok frame => pure (start, frame) := by
  have hnext := next_frame hsize []
  have hdecode := Request.decode_of_le hencode hsize
  rw [List.append_nil] at hnext
  simp only [feed, start, List.nil_append]
  rw [drain_body sys d hnext, hdecode]
  simp only
  congr 1
  funext response
  cases response.frame with
  | error fault => rfl
  | ok frame => exact drain_incomplete sys d rfl frame

end Feed
end Connection
end Container
