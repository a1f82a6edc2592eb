import Container.Helper.Service
import Container.Proofs.Helper.Link
import Container.Proofs.Helper.Received

set_option autoImplicit false

/-!
# What a helper does about the requests that it receives

A helper answers the requests that it receives one after the other, each with a frame. What it does
about bytes, in whatever pieces they come, is what handling those requests does, and what it sends
is the frames of the responses.

## Main definitions

* `Response.framed` — the bytes in which a response is sent.
* `Dispatcher.handleAll` — answers requests one after the other.
* `Dispatcher.FitAlong` — each response on the way fits into a frame.

## Main results

* `Connection.drain_received` — answering what waits is handling the requests in it.
* `Service.run_pieces` — an engine that sends pieces and goes.
-/

namespace Container

variable {σ : Type}

/-- The bytes in which a response is sent, if it can be sent. -/
def Response.framed (response : Response) : Bytes :=
  match response.frame with
  | .ok frame => frame
  | .error _ => []

/-- A response that fits is sent as a frame. -/
theorem Response.Fits.frame_eq {response : Response} (h : response.Fits) :
    response.frame = .ok response.framed := by
  have hframe : response.frame = _ := Frame.ofBody_of_le h
  rw [framed, hframe]

namespace Dispatcher

/-- Answers requests one after the other. -/
def handleAll (sys : System σ) (d : Dispatcher σ) (requests : List Request) :
    Act σ (List Response) :=
  requests.mapM (d.handle sys)

/-- Each response fits into a frame when requests are answered one after the other. -/
def FitAlong (sys : System σ) (d : Dispatcher σ) : List Request → σ → Prop
  | [], _ => True
  | request :: requests, s =>
    match d.handle sys request s with
    | (.ok response, s) => response.Fits ∧ FitAlong sys d requests s
    | (.error _, _) => True

variable (sys : System σ) (d : Dispatcher σ)

theorem handleAll_nil : d.handleAll sys [] = pure [] := rfl

/-- The first request is answered, and then the others. -/
theorem handleAll_cons (request : Request) (requests : List Request) :
    d.handleAll sys (request :: requests) =
      d.handle sys request >>= fun response =>
        d.handleAll sys requests >>= fun responses => pure (response :: responses) := by
  rw [handleAll, List.mapM_cons]
  rfl

/-- Requests are answered in two parts. -/
theorem handleAll_append (requests later : List Request) :
    d.handleAll sys (requests ++ later) =
      d.handleAll sys requests >>= fun responses =>
        d.handleAll sys later >>= fun responses' => pure (responses ++ responses') := by
  rw [handleAll, List.mapM_append]
  rfl

end Dispatcher

/-! ## Bytes that wait -/

namespace Connection

variable (sys : System σ) (d : Dispatcher σ)

/-- **Answering what waits** is handling the requests in it one after the other. What is left then
holds no request.

**Proof sketch.** By induction on the number of bytes that wait. Where a whole frame is found that
holds a request, handling it is the first thing that both sides do. -/
theorem drain_received {s : σ} (answers bs : Bytes)
    (hfits : d.FitAlong sys (ByteStream.received Request.decode bs).1 s) :
    drain sys d answers bs s =
      (d.handleAll sys (ByteStream.received Request.decode bs).1 >>= fun responses =>
        drain sys d (answers ++ responses.flatMap Response.framed)
          (ByteStream.received Request.decode bs).2) s := by
  induction bs using next_induction generalizing answers s with
  | incomplete bs hnext =>
    rw [ByteStream.received_incomplete _ hnext, Dispatcher.handleAll_nil, pure_bind,
      List.flatMap_nil, List.append_nil]
  | wrong bs fault hnext =>
    rw [ByteStream.received_wrong _ hnext, Dispatcher.handleAll_nil, pure_bind, List.flatMap_nil,
      List.append_nil]
  | body bs body rest hnext ih =>
    have hreceived := ByteStream.received_body Request.decode hnext
    cases hdecode : Request.decode body with
    | error mismatch =>
      rw [hdecode] at hreceived
      rw [hreceived, Dispatcher.handleAll_nil, pure_bind, List.flatMap_nil, List.append_nil]
    | ok request =>
      rw [hdecode] at hreceived
      rw [hreceived] at hfits ⊢
      rw [drain_body sys d hnext, hdecode]
      simp only [Dispatcher.FitAlong, Dispatcher.handleAll_cons, bind_assoc, pure_bind] at hfits ⊢
      simp only [Act.run_bind]
      rcases hhandle : d.handle sys request s with ⟨stop | response, s'⟩
      · rfl
      · rw [hhandle] at hfits
        have hrest := ih (answers ++ response.framed) hfits.2
        simp only [hfits.1.frame_eq, hrest, List.flatMap_cons, List.append_assoc, Act.run_bind]

end Connection

/-! ## An engine that goes -/

namespace Service

variable (sys : System σ) (socket : Path) (d : Dispatcher σ) (engine : Nat)

/-- Bytes of the engine are fed to the connection, unless that has ended. -/
theorem step_receive (c : Connection) (bs : Bytes) :
    step sys socket d (settle engine c) (.receive engine bs) =
      c.feed sys d bs >>= fun fed => pure (settle engine fed.1, fed.2) := by
  obtain ⟨waiting, ended?⟩ := c
  cases ended? with
  | some e => rfl
  | none => simp only [settle, step, if_true]

/-- The engine goes, unless the connection has ended before. -/
theorem step_hangUp (c : Connection) :
    step sys socket d (settle engine c) (.hangUp engine) =
      (liftM (c.hangUp sys) : Act σ _) >>= fun result => pure (.finished result, []) := by
  obtain ⟨waiting, ended?⟩ := c
  cases ended? with
  | some e => rfl
  | none => simp only [settle, step, if_true]

/-- **An engine sends some pieces and goes**: the pieces are taken in, and then the connection
ends. -/
theorem run_pieces (c : Connection) (pieces : List Bytes) :
    run sys socket d (settle engine c) (pieces.map (.receive engine) ++ [.hangUp engine]) =
      c.feedPieces sys d pieces >>= fun fed =>
        (liftM (fed.1.hangUp sys) : Act σ _) >>= fun result => pure (.finished result, fed.2) := by
  induction pieces generalizing c with
  | nil =>
    rw [List.map_nil, List.nil_append, run, step_hangUp]
    simp only [run, Connection.feedPieces, bind_assoc, pure_bind, List.append_nil]
  | cons piece pieces ih =>
    rw [List.map_cons, List.cons_append, run, step_receive, Connection.feedPieces]
    simp only [bind_assoc, pure_bind, ih]

end Service
end Container
