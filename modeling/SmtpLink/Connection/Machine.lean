import SmtpLink.Connection.Operation

/-!
# Runs of a connection

Operations leave work, and work calls handlers, which use the connection again. The machine
here says what such runs look like, whatever the handlers do: handlers are code that may ask
for any admitted operation at any time until it returns. It leaves open what transports do
behind the connection's back.

## Main definitions

* `Frame` — work that is due, or code that is running.
* `Machine` — an endpoint and what is due, innermost first.
* `Label` — what a move shows: the call of a handler, or an operation.
* `Machine.Move` — one move.
* `Machine.Run` — the moves of a run with their labels, oldest first.
-/

namespace SmtpLink

variable {H : Type}

/-- Work that is due, or code that is running. -/
inductive Frame (H : Type)
  /-- Work that is due. -/
  | work (work : Work H)
  /-- Code of the application, or of whoever drives the connection from outside. -/
  | code

/-- An endpoint and what is due, innermost first. -/
structure Machine (H : Type) where
  /-- The connection and what surrounds it. -/
  endpoint : Endpoint H
  /-- What is due. -/
  frames : List (Frame H)

/-- What a move shows. -/
inductive Label (H : Type)
  /-- A handler is called. -/
  | call (handler : H) (notice : Notice)
  /-- An operation is asked for. -/
  | operate (operation : Operation H)
  /-- A call returns. -/
  | leave
  /-- A piece of work is done. -/
  | work
  /-- Something changes around the connection. -/
  | outside

/-- What may happen to a transport behind the connection's back: switches are set, and the
socket's end of a channel is used. -/
inductive Transport.Drift : Transport → Transport → Prop
  | switches (s s' : Switches) : Drift (.manual s) (.manual s')
  | received (c : Channel) : Drift (.channel c) (.channel c.receive.2)
  | written (c : Channel) (length low : UInt64) :
      Drift (.channel c) (.channel (c.written length low).2)
  | secured (c : Channel) : Drift (.channel c) (.channel c.setSecure)
  | receiverDropped (c : Channel) : Drift (.channel c) (.channel c.dropReceiver)

namespace Machine

/-- A connection that was just made, with the code outside running. -/
def initial : Machine H := { endpoint := {}, frames := [.code] }

/-- One move of the machine, with what it shows. Running code may ask for the admitted
operations. -/
inductive Move (admitted : Operation H → Prop) : Machine H → Label H → Machine H → Prop
  /-- Work that calls no handler is done, and what it leaves comes first. -/
  | work {e : Endpoint H} {w : Work H} {frames : List (Frame H)}
      (noCall : ∀ handler notice, w ≠ .call handler notice) :
      Move admitted ⟨e, .work w :: frames⟩ .work
        ⟨(e.resume w).1, (e.resume w).2.map .work ++ frames⟩
  /-- A handler is called. -/
  | call {e : Endpoint H} {handler : H} {notice : Notice} {frames : List (Frame H)} :
      Move admitted ⟨e, .work (.call handler notice) :: frames⟩ (.call handler notice)
        ⟨e, .code :: frames⟩
  /-- Running code asks for an operation. -/
  | operate {e : Endpoint H} {operation : Operation H} {frames : List (Frame H)}
      (isAdmitted : admitted operation) :
      Move admitted ⟨e, .code :: frames⟩ (.operate operation)
        ⟨(e.perform operation).1, (e.perform operation).2.map .work ++ .code :: frames⟩
  /-- A handler returns. The code outside never does. -/
  | leave {e : Endpoint H} {frame : Frame H} {frames : List (Frame H)} :
      Move admitted ⟨e, .code :: frame :: frames⟩ .leave ⟨e, frame :: frames⟩
  /-- A transport changes behind the connection's back. -/
  | drift {e : Endpoint H} {frames : List (Frame H)} {id : TransportId} {t t' : Transport}
      (found : e.transports[id]? = some t) (drift : t.Drift t') :
      Move admitted ⟨e, frames⟩ .outside ⟨e.setTransport id t', frames⟩
  /-- Time passes. -/
  | wait {e : Endpoint H} {frames : List (Frame H)} {now : Instant} (later : e.clock ≤ now) :
      Move admitted ⟨e, frames⟩ .outside ⟨{ e with clock := now }, frames⟩
  /-- Another task runs. -/
  | switch {e : Endpoint H} {task : Option TaskId} :
      Move admitted ⟨e, [.code]⟩ .outside ⟨{ e with task }, [.code]⟩

/-- A run: the labels of its moves, oldest first. -/
inductive Run (admitted : Operation H → Prop) : Machine H → List (Label H) → Machine H → Prop
  /-- No move. -/
  | nil (m : Machine H) : Run admitted m [] m
  /-- One move after others. -/
  | snoc {m n o : Machine H} {labels : List (Label H)} {label : Label H}
      (run : Run admitted m labels n) (move : Move admitted n label o) :
      Run admitted m (labels ++ [label]) o

/-- All operations left are done: only the code outside is running. -/
def Settled (m : Machine H) : Prop := m.frames = [.code]

end Machine

end SmtpLink
