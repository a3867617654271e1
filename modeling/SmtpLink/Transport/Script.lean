import SmtpLink.Transport.Channel

/-!
# Scripts for a channel

## Main definitions

* `ChannelStep` — one use of an end of a channel.
* `ChannelScript.run` — takes the steps on a channel and reports on each.
-/

namespace SmtpLink

/-- One use of an end of a channel, or of the counter that both share. -/
inductive ChannelStep
  | write (data : Bytes)
  | full
  | secure
  | upgrade
  | close
  | dropSender
  | receive
  | dropReceiver
  | setSecure
  | written (length low : UInt64)

/-- What a step yields. -/
inductive ChannelResult
  /-- The end that the step uses was dropped before. -/
  | gone
  | nothing
  | flag (b : Bool)
  | outcome (result : Outcome)
  | receipt (receipt : Receipt)

/-- What came of a step, and the counter after it. -/
structure ChannelReport where
  /-- What the step yielded. -/
  result : ChannelResult
  /-- The bytes queued and not acknowledged. -/
  queued : UInt64

namespace ChannelScript

/-- The channel after a call that may be refused, with the outcome of the call. -/
def settle (c : Channel) : Except Error Channel → Channel × ChannelResult
  | .ok c => (c, .outcome (.ok ()))
  | .error err => (c, .outcome (.error err))

/-- Takes one step at the connection's end. -/
def stepSender (c : Channel) : ChannelStep → Channel × ChannelResult
  | .write data => settle c (c.write data)
  | .full => (c.full.2, .flag c.full.1)
  | .secure => (c, .flag c.secure)
  | .upgrade => settle c c.upgrade
  | .close => (c.close, .nothing)
  | .dropSender => (c.release, .nothing)
  | _ => (c, .nothing)

/-- Takes one step at the socket's end. -/
def stepReceiver (c : Channel) : ChannelStep → Channel × ChannelResult
  | .receive => (c.receive.2, .receipt c.receive.1)
  | .dropReceiver => (c.dropReceiver, .nothing)
  | _ => (c, .nothing)

/-- Takes one step, unless the end that it uses is gone. -/
def step (c : Channel) (s : ChannelStep) : Channel × ChannelResult :=
  match s with
  | .setSecure => (c.setSecure, .nothing)
  | .written length low => ((c.written length low).2, .flag (c.written length low).1)
  | .receive | .dropReceiver => if c.receiverGone then (c, .gone) else stepReceiver c s
  | _ => if c.senderGone then (c, .gone) else stepSender c s

/-- Takes the steps on a channel and reports on each. -/
def run (c : Channel) : List ChannelStep → List ChannelReport
  | [] => []
  | s :: rest =>
    let (c, result) := step c s
    { result, queued := c.queued } :: run c rest

end ChannelScript

end SmtpLink
