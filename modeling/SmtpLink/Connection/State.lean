/-!
# States of a connection

```text
         open              connected           set idle
closed ---------> connecting ------> active <----------> idle
                      |                |       use         |
               failed |                | close             | close
                      v                v                   |
                    broken <---- shutting down <-----------+
                      ^  fault         | QUIT answered
                      |                v
            any live state          closed
```

## Main definitions

* `Usage` — what a connection that holds a socket is used for.
* `ConnectionState` — the state as seen from outside.
-/

namespace SmtpLink

/-- What a connection that holds a socket is used for. -/
inductive Usage
  /-- Checked out to a caller. -/
  | active
  /-- Parked in the pool. -/
  | idle
  /-- Being closed with QUIT. -/
  | shuttingDown
deriving DecidableEq, Repr

/-- The state of a connection as seen from outside. -/
inductive ConnectionState
  /-- Never opened, or closed by us. -/
  | closed
  /-- Waiting for the socket to connect. -/
  | connecting
  /-- Holding a socket. -/
  | live (usage : Usage)
  /-- Unusable after a fault or an explicit break. -/
  | broken
deriving DecidableEq, Repr

namespace ConnectionState

/-- Checked out to a caller. -/
@[match_pattern] abbrev active : ConnectionState := .live .active

/-- Parked in the pool. -/
@[match_pattern] abbrev idle : ConnectionState := .live .idle

/-- Being closed with QUIT. -/
@[match_pattern] abbrev shuttingDown : ConnectionState := .live .shuttingDown

/-- All states. -/
def all : List ConnectionState :=
  [.closed, .connecting, .active, .idle, .shuttingDown, .broken]

/-- The connection holds a socket. -/
def isLive : ConnectionState → Bool
  | .live _ => true
  | _ => false

/-- The connection can never be used again. -/
def isTerminal : ConnectionState → Bool
  | .closed | .broken => true
  | _ => false

/-- A command may be in flight: faults are reported in these states only. -/
def isInFlight : ConnectionState → Bool
  | .active | .shuttingDown => true
  | _ => false

/-- The name of a state in messages. -/
def text : ConnectionState → String
  | .closed => "closed"
  | .connecting => "connecting"
  | .active => "active"
  | .idle => "idle"
  | .shuttingDown => "shutting down"
  | .broken => "broken"

/-- The name of a state in descriptions of a connection. -/
def label : ConnectionState → String
  | .closed => "Closed"
  | .connecting => "Connecting"
  | .active => "Active"
  | .idle => "Idle"
  | .shuttingDown => "ShuttingDown"
  | .broken => "Broken"

/-- The state with a label. -/
def ofLabel? (label : String) : Option ConnectionState :=
  all.find? fun state => state.label == label

end ConnectionState

end SmtpLink
