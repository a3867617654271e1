import SmtpLink.Duration

/-!
# Configuration of a connection

## Main definitions

* `Security` — when a connection becomes secure, with the usual port for each way.
* `Config` — where to connect and how.
* `Setting`, `Draft` — a configuration in the making: settings are made one by one, and the
  port follows the security if it is not set.
-/

namespace SmtpLink

/-- When a connection becomes secure. -/
inductive Security
  /-- Never. -/
  | none
  /-- On the client's demand, over a plain socket. -/
  | startTls
  /-- From the first byte. -/
  | implicit
deriving DecidableEq, Repr

namespace Security

/-- The way in use if nothing is said. -/
def standard : Security := .startTls

/-- The usual port. -/
def defaultPort : Security → UInt16
  | .none => 25
  | .startTls => 587
  | .implicit => 465

/-- A word for the way. -/
def text : Security → String
  | .none => "none"
  | .startTls => "starttls"
  | .implicit => "implicit"

end Security

/-- Where to connect and how. -/
structure Config where
  /-- The server's name. -/
  host : String
  /-- The server's port. -/
  port : UInt16
  /-- When the connection becomes secure. -/
  security : Security
  /-- How long connecting may take. -/
  connectTimeout : Duration
  /-- How long the reply to QUIT is waited for. -/
  quitTimeout : Duration
  /-- How many queued bytes make the write queue full. -/
  writeQueueLimit : UInt64

/-- The address of the server: its name, a colon and its port. -/
def Config.address (c : Config) : String := c.host ++ ":" ++ toString c.port.toNat

/-- One setting of a configuration. -/
inductive Setting
  | port (port : UInt16)
  | security (security : Security)
  | connectTimeout (limit : Duration)
  | quitTimeout (limit : Duration)
  | writeQueueLimit (limit : UInt64)

/-- A configuration in the making. -/
structure Draft where
  /-- The server's name. -/
  host : String
  /-- The port, if it is set. -/
  port : Option UInt16 := none
  /-- When the connection becomes secure. -/
  security : Security := .startTls
  /-- How long connecting may take. -/
  connectTimeout : Duration := .ofSeconds 30
  /-- How long the reply to QUIT is waited for. -/
  quitTimeout : Duration := .ofSeconds 10
  /-- How many queued bytes make the write queue full. -/
  writeQueueLimit : UInt64 := 65536

namespace Draft

/-- Makes one setting. A write queue limit of nought counts as one byte. -/
def set (d : Draft) : Setting → Draft
  | .port port => { d with port := some port }
  | .security security => { d with security }
  | .connectTimeout limit => { d with connectTimeout := limit }
  | .quitTimeout limit => { d with quitTimeout := limit }
  | .writeQueueLimit limit => { d with writeQueueLimit := max limit 1 }

/-- The finished configuration. -/
def config (d : Draft) : Config where
  host := d.host
  port := d.port.getD d.security.defaultPort
  security := d.security
  connectTimeout := d.connectTimeout
  quitTimeout := d.quitTimeout
  writeQueueLimit := d.writeQueueLimit

end Draft

/-- The configuration for a server that the settings, made in their order, lead to. -/
def Config.build (host : String) (settings : List Setting) : Config :=
  (settings.foldl Draft.set { host }).config

end SmtpLink
