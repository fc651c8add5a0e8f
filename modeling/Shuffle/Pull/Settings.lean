import Shuffle.Decimal.Natural
import Shuffle.Pull.Fault
import Shuffle.Store.Path
import Shuffle.Text.CharClass

/-!
# Settings of the pull service, and its port

Settings come from environment variables. Each has a value of its own if its variable is not set;
of several malformed variables the first in the order of the fields is reported. A service that has
started publishes its port as a 32-bit big-endian number, in the file that its settings name.

- `Settings.ofEnv` reads the settings.
- `Handshake.write` and `Handshake.read` are the two sides of the port handshake.
-/

namespace Shuffle

/-! ## §1 Levels -/

/-- How much is logged. -/
inductive LogLevel where
  | error
  | warn
  | info
  | debug
  | trace
deriving DecidableEq, Repr

namespace LogLevel

/-- All levels, from the fewest messages to the most. -/
def all : List LogLevel := [.error, .warn, .info, .debug, .trace]

/-- The name of a level. -/
def name : LogLevel → String
  | .error => "ERROR"
  | .warn => "WARN"
  | .info => "INFO"
  | .debug => "DEBUG"
  | .trace => "TRACE"

/-- What is said of a text that is no level. -/
def expected : String :=
  "error parsing level: expected one of \"error\", \"warn\", \"info\", \"debug\", \"trace\", "
    ++ "or a number 1-5"

/-- Reads a level: its number from 1 on, or its name in any case. -/
def read (text : String) : Option LogLevel :=
  match Decimal.readUInt64 text with
  -- Levels are numbered from one on.
  | .ok n => if n = 0 then none else all[n.toNat - 1]?
  | .error _ => all.find? fun l => l.name = String.ofList (text.toList.map Char.toUpper)

end LogLevel

/-! ## §2 Settings -/

/-- The settings of a pull service. -/
structure Settings where
  bindHost : String
  /-- The port to listen on; zero for any free one. -/
  port : UInt16
  localDirs : List Path
  user : String
  /-- The application that is served from the start. -/
  app : Option String
  keepAlive : Bool
  idleTimeoutSecs : UInt64
  transferBufferBytes : UInt64
  tlsBufferBytes : UInt64
  encryptedTransport : Bool
  metricsPort : UInt16
  /-- Where the port is published. -/
  metaFile : Option Path
  logLevel : LogLevel
deriving DecidableEq, Repr

/-- A variable with a value that cannot be read. -/
structure SettingFault where
  variableName : String
  reason : String
deriving DecidableEq, Repr

/-- The wording of a fault. -/
def SettingFault.message (f : SettingFault) : String :=
  "Invalid " ++ f.variableName ++ ": " ++ f.reason

namespace Settings

/-- The address to listen on. -/
def bindAddress (s : Settings) : String := s.bindHost ++ ":" ++ Decimal.numeral s.port.toNat

/-- The size of the blocks in which bodies are sent. It is never zero. -/
def bufferSize (s : Settings) : UInt64 :=
  max 1 (if s.encryptedTransport then s.tlsBufferBytes else s.transferBufferBytes)

/-- The variables that settings come from. -/
def variableNames : List String :=
  ["PULLSERVER_BIND_HOST", "PULLSERVER_PORT", "PULLSERVER_LOCAL_DIRS", "PULLSERVER_USER", "USER",
    "PULLSERVER_APP_ID", "PULLSERVER_KEEP_ALIVE", "PULLSERVER_IDLE_TIMEOUT_SECS",
    "PULLSERVER_TRANSFER_BUFFER_BYTES", "PULLSERVER_TLS_BUFFER_BYTES",
    "PULLSERVER_ENCRYPTED_TRANSPORT", "PULLSERVER_METRICS_PORT", "PULLSERVER_META_FILE",
    "LOG_LEVEL"]

/-- The directories between commas, without blanks around them. -/
def readDirs (text : String) : List Path :=
  (((text.toList.splitOn ',').map fun part => Blank.trim (String.ofList part)).filter (· ≠ "")).map
    Path.mk

/-- Reads a truth value. -/
def readBool (text : String) : Except String Bool :=
  if text = "true" then .ok true
  else if text = "false" then .ok false
  else .error "provided string was not \x60true\x60 or \x60false\x60"

/-- Reads a number, a fault as text. -/
def readNumber {α : Type} (read : String → Except Decimal.NumberFault α) (text : String) :
    Except String α :=
  (read text).mapError Decimal.NumberFault.message

/-- Reads a level, a fault as text. -/
def readLevel (text : String) : Except String LogLevel :=
  match LogLevel.read text with
  | some l => .ok l
  | none => .error LogLevel.expected

/-- The value of a variable, or one of its own. -/
def value {α : Type} (env : String → Option String) (name : String) (unset : α)
    (read : String → Except String α) : Except SettingFault α :=
  match env name with
  | none => .ok unset
  | some text => (read text).mapError (SettingFault.mk name)

/-- Settings from an environment. -/
def ofEnv (env : String → Option String) : Except SettingFault Settings := do
  let port ← value env "PULLSERVER_PORT" 8080 (readNumber Decimal.readUInt16)
  let keepAlive ← value env "PULLSERVER_KEEP_ALIVE" true readBool
  let idleTimeout ← value env "PULLSERVER_IDLE_TIMEOUT_SECS" 60 (readNumber Decimal.readUInt64)
  let transferBuffer ←
    value env "PULLSERVER_TRANSFER_BUFFER_BYTES" (4 * 1024 * 1024) (readNumber Decimal.readUInt64)
  let tlsBuffer ←
    value env "PULLSERVER_TLS_BUFFER_BYTES" (60 * 1024) (readNumber Decimal.readUInt64)
  let encrypted ← value env "PULLSERVER_ENCRYPTED_TRANSPORT" false readBool
  let metricsPort ← value env "PULLSERVER_METRICS_PORT" 9091 (readNumber Decimal.readUInt16)
  let level ← value env "LOG_LEVEL" .info readLevel
  return {
    bindHost := (env "PULLSERVER_BIND_HOST").getD "0.0.0.0"
    port
    localDirs := readDirs ((env "PULLSERVER_LOCAL_DIRS").getD "./local")
    user := (env "PULLSERVER_USER" <|> env "USER").getD "stagefetch"
    app := env "PULLSERVER_APP_ID"
    keepAlive
    idleTimeoutSecs := idleTimeout
    transferBufferBytes := transferBuffer
    tlsBufferBytes := tlsBuffer
    encryptedTransport := encrypted
    metricsPort
    metaFile := (env "PULLSERVER_META_FILE").map Path.mk
    logLevel := level }

end Settings

/-! ## §3 The port handshake -/

namespace Handshake

/-- A port as it is published. -/
def write (port : UInt16) : Bytes := Bytes.bigEndian 4 port.toNat

/-- The port that was published. Octets behind the number are ignored. -/
def read (bytes : Bytes) : Except PullFault UInt16 :=
  let field := bytes.take 4
  if field.length < 4 then .error (.handshakeLength bytes.length)
  else
    -- The number is signed: one with its highest bit set is no port but a negative number.
    let port := (UInt32.ofNat (Bytes.ofBigEndian field)).toInt32.toInt
    if 0 ≤ port ∧ port ≤ 65535 then .ok (UInt16.ofNat port.toNat) else .error (.handshakePort port)

end Handshake

end Shuffle
