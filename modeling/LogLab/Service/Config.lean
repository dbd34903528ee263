import LogLab.Service.Address
import LogLab.Text.Blank

/-! # Configuration of the service

Where the service listens and where its data are. Each setting may be given as text; what is not
given has a default.
-/

namespace LogLab

/-- The host and port to listen on, and the directory with the data, if it is not the samples. -/
structure Config where
  host : String := "0.0.0.0"
  port : UInt16 := 8080
  dataDir : Option String := none
  deriving DecidableEq, Repr

instance : Inhabited Config := ⟨{}⟩

inductive ConfigError where
  | invalidPort
  | invalidAddress (host : String) (port : UInt16)
  deriving DecidableEq, Repr, Inhabited

def ConfigError.message : ConfigError → String
  | invalidPort => "SIEMLAB_PORT is not a valid port number"
  | invalidAddress host port => "Invalid bind address " ++ host ++ ":" ++ toString port

namespace Config

def parsePort? (s : String) : Option UInt16 :=
  (Numeral.natural? UInt16.size s.toList).map UInt16.ofNat

/-- The configuration with the given port and the other settings. A directory whose name is blank
does not count. -/
def withPort (host dataDir : Option String) (port : UInt16) : Config :=
  { host := host.getD (default : Config).host, port,
    dataDir := dataDir.filter fun dir => !(Text.trim dir.toList).isEmpty }

def ofSettings (host port dataDir : Option String) : Except ConfigError Config :=
  match port with
  | none => .ok (withPort host dataDir (default : Config).port)
  | some s =>
    match parsePort? s with
    | some n => .ok (withPort host dataDir n)
    | none => .error .invalidPort

def hostAndPort (c : Config) : String :=
  c.host ++ ":" ++ toString c.port

def address (c : Config) : Except ConfigError SocketAddress :=
  match SocketAddress.parse? c.hostAndPort.toList with
  | some address => .ok address
  | none => .error (.invalidAddress c.host c.port)

end Config

end LogLab
