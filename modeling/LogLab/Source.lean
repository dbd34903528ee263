import LogLab.Text.Blank
import LogLab.Text.Lowercase

/-! # Data sources

The named logs that lessons and queries run on.
-/

namespace LogLab

/-- A kind of log. -/
inductive Source where
  | authLogs
  | networkTraffic
  | dnsLogs
  | processEvents
  deriving DecidableEq, Repr, Inhabited

structure UnknownSource where
  text : String
  deriving DecidableEq, Repr, Inhabited

def UnknownSource.message (e : UnknownSource) : String :=
  "Unknown data source: '" ++ e.text ++ "'"

namespace Source

def all : List Source := [authLogs, networkTraffic, dnsLogs, processEvents]

/-- The name, which is also the name of a data file without its extension. -/
def name : Source → String
  | authLogs => "auth_logs"
  | networkTraffic => "network_traffic"
  | dnsLogs => "dns_logs"
  | processEvents => "process_events"

instance : ToString Source := ⟨name⟩

def ofName? (s : String) : Option Source :=
  all.find? (·.name == s)

/-- The source that a text names, with blanks around it and in any letter case. -/
def parse? (s : String) : Option Source :=
  ofName? (String.ofList (Text.asciiLower (Text.trim s.toList)))

def ofText (s : String) : Except UnknownSource Source :=
  match parse? s with
  | some source => .ok source
  | none => .error ⟨s⟩

theorem ofName?_name (s : Source) : ofName? s.name = some s := by
  cases s <;> decide

end Source

end LogLab
