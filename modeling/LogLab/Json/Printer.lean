import LogLab.Json.Basic
import LogLab.Number.Hexadecimal
import LogLab.Number.Shortest

/-! # JSON text

The compact text of a value, and the text over several lines. Only the quote, the backslash and
control characters are escaped; a float has the fewest digits that read back.
-/

namespace LogLab.Json

def escapeChar (c : Char) : List Char :=
  if c = '\x22' then ['\x5c', '\x22']
  else if c = '\x5c' then ['\x5c', '\x5c']
  else if c = '\x08' then ['\x5c', 'b']
  else if c = '\x0c' then ['\x5c', 'f']
  else if c = '\n' then ['\x5c', 'n']
  else if c = '\r' then ['\x5c', 'r']
  else if c = '\t' then ['\x5c', 't']
  else if c.toNat < 0x20 then
    ['\x5c', 'u', '0', '0', Hexadecimal.digit (c.toNat / 16), Hexadecimal.digit (c.toNat % 16)]
  else [c]

def quote (s : String) : String :=
  String.ofList ('\x22' :: s.toList.flatMap escapeChar ++ ['\x22'])

/-- Floats have a sign in front of every exponent. -/
def floatStyle : Shortest.Style := ⟨true⟩

def floatText (x : Float) : String :=
  String.ofList (Shortest.write floatStyle x)

/-- The text of a value that has no parts. -/
def scalarText : Json → String
  | null => "null"
  | bool true => "true"
  | bool false => "false"
  | int n => toString n
  | float x => floatText x
  | string s => quote s
  | array _ | object _ => ""

mutual

/-- The text of a value without any spaces. -/
def render : Json → String
  | array items => "[" ++ ",".intercalate (renderItems items) ++ "]"
  | object fields => "\x7b" ++ ",".intercalate (renderFields fields) ++ "\x7d"
  | v => scalarText v

@[inherit_doc render]
def renderItems : List Json → List String
  | [] => []
  | v :: vs => render v :: renderItems vs

@[inherit_doc render]
def renderFields : List (String × Json) → List String
  | [] => []
  | (k, v) :: fs => (quote k ++ ":" ++ render v) :: renderFields fs

end

def indent (depth : Nat) : String :=
  String.ofList ('\n' :: List.replicate (2 * depth) ' ')

/-- Parts on lines of their own between two brackets; no parts, no lines. -/
def block (opening closing : String) (depth : Nat) (parts : List String) : String :=
  if parts.isEmpty then opening ++ closing
  else opening ++ ",".intercalate (parts.map (indent (depth + 1) ++ ·)) ++ indent depth ++ closing

mutual

/-- The text of a value with each part on a line of its own. -/
def renderLines (depth : Nat) : Json → String
  | array items => block "[" "]" depth (renderItemLines (depth + 1) items)
  | object fields => block "\x7b" "\x7d" depth (renderFieldLines (depth + 1) fields)
  | v => scalarText v

@[inherit_doc renderLines]
def renderItemLines (depth : Nat) : List Json → List String
  | [] => []
  | v :: vs => renderLines depth v :: renderItemLines depth vs

@[inherit_doc renderLines]
def renderFieldLines (depth : Nat) : List (String × Json) → List String
  | [] => []
  | (k, v) :: fs => (quote k ++ ": " ++ renderLines depth v) :: renderFieldLines depth fs

end

end LogLab.Json
