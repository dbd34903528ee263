import LogLab.Number.Decimal
import LogLab.Scan

/-! # Media types

The type of a message body: two words with a slash between them, and parameters. A body is read as
JSON only if its type says so.
-/

namespace LogLab

/-- A media type in lower case, without its parameters. The part of the second word after its last
plus, if any, is the suffix. -/
structure MediaType where
  type : List Char
  subtype : List Char
  suffix : Option (List Char)
  deriving DecidableEq, Repr

namespace MediaType

def isTokenChar (c : Char) : Bool :=
  c.isAlphanum || "!#$%&\x27*+-.^_\x60|~".toList.contains c

def isQuotedChar (c : Char) : Bool :=
  32 ≤ c.toNat && c.toNat < 127

/-- A value between quotes, and blanks after it. The first character of the value may be a quote. -/
def scanQuoted : Scan Unit := do
  Scan.char '\x22'
  let c ← Scan.next
  if !isQuotedChar c then failure
  let _ ← Scan.takeWhile fun c => isQuotedChar c && c != '\x22'
  Scan.char '\x22'
  let _ ← Scan.takeWhile (· == ' ')

/-- A name, an equals sign and a value, which may be empty at the end of the text. -/
def scanParameter : Scan Unit := do
  let _ ← Scan.takeWhile (· == ' ')
  let _ ← Scan.takeWhile1 isTokenChar
  Scan.char '='
  Scan.orElse scanQuoted
    (Scan.orElse Scan.atEnd (do let _ ← Scan.takeWhile1 isTokenChar))

/-- Whether a text is a list of parameters with semicolons between them; `count` bounds their
number. -/
def areParameters (count : Nat) (s : List Char) : Bool :=
  (s.all (· == ' ')) ||
    match count, scanParameter s with
    | count + 1, some ((), ';' :: rest) => areParameters count rest
    | _, some ((), rest) => rest.isEmpty
    | _, none => false

/-- The words before and after the last plus, unless that is the first character. -/
def splitSuffix (word : List Char) : List Char × Option (List Char) :=
  let back := word.reverse.takeWhile (· != '+')
  let front := word.take (word.length - back.length - 1)
  if front.isEmpty then (word, none) else (front, some back.reverse)

def parse? (s : List Char) : Option MediaType :=
  let s := s.map Char.toLower
  let type := s.takeWhile isTokenChar
  match s.dropWhile isTokenChar with
  | '/' :: rest =>
    let word := rest.takeWhile isTokenChar
    let (subtype, suffix) := splitSuffix word
    if type.isEmpty then none
    else match rest.dropWhile isTokenChar with
      | [] => some ⟨type, subtype, suffix⟩
      | ';' :: parameters =>
        if !word.isEmpty && areParameters parameters.length parameters then
          some ⟨type, subtype, suffix⟩
        else none
      | _ => none
  | _ => none

/-- Whether a body of this type holds JSON. -/
def isJson (m : MediaType) : Bool :=
  m.type == "application".toList &&
    (m.subtype == "json".toList || m.suffix == some "json".toList)

end MediaType

end LogLab
