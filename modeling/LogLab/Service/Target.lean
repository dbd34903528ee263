/-! # Request targets

What a request is sent to: a path, or an address of the web whose path follows the authority. A
query or fragment may stand behind the path.
-/

namespace LogLab.Target

def isSchemeChar (c : Char) : Bool :=
  c.isAlphanum || c == '+' || c == '-' || c == '.' || c == '~'

/-- The text after a scheme and the two slashes behind it, if there is one. -/
def afterScheme? (s : List Char) : Option (List Char) :=
  match s.dropWhile isSchemeChar with
  | ':' :: '/' :: '/' :: rest => some rest
  | _ => none

/-- The sign of a query or of a fragment. -/
def endsPath (c : Char) : Bool :=
  c == '?' || c == '#'

def beforeQuery (s : List Char) : List Char :=
  s.takeWhile fun c => !endsPath c

/-- The path of a target. An address without a path means its root, and an authority alone has no
path. -/
def path (s : List Char) : List Char :=
  if s.head? = some '/' then beforeQuery s
  else match afterScheme? s with
    | some rest =>
      let path := (beforeQuery rest).dropWhile (· != '/')
      if path.isEmpty then ['/'] else path
    | none => []

end LogLab.Target
