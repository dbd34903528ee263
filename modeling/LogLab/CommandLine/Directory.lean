import LogLab.Text.Blank

/-! # Directories

The files under a directory, by their names from there. A path is followed step by step, and every
directory on the way has to be there. Nothing outside of the directory can be seen.
-/

namespace LogLab

/-- The texts of files under their names, in which slashes separate directories. -/
structure Directory where
  files : List (String × String)
  deriving Repr, Inhabited

namespace Directory

/-- The steps of a path: the parts between slashes, without empty parts. -/
def steps (path : String) : List String :=
  (Text.fieldsAt (· == '/') path.toList).map String.ofList

def hasDirectory (d : Directory) (place : List String) : Bool :=
  place.isEmpty || d.files.any fun f =>
    place.isPrefixOf (steps f.1) && place.length < (steps f.1).length

/-- The place that steps lead to from a directory. -/
def follow? (d : Directory) (place : List String) : List String → Option (List String)
  | [] => some place
  | step :: rest =>
    if !d.hasDirectory place then none
    else if step = "." then d.follow? place rest
    else if step = ".." then if place.isEmpty then none else d.follow? place.dropLast rest
    else d.follow? (place ++ [step]) rest

def read? (d : Directory) (path : String) : Option String := do
  if path.startsWith "/" || path.endsWith "/" then none
  let place ← d.follow? [] (steps path)
  let (_, text) ← d.files.find? fun f => steps f.1 == place
  pure text

end Directory

end LogLab
