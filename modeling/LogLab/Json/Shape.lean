import LogLab.Json.Reader

/-! # Reading a part of a JSON text

What nobody looks at only has to have the form of JSON: a number may be too large, half of a pair
may stand alone in a string, and lists and objects may be nested to any depth. A shape says which
parts of a value are looked at.
-/

namespace LogLab.Json

def skipString : Reader Char Unit :=
  Reader.iterate (fun () => do
    let c ← Reader.next
    if c = '\x22' then pure (.inr ())
    else if c.toNat < 0x20 then Reader.malformed
    else if c = '\x5c' then
      let d ← Reader.next
      if (unescape? d).isSome then pure (.inl ())
      else match d, codeUnit? (← get) with
        | 'u', some (_, rest) => set rest; pure (.inl ())
        | _, _ => Reader.malformed
    else pure (.inl ())) ()

/-- Passes over a value that is no list and no object; `c` is its first character. -/
def skipScalar (c : Char) : Reader Char Unit := do
  if c = '\x22' then
    let _ ← Reader.next
    skipString
  else if c = '-' || Numeral.isDigit c then let _ ← written
  else let _ ← scalar c

def skipKey : Reader Char Unit := do
  if (← peek) = '\x22' then
    let _ ← Reader.next
    skipString
    colon
  else Reader.malformed

def skipNested (depth : Nat) : Reader Char Unit := do
  let c ← peek
  match depth with
  | 0 => if c = '[' || c = '{' then Reader.malformed else skipScalar c
  | depth + 1 =>
    if c = '[' then
      let _ ← Reader.next
      foldSeparated ']' (fun () => skipNested depth) ()
    else if c = '{' then
      let _ ← Reader.next
      foldSeparated '}' (fun () => do skipKey; skipNested depth) ()
    else skipScalar c

/-- Passes over a value. It cannot be nested deeper than the text is long. -/
def skipValue : Reader Char Unit := do
  skipNested (← get).length

/-- Which parts of a value are looked at: all of it, the items of a list, the parts of a structure,
or the fields of an object. -/
inductive Shape where
  | whole
  | list (items : Shape)
  | parts (shapes : List (String × Shape))
  | table (fields : Shape)
  deriving Repr, Inhabited

def Shape.next : List (String × Shape) → Shape
  | [] => whole
  | (_, shape) :: _ => shape

/-- A value with the parts in a shape, nested at most `depth` deep. Fields of a structure that are
no parts of it are passed over. -/
def shaped (depth : Nat) (shape : Shape) : Reader Char Json := do
  let c ← peek
  match depth, shape with
  | depth + 1, .list items =>
    if c = '[' then
      let _ ← Reader.next
      array <$> separated ']' (shaped depth items)
    else value (depth + 1)
  | depth + 1, .parts shapes =>
    if c = '{' then
      let _ ← Reader.next
      let fields ← separated '}' (member fun name =>
        match shapes.lookup name with
        | some part => do pure (some (name, ← shaped depth part))
        | none => do skipValue; pure none)
      pure (object (fields.filterMap id))
    else if c = '[' then
      let _ ← Reader.next
      let (items, _) ← foldSeparated ']' (fun (items, shapes) => do
        pure ((← shaped depth (Shape.next shapes)) :: items, shapes.tail)) ([], shapes)
      pure (array items.reverse)
    else value (depth + 1)
  | depth + 1, .table fields =>
    if c = '{' then
      let _ ← Reader.next
      object <$> separated '}' (member fun name => do pure (name, ← shaped depth fields))
    else value (depth + 1)
  | depth, _ => value depth

def parseShaped? (shape : Shape) (text : List Char) : Option Json :=
  (Reader.runAll isSpace (shaped maxDepth shape) text).toOption

end LogLab.Json
