import LogLab.Json.Shape
import LogLab.Record

/-! # Request bodies

A body is read part by part, so the first fault in the text decides whether the text is malformed or
only does not hold what was asked for. The parts stand in an object, where unknown fields are passed
over and known ones may not repeat, or in an array in their order.
-/

namespace LogLab

open Reader (malformed mismatch)

/-- A query in a dialect, on given records or on a source. -/
structure QueryRequest where
  query : String
  dialect : String
  source : Option String := none
  dataset : Option Dataset := none
  deriving Repr

structure AttemptRequest where
  query : String
  deriving DecidableEq, Repr

abbrev BodyReader := Reader Char

namespace BodyReader

/-- Lists and objects inside the object of a request may be nested this deep. -/
def partDepth : Nat := Json.maxDepth - 1

/-- A value of another kind than was asked for; a scalar has to be well formed all the same. -/
def otherKind {α : Type} (c : Char) : BodyReader α := do
  if c = '[' || c = '{' then mismatch
  else
    let _ ← Json.scalar c
    mismatch

def text : BodyReader String := do
  let c ← Json.peek
  if c = '\x22' then
    let _ ← Reader.next
    String.ofList <$> Json.stringBody
  else otherKind c

/-- A part that may be `null`. -/
def optional {α : Type} (part : BodyReader α) : BodyReader (Option α) := do
  let c ← Json.peek
  if c = 'n' then
    Reader.exactly ['n', 'u', 'l', 'l']
    pure none
  else some <$> part

def record (depth : Nat) : BodyReader Record := do
  let c ← Json.peek
  if c = '{' then
    let _ ← Reader.next
    let fields ← Json.separated '}' (Json.member fun key => (key, ·) <$> Json.value depth)
    pure (Record.ofList (Json.collapseFields fields))
  else otherKind c

def records (depth : Nat) : BodyReader Dataset := do
  let c ← Json.peek
  if c = '[' then
    let _ ← Reader.next
    Json.separated ']' (record (depth - 1))
  else otherKind c

/-- The value of a field, which may not have been read before. -/
def once {α : Type} (read : Option α) (part : BodyReader α) : BodyReader (Option α) := do
  if read.isSome then mismatch
  Json.colon
  some <$> part

/-- The value of a field that is not asked for. -/
def ignored : BodyReader Unit := do
  Json.colon
  Json.skipValue

def required {α : Type} : Option α → BodyReader α
  | some a => pure a
  | none => mismatch

/-- The next element of an array, or nothing in front of its end. -/
def element {α : Type} (isFirst : Bool) (part : BodyReader α) : BodyReader (Option α) := do
  let c ← Json.peek
  if c = ']' then pure none
  else if isFirst then some <$> part
  else if c = ',' then
    let _ ← Reader.next
    some <$> part
  else malformed

def endOfArray : BodyReader Unit := do
  if (← Json.peek) = ']' then
    let _ ← Reader.next
  else malformed

/-- An object read by one reader or an array read by another, after the opening bracket. -/
def structure? {α : Type} (object array : BodyReader α) : BodyReader α := do
  let c ← Json.peek
  if c = '{' then
    let _ ← Reader.next
    object
  else if c = '[' then
    let _ ← Reader.next
    array
  else otherKind c

def run {α : Type} (reader : BodyReader α) (body : List Char) : Except Fault α :=
  Reader.runAll Json.isSpace reader body

end BodyReader

namespace QueryRequest

open BodyReader

structure Draft where
  query : Option String := none
  dialect : Option String := none
  source : Option (Option String) := none
  dataset : Option (Option Dataset) := none

/-- Reads the rest of a field after its name into a draft. -/
def readField (d : Draft) (name : String) : BodyReader Draft :=
  match name with
  | "query" => do pure { d with query := ← once d.query text }
  | "dialect" => do pure { d with dialect := ← once d.dialect text }
  | "data_source" => do pure { d with source := ← once d.source (optional text) }
  | "dataset" => do
    pure { d with dataset := ← once d.dataset (optional (records (partDepth - 1))) }
  | _ => do
    ignored
    pure d

def object : BodyReader QueryRequest := do
  let d ← Json.foldSeparated '}' (fun d => do readField d (← Json.key)) ({} : Draft)
  pure ⟨← required d.query, ← required d.dialect, d.source.join, d.dataset.join⟩

def array : BodyReader QueryRequest := do
  let query ← required (← element true text)
  let dialect ← required (← element false text)
  let source ← element false (optional text)
  let dataset ← element false (optional (records (partDepth - 1)))
  endOfArray
  pure ⟨query, dialect, source.join, dataset.join⟩

def ofBody (body : List Char) : Except Fault QueryRequest :=
  run (structure? object array) body

end QueryRequest

namespace AttemptRequest

open BodyReader

/-- Reads the rest of a field after its name; only the query counts. -/
def readField (query : Option String) (name : String) : BodyReader (Option String) :=
  match name with
  | "query" => once query text
  | _ => do
    ignored
    pure query

def object : BodyReader AttemptRequest := do
  let query ← Json.foldSeparated '}' (fun query => do readField query (← Json.key)) none
  pure ⟨← required query⟩

def array : BodyReader AttemptRequest := do
  let query ← required (← element true text)
  endOfArray
  pure ⟨query⟩

def ofBody (body : List Char) : Except Fault AttemptRequest :=
  run (structure? object array) body

end AttemptRequest

end LogLab
