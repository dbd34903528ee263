import LogLab.Service.Grading
import LogLab.Service.MediaType
import LogLab.Service.Target
import LogLab.Text.Percent

/-! # The routes of the service

A request is matched by the path of its target, then by its method, and is then answered. A request
with a body has to say that the body is JSON, and the body may not be too long. A request whose
query crashes gets no response.
-/

namespace LogLab

structure Request where
  method : String
  target : String
  contentType : Option String := none
  body : String := ""
  deriving Repr

/-- A response: a status, and a body if it is JSON. -/
structure Response where
  status : Nat
  body : Option Json := none
  deriving Repr

/-- What a target leads to. The parts of a path that vary are kept as they are written. -/
inductive Route where
  | health
  | query
  | lessons (dialect : String)
  | lesson (dialect index : String)
  | attempts (dialect index : String)
  deriving DecidableEq, Repr

namespace Route

def segments (target : String) : List String :=
  (Text.cutAt (· == '/') (Target.path target.toList)).map String.ofList

/-- The route of a target. A part that varies may be empty, unless the path ends with it. -/
def ofTarget? (target : String) : Option Route :=
  match segments target with
  | ["", "health"] => some health
  | ["", "api", "v1", "query"] => some query
  | ["", "api", "v1", "lessons", dialect] => if dialect = "" then none else some (lessons dialect)
  | ["", "api", "v1", "lessons", dialect, index] =>
    if index = "" then none else some (lesson dialect index)
  | ["", "api", "v1", "lessons", dialect, index, "attempts"] => some (attempts dialect index)
  | _ => none

def takesBody : Route → Bool
  | health | lessons _ | lesson .. => false
  | query | attempts .. => true

def allows (route : Route) (method : String) : Bool :=
  if route.takesBody then method == "POST" else method == "GET" || method == "HEAD"

end Route

namespace Response

def plain (status : Nat) : Response := ⟨status, none⟩

/-- A response with what was asked for or the reason why it is not given. -/
def ofResult : Except (Halt Rejection) Json → Except Crash Response
  | .ok v => .ok ⟨200, some v⟩
  | .error (.failed r) => .ok ⟨r.status, some r.toJson⟩
  | .error (.crashed crash) => .error crash

def withoutBody (r : Response) : Response :=
  plain r.status

end Response

def Request.maxBody : Nat := 2 * 1024 * 1024

def Request.hasJson (request : Request) : Bool :=
  ((request.contentType.bind fun s => MediaType.parse? s.toList).map MediaType.isJson).getD false

/-- What a body holds, or the response to a body that cannot be read. -/
def Request.readBody {α : Type} (request : Request) (read : List Char → Except Fault α) :
    Except Response α :=
  if !request.hasJson then .error (.plain 415)
  else if maxBody < request.body.utf8ByteSize then .error (.plain 413)
  else match read request.body.toList with
    | .ok a => .ok a
    | .error .malformed => .error (.plain 400)
    | .error .mismatch => .error (.plain 422)

namespace Service

def version : String := "0.1.0"

def health : Json :=
  .object [("status", .string "healthy"), ("service", .string "siemlab-api"),
    ("version", .string version), ("dialects", .array (Dialect.all.map fun d => .string d.tag))]

/-- A dialect and an index as they stand in a path; both have to be UTF-8, and the index a number
below `2 ^ 64`. -/
def lessonPlace? (dialect index : String) : Option (String × Nat) := do
  let dialect ← Text.percentDecode? dialect
  let index ← Text.percentDecode? index
  let index ← Numeral.natural? UInt64.size index.toList
  pure (dialect, index)

/-- The response to a request for a route with a method that it allows. -/
def answer (lab : Lab) (request : Request) : Route → Except Crash Response
  | .health => .ok ⟨200, some health⟩
  | .query =>
    match request.readBody QueryRequest.ofBody with
    | .error response => .ok response
    | .ok query => Response.ofResult ((lab.answer query).map Query.Answer.toJson)
  | .lessons dialect =>
    match Text.percentDecode? dialect with
    | none => .ok (.plain 400)
    | some dialect => Response.ofResult (liftM (lab.listLessons dialect))
  | .lesson dialect index =>
    match lessonPlace? dialect index with
    | none => .ok (.plain 400)
    | some (dialect, index) => Response.ofResult (liftM (lab.showLesson dialect index))
  | .attempts dialect index =>
    match lessonPlace? dialect index with
    | none => .ok (.plain 400)
    | some (dialect, index) =>
      match request.readBody AttemptRequest.ofBody with
      | .error response => .ok response
      | .ok attempt => Response.ofResult ((lab.grade dialect index attempt.query).map Graded.toJson)

/-- The response to a request. Questions about options are always answered. -/
def respond (lab : Lab) (request : Request) : Except Crash Response :=
  if request.method = "OPTIONS" then .ok (.plain 200)
  else match Route.ofTarget? request.target with
    | none => .ok (.plain 404)
    | some route =>
      if !route.allows request.method then .ok (.plain 405)
      else if request.method = "HEAD" then (answer lab request route).map Response.withoutBody
      else answer lab request route

end Service

end LogLab
