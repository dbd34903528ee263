import LogLab.Json.Decoder
import LogLab.Pipeline.Codec
import LogLab.Pipeline.Eval

/-! # Checks

A check decides whether a result set is a right answer to an exercise. Checks are data: they are
part of the document that holds the lessons.
-/

namespace LogLab

/-- The records a check looks at: the first one, or every one. -/
inductive Scope where
  | first
  | every
  deriving DecidableEq, Repr, Inhabited

/-- A condition on a result set. -/
inductive Check where
  | acceptAny
  | minCount (count : UInt64)
  | maxCount (count : UInt64)
  | exactCount (count : UInt64)
  | hasField (field : String) (scope : Scope)
  | fieldCount (count : UInt64)
  | fieldEquals (field : String) (value : Json)
  | fieldIsNumber (field : String)
  | sortedBy (field : String) (direction : Direction)
  | all (checks : List Check)
  | any (checks : List Check)
  deriving Repr, Inhabited

namespace Scope

def tag : Scope → String
  | first => "first"
  | every => "every"

def ofTag? (s : String) : Option Scope :=
  [first, every].find? (·.tag == s)

theorem ofTag?_tag (s : Scope) : ofTag? s.tag = some s := by
  cases s <;> decide

/-- Whether a test holds of the records in the scope, of which there has to be one. -/
def holds (scope : Scope) (test : Record → Bool) (results : Dataset) : Bool :=
  match scope with
  | first => results.head?.any test
  | every => !results.isEmpty && results.all test

end Scope

/-- Whether a relation holds between every record and the next one. -/
def holdsOfNeighbours (related : Record → Record → Bool) : Dataset → Bool
  | a :: b :: rest => related a b && holdsOfNeighbours related (b :: rest)
  | _ => true

namespace Check

mutual

def passes (results : Dataset) : Check → Bool
  | acceptAny => true
  | minCount n => decide (n.toNat ≤ results.length)
  | maxCount n => decide (results.length ≤ n.toNat)
  | exactCount n => results.length == n.toNat
  | hasField field scope => scope.holds (·.contains field) results
  | fieldCount n => results.head?.any fun r => r.entries.length == n.toNat
  | fieldEquals field value => results.all fun r => (r.get? field).any (·.same value)
  | fieldIsNumber field => results.all fun r => (r.get? field).any Json.isNumber
  | sortedBy field direction => holdsOfNeighbours (SortKey.inOrder ⟨field, direction⟩) results
  | all checks => passesAll results checks
  | any checks => passesAny results checks

def passesAll (results : Dataset) : List Check → Bool
  | [] => true
  | c :: cs => passes results c && passesAll results cs

def passesAny (results : Dataset) : List Check → Bool
  | [] => false
  | c :: cs => passes results c || passesAny results cs

end

mutual

def toJson : Check → Json
  | acceptAny => .object [("type", .string "accept_any")]
  | minCount n => .object [("type", .string "min_count"), ("count", .ofCount n)]
  | maxCount n => .object [("type", .string "max_count"), ("count", .ofCount n)]
  | exactCount n => .object [("type", .string "exact_count"), ("count", .ofCount n)]
  | hasField field scope =>
    .object [("type", .string "has_field"), ("field", .string field), ("scope", .string scope.tag)]
  | fieldCount n => .object [("type", .string "field_count"), ("count", .ofCount n)]
  | fieldEquals field value =>
    .object [("type", .string "field_equals"), ("field", .string field), ("value", value)]
  | fieldIsNumber field =>
    .object [("type", .string "field_is_number"), ("field", .string field)]
  | sortedBy field direction =>
    .object [("type", .string "sorted_by"), ("field", .string field),
      ("order", .string direction.tag)]
  | all checks => .object [("type", .string "all"), ("checks", .array (listToJson checks))]
  | any checks => .object [("type", .string "any"), ("checks", .array (listToJson checks))]

def listToJson : List Check → List Json
  | [] => []
  | c :: cs => toJson c :: listToJson cs

end

inductive Kind where
  | acceptAny
  | minCount
  | maxCount
  | exactCount
  | hasField
  | fieldCount
  | fieldEquals
  | fieldIsNumber
  | sortedBy
  | all
  | any
  deriving DecidableEq, Repr

namespace Kind

def list : List Kind :=
  [acceptAny, minCount, maxCount, exactCount, hasField, fieldCount, fieldEquals, fieldIsNumber,
    sortedBy, all, any]

def tag : Kind → String
  | acceptAny => "accept_any"
  | minCount => "min_count"
  | maxCount => "max_count"
  | exactCount => "exact_count"
  | hasField => "has_field"
  | fieldCount => "field_count"
  | fieldEquals => "field_equals"
  | fieldIsNumber => "field_is_number"
  | sortedBy => "sorted_by"
  | all => "all"
  | any => "any"

def ofTag? (s : String) : Option Kind :=
  list.find? (·.tag == s)

theorem ofTag?_tag (k : Kind) : ofTag? k.tag = some k := by
  cases k <;> decide

/-- The kind that a value names. If the value was set aside, its number in the list will do. -/
def ofJson? (setAside : Bool) : Json → Option Kind
  | .string s => ofTag? s
  | .int (.ofNat n) => if setAside then list[n]? else none
  | _ => none

def parts : Kind → List String
  | acceptAny => []
  | minCount | maxCount | exactCount | fieldCount => ["count"]
  | hasField => ["field", "scope"]
  | fieldEquals => ["field", "value"]
  | fieldIsNumber => ["field"]
  | sortedBy => ["field", "order"]
  | all | any => ["checks"]

/-- The check of a kind with given parts; `checks` are those of its part of this name. -/
def build (kind : Kind) (part : String → Option Json) (checks : Option (List Check)) :
    Option Check :=
  let count : Option UInt64 := (part "count").bind Json.count?
  let field : Option String := (part "field").bind Json.string?
  match kind with
  | acceptAny => some .acceptAny
  | minCount => count.map .minCount
  | maxCount => count.map .maxCount
  | exactCount => count.map .exactCount
  | hasField => do
    let ofSymbol? (v : Json) : Option Scope := (v.symbol? true).bind Scope.ofTag?
    let scope ← Json.withDefault? .first ofSymbol? (part "scope")
    pure (.hasField (← field) scope)
  | fieldCount => count.map .fieldCount
  | fieldEquals => do pure (.fieldEquals (← field) (← part "value"))
  | fieldIsNumber => field.map .fieldIsNumber
  | sortedBy => do
    let direction ← Json.withDefault? .asc (Direction.ofJson? true) (part "order")
    pure (.sortedBy (← field) direction)
  | all => checks.map .all
  | any => checks.map .any

end Kind

/-- The check of a kind whose parts are those of a value; `checks` gives the checks that the part of
a name holds. -/
def ofParts? (setAside : Bool) (kind : Json) (parts : Json)
    (checks : String → Option (List Check)) : Option Check := do
  let kind ← Kind.ofJson? setAside kind
  let part ← parts.parts? kind.parts
  kind.build part (checks "checks")

mutual

/-- The check that a value describes: an object with a kind and its parts, or an array of the kind
and the parts in order. All parts are set aside until the kind is known. -/
def ofJson? (setAside : Bool) : Json → Option Check
  | .object fields =>
    if Json.repeats ["type"] fields then none
    else do
      ofParts? setAside (← fields.lookup "type") (.object (fields.filter fun f => f.1 != "type"))
        fun name => (fieldLists fields).lookup name |>.join
  | .array (kind :: items) => ofParts? setAside kind (.array items) fun _ => firstList items
  | _ => none

def list? : Json → Option (List Check)
  | .array items => itemChecks items
  | _ => none

def itemChecks : List Json → Option (List Check)
  | [] => some []
  | v :: vs => do
    let c ← ofJson? true v
    let cs ← itemChecks vs
    pure (c :: cs)

/-- The checks in each field that is an array of checks. -/
def fieldLists : List (String × Json) → List (String × Option (List Check))
  | [] => []
  | (name, v) :: fs => (name, list? v) :: fieldLists fs

/-- The checks in the first part, if that is an array of checks. -/
def firstList : List Json → Option (List Check)
  | [] => none
  | v :: _ => list? v

end

end Check

end LogLab
