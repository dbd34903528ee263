import LogLab.Number.Decimal
import LogLab.Number.Shortest
import LogLab.Yaml.Tree

/-! # YAML values

The value of a document: plain scalars become nothing, truth values, numbers or texts by their
form, aliases are replaced by what they stand for, and no mapping may hold a key twice.
-/

namespace LogLab.Yaml

/-- A YAML value. A tag of the document's own wraps the value that carries it. -/
inductive Node where
  | null
  | bool (b : Bool)
  | int (n : Int)
  | float (x : Float)
  | string (s : List Char)
  | sequence (items : List Node)
  | mapping (entries : List (Node × Node))
  | tagged (tag : List Char) (value : Node)
  deriving Repr, Inhabited

namespace Node

def untagged : Node → Node
  | tagged _ v => v.untagged
  | v => v

def dropMark : List Char → List Char
  | '!' :: c :: cs => c :: cs
  | s => s

/-- What tells two tags apart: their texts without the marks in front, of which there may be two. -/
def tagName (tag : List Char) : List Char :=
  dropMark (dropMark tag)

/-- Equality of two floats as keys: by value, and all that are not numbers are equal. -/
def sameFloat (x y : Float) : Bool :=
  x == y || (x != x && y != y)

mutual

/-- Equality of values as keys; the order of the entries of a mapping does not matter. -/
def same : Node → Node → Bool
  | null, null => true
  | bool a, bool b => a == b
  | int m, int n => m == n
  | float x, float y => sameFloat x y
  | string s, string t => s == t
  | sequence xs, sequence ys => sameItems xs ys
  | mapping es, mapping fs => es.length == fs.length && sameEntries es fs
  | tagged s x, tagged t y => tagName s == tagName t && same x y
  | _, _ => false

@[inherit_doc same]
def sameItems : List Node → List Node → Bool
  | [], [] => true
  | x :: xs, y :: ys => same x y && sameItems xs ys
  | _, _ => false

def sameEntries : List (Node × Node) → List (Node × Node) → Bool
  | [], _ => true
  | (k, v) :: es, fs =>
    (match fs.find? fun f => same k f.1 with
      | some f => same v f.2
      | none => false) && sameEntries es fs

end

def digitValue? (base : Nat) (c : Char) : Option Nat :=
  (Hexadecimal.value? c).filter (· < base)

def natValue? (base : Nat) (digits : List Char) : Option Nat :=
  if digits.isEmpty then none
  else (digits.mapM (digitValue? base)).map fun ds => ds.foldl (fun n d => n * base + d) 0

/-- The base that is written in front of digits, and the digits. -/
def withBase? : List Char → Option (Nat × List Char)
  | '0' :: 'x' :: ds => some (16, ds)
  | '0' :: 'o' :: ds => some (8, ds)
  | '0' :: 'b' :: ds => some (2, ds)
  | _ => none

/-- Digits that start with a zero in front of others are no number. -/
def hasLeadingZero (digits : List Char) : Bool :=
  1 < digits.length && digits.head? == some '0' && digits.all Numeral.isDigit

def magnitude? (s : List Char) : Option Nat :=
  match withBase? s with
  | some (base, ds) => natValue? base ds
  | none => if hasLeadingZero s then none else natValue? 10 s

/-- The integers of 128 bits lie below this bound if they have no sign, and from minus half of it
on if they have one. -/
def integerBound : Nat := UInt64.size * UInt64.size

/-- The integer that a text writes, if it is one of at most 128 bits. -/
def integer? : List Char → Option Int
  | '-' :: s =>
    (magnitude? s).bind fun n => if n ≤ integerBound / 2 then some (-(n : Int)) else none
  | '+' :: s => (magnitude? s).bind fun n => if n < integerBound then some (n : Int) else none
  | s => (magnitude? s).bind fun n => if n < integerBound then some (n : Int) else none

def isInfinityName (s : List Char) : Bool :=
  [".inf".toList, ".Inf".toList, ".INF".toList].contains s

def isNanName (s : List Char) : Bool :=
  [".nan".toList, ".NaN".toList, ".NAN".toList].contains s

def dropPlus : List Char → List Char
  | '+' :: s => s
  | s => s

/-- The float that a text writes. Numerals that are too large do not write one. -/
def float? (s : List Char) : Option Float :=
  if isInfinityName (dropPlus s) then some (1 / 0)
  else if s.head? = some '-' ∧ isInfinityName s.tail then some (-1 / 0)
  else if isNanName s then some (0 / 0)
  else if dropPlus s ≠ s ∧ (dropPlus s).head?.any (fun c => c = '+' ∨ c = '-') then none
  else (Numeral.read? (dropPlus s)).bind Numeral.toFinite?

def bool? (s : List Char) : Option Bool :=
  if ["true".toList, "True".toList, "TRUE".toList].contains s then some true
  else if ["false".toList, "False".toList, "FALSE".toList].contains s then some false
  else none

def isNullName (s : List Char) : Bool :=
  ["null".toList, "Null".toList, "NULL".toList, "~".toList].contains s

/-- An integer as a value; more than sixty-four bits are too many. -/
def ofInteger? (n : Int) : Option Node :=
  if -(UInt64.size / 2 : Nat) ≤ n ∧ n < UInt64.size then some (int n) else none

def dropSign : List Char → List Char
  | '-' :: s | '+' :: s => s
  | s => s

/-- The value of a plain scalar by its form. -/
def ofPlain? (s : List Char) : Option Node :=
  if s.isEmpty ∨ isNullName s then some null
  else match bool? s with
    | some b => some (bool b)
    | none =>
      match integer? s with
      | some n => ofInteger? n
      | none =>
        match if hasLeadingZero (dropSign s) then none else float? s with
        | some x => some (float x)
        | none => some (string s)

def startsOwnTag (tag : List Char) : Bool :=
  tag.head? == some '!'

/-- A tag that is one of the document's own. A lone exclamation mark is one as well; a text that
holds what is no character is none. -/
def ownTag? (tag : Option (List Char)) : Option (List Char) :=
  tag.filter fun t => startsOwnTag t && !t.contains '\x00'

/-- The tag of a kind of value that all documents share. -/
def sharedTag (kind : String) : List Char :=
  "tag:yaml.org,2002:".toList ++ kind.toList

def ofBareScalar? (isPlain : Bool) (text : List Char) : Option Node :=
  if isPlain then ofPlain? text else some (string text)

/-- The value of a scalar with a tag. A shared tag asks for a kind of value, which the text has to
have. -/
def ofTaggedScalar? (tag : List Char) (isPlain : Bool) (text : List Char) : Option Node :=
  if tag = sharedTag "bool" then (bool? text).map bool
  else if tag = sharedTag "int" then (integer? text).bind ofInteger?
  else if tag = sharedTag "float" then (float? text).map float
  else if tag = sharedTag "null" then if isNullName text then some null else none
  else if startsOwnTag tag then ofBareScalar? isPlain text
  else some (string text)

def ofScalar? (tag : Option (List Char)) (isPlain : Bool) (text : List Char) : Option Node :=
  match ownTag? tag, tag with
  | some own, _ => (ofBareScalar? isPlain text).map (tagged own)
  | none, some tag => ofTaggedScalar? tag isPlain text
  | none, none => ofBareScalar? isPlain text

def ofTaggedCollection (tag : Option (List Char)) (v : Node) : Node :=
  match ownTag? tag with
  | some own => tagged own v
  | none => v

def bare : Tree Nat → Tree Nat
  | .reference n => .reference n
  | .scalar anchor _ isPlain text => .scalar anchor none isPlain text
  | .sequence anchor _ items => .sequence anchor none items
  | .mapping anchor _ entries => .mapping anchor none entries

/-- Adds an entry to a mapping that does not hold its key. -/
def addEntry? (entries : List (Node × Node)) (k v : Node) : Option (List (Node × Node)) :=
  if entries.any fun e => same e.1 k then none else some (entries ++ [(k, v)])

/-- Follows an alias. Each is counted, and there may be no more than the limit. -/
def follow (nodes : List (Nat × Tree Nat)) (limit : Nat) :
    Tree Nat → StateT Nat Option (Tree Nat)
  | .reference n => do
    modify (· + 1)
    if limit < (← get) then failure
    match nodes.reverse.lookup n with
    | some t => pure t
    | none => failure
  | t => pure t

/-- The value of a tree whose collections, aliases included, are nested at most `depth` deep. Inside
a tag of the document's own the keys of a mapping have none, unless they are aliases. -/
def ofTree (nodes : List (Nat × Tree Nat)) (limit : Nat) (depth : Nat) (isInside : Bool)
    (t : Tree Nat) : StateT Nat Option Node := do
  let isInside := isInside && !t.isReference
  let t ← follow nodes limit t
  match if isInside then bare t else t, depth with
  | .scalar _ tag isPlain text, _ => ofScalar? tag isPlain text
  | .sequence _ tag items, depth + 1 => do
    let items ← items.mapM (ofTree nodes limit depth false)
    pure (ofTaggedCollection tag (sequence items))
  | .mapping _ tag entries, depth + 1 => do
    let entries ← entries.foldlM (fun acc e => do
      let k ← ofTree nodes limit depth (isInside || (ownTag? tag).isSome) e.1
      let v ← ofTree nodes limit depth false e.2
      addEntry? acc k v) []
    pure (ofTaggedCollection tag (mapping entries))
  | _, _ => failure

/-- Aliases may be followed this often for each mark of the document. -/
def followsPerMark : Nat := 100

def parse? (text : List Char) : Option Node := do
  let named ← Tree.parse? text
  let (tree, _) ← (Tree.number named).run []
  let limit := followsPerMark * tree.size
  let (value, _) ← (ofTree (Tree.anchored tree) limit Tree.maxDepth false tree).run 0
  pure value

def floatStyle : Shortest.Style := ⟨false⟩

def floatText (x : Float) : List Char :=
  if Binary64.isFinite x then Shortest.write floatStyle x
  else if x != x then ".nan".toList
  else if Binary64.isNegative x then "-.inf".toList
  else ".inf".toList

/-- The text of a scalar that is a string, a number or a truth value and carries no tag. -/
def text? : Node → Option (List Char)
  | string s => some s
  | int n => some (toString n).toList
  | float x => some (floatText x)
  | bool b => some (toString b).toList
  | _ => none

/-- The value of an entry with a string key, in a mapping with or without a tag. -/
def get? (v : Node) (key : List Char) : Option Node :=
  match v.untagged with
  | mapping entries => (entries.find? fun e => same e.1 (string key)).map Prod.snd
  | _ => none

end Node

end LogLab.Yaml
