import LogLab.Reader
import LogLab.Yaml.Scanner

/-! # YAML trees

A document is a tree of scalars and collections in which a node may carry an anchor and stand again
elsewhere as an alias. Names of anchors are replaced by numbers; an alias may only refer to an
anchor before it.
-/

namespace LogLab.Yaml

/-- A node of a document, with references by `α`. -/
inductive Tree (α : Type) where
  | reference (target : α)
  | scalar (anchor : Option α) (tag : Option (List Char)) (isPlain : Bool) (text : List Char)
  | sequence (anchor : Option α) (tag : Option (List Char)) (items : List (Tree α))
  | mapping (anchor : Option α) (tag : Option (List Char)) (entries : List (Tree α × Tree α))
  deriving Repr, Inhabited

namespace Tree

/-- A tree with the names of anchors as they are written. -/
abbrev Named := Tree (List Char)

def isReference {α : Type} : Tree α → Bool
  | .reference _ => true
  | _ => false

def empty : Named :=
  .scalar none none true []

abbrev Handles := List (List Char × List Char)

def defaultHandles : Handles :=
  [(['!'], ['!']), (['!', '!'], "tag:yaml.org,2002:".toList)]

/-- The tag with a handle and a suffix. Without a handle the suffix is the tag as a whole. -/
def resolveTag (handles : Handles) (handle suffix : List Char) : Reader Token (List Char) :=
  if handle.isEmpty then pure suffix
  else match handles.lookup handle with
    | some replacement => pure (replacement ++ suffix)
    | none => Reader.malformed

def readAnchor : Reader Token (Option (List Char)) := do
  match ← Reader.peek? with
  | some (.anchor name) => Reader.skip; pure (some name)
  | _ => pure none

def readTag (handles : Handles) : Reader Token (Option (List Char)) := do
  match ← Reader.peek? with
  | some (.tag handle suffix) =>
    Reader.skip
    some <$> resolveTag handles handle suffix
  | _ => pure none

/-- The anchor and the tag in front of a node, in either order. -/
def readProperties (handles : Handles) :
    Reader Token (Option (List Char) × Option (List Char)) := do
  match ← readAnchor with
  | some anchor => pure (some anchor, ← readTag handles)
  | none =>
    match ← readTag handles with
    | some tag => pure (← readAnchor, some tag)
    | none => pure (none, none)

/-- What `child` reads, unless one of the tokens `ends` stands there; then the empty node. -/
def orEmpty (ends : List Token) (child : Reader Token Named) : Reader Token Named := do
  match ← Reader.peek? with
  | some token => if ends.contains token then pure empty else child
  | none => child

/-- What `child` reads after a token, unless another token stands there or one of the tokens
`ends` follows; then the empty node. -/
def afterToken (token : Token) (ends : List Token) (child : Reader Token Named) :
    Reader Token Named := do
  if (← Reader.peek?) = some token then
    Reader.skip
    orEmpty ends child
  else pure empty

def blockItems (child : Reader Token Named) : Reader Token (List Named) :=
  (List.reverse ·) <$> Reader.iterate (fun acc => do
    match ← Reader.next with
    | .blockEntry => pure (.inl ((← orEmpty [.blockEntry, .blockEnd] child) :: acc))
    | .blockEnd => pure (.inr acc)
    | _ => Reader.malformed) []

/-- The items of a block sequence that is not indented more than the mapping around it. -/
def flushItems (child : Reader Token Named) : Reader Token (List Named) :=
  (List.reverse ·) <$> Reader.iterate (fun acc => do
    if (← Reader.peek?) = some .blockEntry then
      Reader.skip
      pure (.inl ((← orEmpty [.blockEntry, .key, .value, .blockEnd] child) :: acc))
    else pure (.inr acc)) []

def blockEntries (child : Reader Token Named) : Reader Token (List (Named × Named)) :=
  (List.reverse ·) <$> Reader.iterate (fun acc => do
    match ← Reader.next with
    | .key =>
      let k ← orEmpty [.key, .value, .blockEnd] child
      let v ← afterToken .value [.key, .value, .blockEnd] child
      pure (.inl ((k, v) :: acc))
    | .blockEnd => pure (.inr acc)
    | _ => Reader.malformed) []

/-- Parts between brackets after the opening one: a comma stands between two parts and may stand
after the last one. -/
def flowParts {β : Type} (closing : Token) (part : Reader Token β) : Reader Token (List β) :=
  (List.reverse ·) <$> Reader.iterate (fun acc => do
    if (← Reader.peek?) = some closing then
      Reader.skip
      pure (.inr acc)
    else
      if !acc.isEmpty then
        if (← Reader.next) ≠ .flowEntry then Reader.malformed
      if (← Reader.peek?) = some closing then
        Reader.skip
        pure (.inr acc)
      else pure (.inl ((← part) :: acc))) []

/-- An item of a flow sequence. A key makes it a mapping with one entry; without a node for the key
the token that stands there is passed over. -/
def flowItem (child : Reader Token Named) : Reader Token Named := do
  if (← Reader.peek?) = some .key then
    Reader.skip
    let ends : List Token := [.value, .flowEntry, .flowSequenceEnd]
    let missing := (← Reader.peek?).any ends.contains
    let k ← orEmpty ends child
    if missing then Reader.skip
    let v ← afterToken .value [.flowEntry, .flowSequenceEnd] child
    pure (.mapping none none [(k, v)])
  else child

/-- An entry of a flow mapping; a node that is no key has an empty value. -/
def flowEntry (child : Reader Token Named) : Reader Token (Named × Named) := do
  if (← Reader.peek?) = some .key then
    Reader.skip
    let k ← orEmpty [.value, .flowEntry, .flowMappingEnd] child
    let v ← afterToken .value [.flowEntry, .flowMappingEnd] child
    pure (k, v)
  else pure (← child, empty)

/-- A node whose collections are nested at most `depth` deep. Inside brackets there are no block
collections, and only the parts of a block mapping may be sequences that are not indented. -/
def node (handles : Handles) (depth : Nat) (inBlock flush : Bool) : Reader Token Named := do
  match ← Reader.peek? with
  | some (.reference name) =>
    Reader.skip
    pure (.reference name)
  | _ =>
    let (anchor, tag) ← readProperties handles
    match ← Reader.peek?, depth with
    | some (.scalar isPlain text), _ =>
      Reader.skip
      pure (.scalar anchor tag isPlain text)
    | some .flowSequenceStart, depth + 1 =>
      Reader.skip
      .sequence anchor tag <$>
        flowParts .flowSequenceEnd (flowItem (node handles depth false false))
    | some .flowMappingStart, depth + 1 =>
      Reader.skip
      .mapping anchor tag <$>
        flowParts .flowMappingEnd (flowEntry (node handles depth false false))
    | token, depth =>
      if flush ∧ token = some .blockEntry then
        match depth with
        | depth + 1 => .sequence anchor tag <$> flushItems (node handles depth true false)
        | 0 => Reader.malformed
      else if inBlock ∧ token = some .blockSequenceStart then
        match depth with
        | depth + 1 =>
          Reader.skip
          .sequence anchor tag <$> blockItems (node handles depth true false)
        | 0 => Reader.malformed
      else if inBlock ∧ token = some .blockMappingStart then
        match depth with
        | depth + 1 =>
          Reader.skip
          .mapping anchor tag <$> blockEntries (node handles depth true true)
        | 0 => Reader.malformed
      else if token = some .flowSequenceStart ∨ token = some .flowMappingStart then
        Reader.malformed
      else if anchor.isSome ∨ tag.isSome then pure (.scalar anchor tag true [])
      else Reader.malformed

def maxDepth : Nat := 128

/-- The directives in front of a document: at most one version, which has to be known, and handles,
none of them twice. -/
def directives : Reader Token (Bool × Handles) :=
  Reader.iterate (fun (versioned, handles) => do
    match ← Reader.peek? with
    | some (.version major minor) =>
      if versioned || major ≠ 1 || (minor ≠ 1 && minor ≠ 2) then Reader.malformed
      Reader.skip
      pure (.inl (true, handles))
    | some (.tagHandle handle replacement) =>
      if (handles.lookup handle).isSome then Reader.malformed
      Reader.skip
      pure (.inl (versioned, handles ++ [(handle, replacement)]))
    | _ => pure (.inr (versioned, handles))) (false, [])

def markedContent (handles : Handles) : Reader Token Named := do
  match ← Reader.peek? with
  | none | some (.version ..) | some (.tagHandle ..) | some .documentStart | some .documentEnd =>
    pure empty
  | _ => node handles maxDepth true false

/-- A document. The mark at its start may be left out if there are no directives. -/
def document : Reader Token Named := do
  let (versioned, given) ← directives
  let handles := given ++ defaultHandles
  if (← Reader.peek?) = some .documentStart then
    Reader.skip
    markedContent handles
  else if versioned || !given.isEmpty then Reader.malformed
  else node handles maxDepth true false

def parse? (text : List Char) : Option Named :=
  (tokens? text).bind fun tokens =>
    (Reader.runAll (· == .documentEnd) document tokens).toOption

/-- The numbers of the anchors so far, by name. -/
abbrev Numbers := List (List Char × Nat)

/-- Gives a name the next number, which is how many names there are. -/
def renumber (numbers : Numbers) (name : List Char) : Numbers :=
  let n := numbers.length
  if (numbers.lookup name).isSome then
    numbers.map fun (other, m) => (other, if other = name then n else m)
  else numbers ++ [(name, n)]

def numberAnchor : Option (List Char) → StateT Numbers Option (Option Nat)
  | none => pure none
  | some name => do
    let n := (← get).length
    modify (renumber · name)
    pure (some n)

mutual

/-- The tree with numbers in the place of names, in the order of the text. -/
def number : Named → StateT Numbers Option (Tree Nat)
  | .reference name => do
    match (← get).lookup name with
    | some n => pure (.reference n)
    | none => failure
  | .scalar anchor tag isPlain text => do
    pure (.scalar (← numberAnchor anchor) tag isPlain text)
  | .sequence anchor tag items => do
    let anchor ← numberAnchor anchor
    pure (.sequence anchor tag (← numberItems items))
  | .mapping anchor tag entries => do
    let anchor ← numberAnchor anchor
    pure (.mapping anchor tag (← numberEntries entries))

@[inherit_doc number]
def numberItems : List Named → StateT Numbers Option (List (Tree Nat))
  | [] => pure []
  | t :: ts => do
    let t ← number t
    pure (t :: (← numberItems ts))

@[inherit_doc number]
def numberEntries : List (Named × Named) → StateT Numbers Option (List (Tree Nat × Tree Nat))
  | [] => pure []
  | (k, v) :: es => do
    let k ← number k
    let v ← number v
    pure ((k, v) :: (← numberEntries es))

end

def atNumber (anchor : Option Nat) (t : Tree Nat) : List (Nat × Tree Nat) :=
  match anchor with
  | some n => [(n, t)]
  | none => []

mutual

/-- The nodes that carry numbers, in the order of the text. -/
def anchored : Tree Nat → List (Nat × Tree Nat)
  | .reference _ => []
  | .scalar anchor tag isPlain text => atNumber anchor (.scalar anchor tag isPlain text)
  | .sequence anchor tag items =>
    atNumber anchor (.sequence anchor tag items) ++ anchoredItems items
  | .mapping anchor tag entries =>
    atNumber anchor (.mapping anchor tag entries) ++ anchoredEntries entries

@[inherit_doc anchored]
def anchoredItems : List (Tree Nat) → List (Nat × Tree Nat)
  | [] => []
  | t :: ts => anchored t ++ anchoredItems ts

@[inherit_doc anchored]
def anchoredEntries : List (Tree Nat × Tree Nat) → List (Nat × Tree Nat)
  | [] => []
  | (k, v) :: es => anchored k ++ anchored v ++ anchoredEntries es

end

mutual

/-- How many marks it takes to write the tree down: one for a scalar or alias, two for a
collection. -/
def size {α : Type} : Tree α → Nat
  | .reference _ | .scalar .. => 1
  | .sequence _ _ items => 2 + sizeItems items
  | .mapping _ _ entries => 2 + sizeEntries entries

@[inherit_doc size]
def sizeItems {α : Type} : List (Tree α) → Nat
  | [] => 0
  | t :: ts => size t + sizeItems ts

@[inherit_doc size]
def sizeEntries {α : Type} : List (Tree α × Tree α) → Nat
  | [] => 0
  | (k, v) :: es => size k + size v + sizeEntries es

end

end Tree

end LogLab.Yaml
