import LogLab.Curriculum
import LogLab.Proofs.Pipeline.RoundTrip

/-! # Curricula and their JSON form

A check is written as its kind and the parts of this kind, checks inside it included, and a lesson
without the parts that it lacks. Both are read back as they were, and so is the whole document.
-/

namespace LogLab

open Json (Reads)

namespace Check

def kind : Check → Kind
  | acceptAny => .acceptAny
  | minCount _ => .minCount
  | maxCount _ => .maxCount
  | exactCount _ => .exactCount
  | hasField _ _ => .hasField
  | fieldCount _ => .fieldCount
  | fieldEquals _ _ => .fieldEquals
  | fieldIsNumber _ => .fieldIsNumber
  | sortedBy _ _ => .sortedBy
  | all _ => .all
  | any _ => .any

def fields : Check → List (String × Json)
  | acceptAny => []
  | minCount n | maxCount n | exactCount n | fieldCount n => [("count", .ofCount n)]
  | hasField field scope => [("field", .string field), ("scope", .string scope.tag)]
  | fieldEquals field value => [("field", .string field), ("value", value)]
  | fieldIsNumber field => [("field", .string field)]
  | sortedBy field direction => [("field", .string field), ("order", .string direction.tag)]
  | all checks | any checks => [("checks", .array (listToJson checks))]

theorem toJson_eq (c : Check) :
    c.toJson = .object (("type", .string c.kind.tag) :: c.fields) := by
  cases c <;> rfl

theorem keys_fields (c : Check) : Entries.keys c.fields = c.kind.parts := by
  cases c <;> rfl

theorem Kind.nodup_parts (k : Kind) : ("type" :: k.parts).Nodup := by
  cases k <;> decide

theorem filter_toJson (c : Check) :
    (("type", Json.string c.kind.tag) :: c.fields).filter (fun f => f.1 != "type") = c.fields := by
  rw [List.filter_cons_of_neg (by simp), List.filter_eq_self]
  intro f hf
  have hmem : f.1 ∈ c.kind.parts := by
    rw [← keys_fields]
    exact List.mem_map_of_mem hf
  have hne : f.1 ≠ "type" := fun h => (List.nodup_cons.mp c.kind.nodup_parts).1 (h ▸ hmem)
  exact bne_iff_ne.mpr hne

/-- What a written check is read from. -/
theorem ofJson?_toJson_eq (setAside : Bool) (c : Check) : ofJson? setAside c.toJson =
    c.kind.build (c.fields.lookup ·) ((fieldLists c.fields).lookup "checks").join := by
  have hnodup : ("type" :: Entries.keys c.fields).Nodup := by
    rw [keys_fields]
    exact c.kind.nodup_parts
  have hparts : (Json.object c.fields).parts? c.kind.parts =
      some fun name => c.fields.lookup name := Json.parts?_object hnodup.of_cons
  have hkind : Kind.ofJson? setAside (.string c.kind.tag) = some c.kind := c.kind.ofTag?_tag
  have hrepeats : Json.repeats ["type"] (("type", .string c.kind.tag) :: c.fields) = false :=
    Json.repeats_eq_false hnodup
  rw [toJson_eq, ofJson?, hrepeats, filter_toJson]
  simp [ofParts?, hparts, hkind, fieldLists]

mutual

theorem ofJson?_toJson (setAside : Bool) : ∀ c, ofJson? setAside (toJson c) = some c
  | acceptAny => by rw [ofJson?_toJson_eq]; rfl
  | minCount n | maxCount n | exactCount n | fieldCount n => by
    simp [ofJson?_toJson_eq, kind, fields, Kind.build, Json.reads_ofCount n]
  | hasField field scope => by
    simp [ofJson?_toJson_eq, kind, fields, Kind.build, Json.string?, Json.withDefault?,
      Json.symbol?, Scope.ofTag?_tag]
  | fieldEquals field _ | fieldIsNumber field => by
    simp [ofJson?_toJson_eq, kind, fields, Kind.build, Json.string?]
  | sortedBy field direction => by
    simp [ofJson?_toJson_eq, kind, fields, Kind.build, Json.string?, Json.withDefault?,
      Direction.ofJson?, Json.symbol?, Direction.ofTag?_tag]
  | all checks | any checks => by
    have hchecks := itemChecks_listToJson checks
    simp [ofJson?_toJson_eq, kind, fields, Kind.build, fieldLists, list?, hchecks]

theorem itemChecks_listToJson : ∀ checks, itemChecks (listToJson checks) = some checks
  | [] => rfl
  | c :: cs => by
    have hc := ofJson?_toJson true c
    have hcs := itemChecks_listToJson cs
    simp [listToJson, itemChecks, hc, hcs]

end

theorem reads (setAside : Bool) : Reads (ofJson? setAside) toJson :=
  ofJson?_toJson setAside

theorem toJson_ne_null (c : Check) : c.toJson ≠ .null := by
  rw [toJson_eq]
  exact Json.noConfusion

end Check

namespace Example

theorem reads : Reads ofJson? toJson := by
  intro e
  rw [toJson, ofJson?, Json.parts?_object]
  · simp [Json.string?]
  · simp

end Example

namespace Lesson

variable {name : String} {items : List Json} {fields : List (String × Json)} {names : List String}

/-- The array of a list, unless the list is empty. -/
def nonempty? (items : List Json) : Option Json :=
  if items.isEmpty then none else some (.array items)

theorem ifNonempty_eq : ifNonempty name items = Json.ifSome name (nonempty? items) := by
  unfold ifNonempty nonempty?
  split <;> rfl

theorem withDefault?_nonempty? {α : Type} {decode : Json → Option α} {encode : α → Json}
    (h : Reads decode encode) (xs : List α) :
    Json.withDefault? [] (Json.list? decode) (nonempty? (xs.map encode)) = some xs := by
  cases xs with
  | nil => rfl
  | cons x xs => exact h.list (x :: xs)

theorem keys_ifSome_append (h : (Entries.keys fields).Sublist names) (v : Option Json) :
    (Entries.keys (Json.ifSome name v ++ fields)).Sublist (name :: names) := by
  rw [Entries.keys, List.map_append]
  exact (Json.keys_ifSome_sublist v).append h

theorem nodup_keys_fields (l : Lesson) : (Entries.keys l.fields).Nodup := by
  have hnames : partNames.Nodup := by decide
  refine hnames.sublist ?_
  rw [Lesson.fields, ifNonempty_eq, ifNonempty_eq, partNames]
  simp only [List.append_assoc, List.cons_append, List.nil_append, Entries.keys_cons]
  refine .cons_cons _ (.cons_cons _ (.cons_cons _ ?_))
  iterate 6 refine keys_ifSome_append ?_ _
  exact Json.keys_ifSome_sublist _

theorem lookup_fields (l : Lesson) :
    l.fields.lookup "kind" = some (.string l.kind.tag) ∧
    l.fields.lookup "title" = some (.string l.title) ∧
    l.fields.lookup "description" = some (.string l.description) ∧
    l.fields.lookup "theory" = nonempty? (l.theory.map .string) ∧
    l.fields.lookup "examples" = nonempty? (l.examples.map Example.toJson) ∧
    l.fields.lookup "task" = l.task.map .string ∧
    l.fields.lookup "data_source" = l.source.map (fun s => .string s.name) ∧
    l.fields.lookup "starter_query" = l.starterQuery.map .string ∧
    l.fields.lookup "hint" = l.hint.map .string ∧
    l.fields.lookup "check" = l.check.map Check.toJson := by
  refine ⟨?_, ?_, ?_, ?_, ?_, ?_, ?_, ?_, ?_, ?_⟩ <;>
    simp [Lesson.fields, ifNonempty_eq, List.lookup_append]

theorem reads : Reads ofJson? toJson := by
  intro l
  obtain ⟨kind, title, description, theory, examples, task, source, starterQuery, hint, check⟩ :=
    l.lookup_fields
  have hkind := Json.reads_symbol LessonKind.ofTag?_tag false l.kind
  have htheory := withDefault?_nonempty? Json.reads_string l.theory
  have hexamples := withDefault?_nonempty? Example.reads l.examples
  have hoptional := Json.reads_string.optional (by simp)
  have htask := hoptional l.task
  have hsource := (Json.reads_symbol Source.ofName?_name false).optional (by simp) l.source
  have hquery := hoptional l.starterQuery
  have hhint := hoptional l.hint
  have hcheck := (Check.reads false).optional Check.toJson_ne_null l.check
  rw [← theory] at htheory
  rw [← examples] at hexamples
  rw [← task] at htask
  rw [← source] at hsource
  rw [← starterQuery] at hquery
  rw [← hint] at hhint
  rw [← check] at hcheck
  -- One step for each part, in the order in which they are read.
  refine Json.bind_of_eq_some (Json.parts?_object l.nodup_keys_fields) ?_
  refine Json.bind_of_eq_some kind (Json.bind_of_eq_some hkind ?_)
  refine Json.bind_of_eq_some title (Json.bind_of_eq_some rfl ?_)
  refine Json.bind_of_eq_some description (Json.bind_of_eq_some rfl ?_)
  refine Json.bind_of_eq_some htheory (Json.bind_of_eq_some hexamples ?_)
  refine Json.bind_of_eq_some htask (Json.bind_of_eq_some hsource ?_)
  refine Json.bind_of_eq_some hquery (Json.bind_of_eq_some hhint ?_)
  exact Json.bind_of_eq_some hcheck rfl

end Lesson

namespace Curriculum

/-- Takes the lessons of a dialect over from another curriculum, if they are there. -/
def takeOver (c acc : Curriculum) (d : Dialect) : Curriculum :=
  match c.get? d with
  | some lessons => acc.set d lessons
  | none => acc

def fieldOf (c : Curriculum) (d : Dialect) : List (String × Json) :=
  Json.ifSome d.tag ((c.get? d).map fun ls => .array (ls.map Lesson.toJson))

variable {c : Curriculum}

theorem foldlM_fieldOf (acc : Curriculum) (d : Dialect) :
    (c.fieldOf d).foldlM addField? acc = some (c.takeOver acc d) := by
  unfold fieldOf takeOver
  cases c.get? d with
  | none => rfl
  | some lessons =>
    simp [Json.ifSome, addField?, Dialect.ofTag?_tag, Lesson.reads.list lessons]

theorem foldlM_flatMap_fieldOf (acc : Curriculum) (ds : List Dialect) :
    (ds.flatMap c.fieldOf).foldlM addField? acc = some (ds.foldl c.takeOver acc) := by
  induction ds generalizing acc with
  | nil => rfl
  | cons d ds ih =>
    rw [List.flatMap_cons, List.foldlM_append, foldlM_fieldOf, List.foldl_cons, ← ih]
    rfl

theorem foldl_takeOver (c : Curriculum) : Dialect.all.foldl c.takeOver {} = c := by
  obtain ⟨sql, spl, kql, sigma⟩ := c
  cases sql <;> cases spl <;> cases kql <;> cases sigma <;> rfl

theorem reads : Reads ofJson? toJson := by
  intro c
  refine (foldlM_flatMap_fieldOf {} Dialect.all).trans ?_
  rw [foldl_takeOver]

/-- A document describes the curriculum that it was written from, and is accepted if this curriculum
is. -/
theorem reread_document (c : Curriculum) : ofJson? c.toJson = some c ∧
    ((∃ c', ofJson? c.toJson = some c' ∧ c'.validate = .ok ()) ↔ c.validate = .ok ()) := by
  have hc := reads c
  refine ⟨hc, ?_, fun h => ⟨c, hc, h⟩⟩
  rintro ⟨c', hc', h⟩
  obtain rfl : c' = c := Option.some.inj (hc'.symm.trans hc)
  exact h

end Curriculum

end LogLab
