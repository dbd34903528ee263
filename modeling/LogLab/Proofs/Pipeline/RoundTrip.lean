import LogLab.Pipeline.Codec
import LogLab.Proofs.Json.Parts

/-! # Pipelines and their JSON form

Every part of a pipeline is read back from the form that it is written in. Parts inside the
arguments of an operation are read back whether or not the arguments were set aside.
-/

namespace LogLab

open Json (Reads)

variable (setAside : Bool)

namespace Predicate

theorem reads : Reads (ofJson? setAside) toJson := by
  intro p
  rw [toJson, ofJson?, Json.parts?_object]
  · simp [Json.string?, Json.symbol?, Comparison.ofTag?_tag]
  · simp

end Predicate

namespace Condition

theorem reads : Reads (ofJson? setAside) toJson := by
  intro c
  rw [toJson, ofJson?, (Predicate.reads setAside).list]
  rfl

end Condition

namespace Projection

theorem reads : Reads ofJson? toJson := by
  intro p
  rw [toJson, ofJson?, Json.parts?_object]
  · simp [Json.string?, Json.reads_string.optional (by simp) p.label]
  · have hnames : ["field", "alias"].Nodup := by decide
    exact hnames.sublist ((Json.keys_ifSome_sublist _).cons_cons "field")

end Projection

namespace Aggregate

theorem reads : Reads (ofJson? setAside) toJson := by
  intro a
  rw [toJson, ofJson?, Json.parts?_object]
  · simp [Json.string?, Json.symbol?, Function.ofName?_name,
      Json.reads_string.optional (by simp) a.label]
  · have hnames : ["function", "field", "alias"].Nodup := by decide
    exact hnames.sublist (((Json.keys_ifSome_sublist _).cons_cons "field").cons_cons "function")

end Aggregate

namespace Grouping

theorem reads : Reads (ofJson? setAside) toJson := by
  intro g
  rw [toJson, ofJson?, Json.parts?_object]
  · simp [Json.reads_string.nullable (by simp) g.groupBy,
      (Aggregate.reads setAside).list g.aggregates]
  · simp

end Grouping

namespace SortKey

theorem reads : Reads (ofJson? setAside) toJson := by
  intro k
  rw [toJson, ofJson?, Json.parts?_object]
  · simp [Json.string?, Json.symbol?, Direction.ofJson?, Direction.ofTag?_tag]
  · simp

end SortKey

namespace Limit

theorem reads : Reads (ofJson? setAside) toJson := by
  intro l
  rw [toJson, ofJson?, Json.parts?_object]
  · simp [Json.reads_ofCount l.count, Json.withDefault?, Json.symbol?, Side.ofTag?_tag]
  · simp

end Limit

namespace Operation

/-- The name stands in front of the arguments, so they are not set aside. -/
theorem ofJson?_object (name : String) (args : Json) :
    ofJson? (.object [("op", .string name), ("args", args)]) = ofNamed? false name args := by
  have hbefore :
      (Json.object [("op", .string name), ("args", args)]).isBefore "args" "op" = false := by
    simp [Json.isBefore]
  rw [ofJson?, hbefore, Json.parts?_object]
  · simp [Json.isArray, Json.symbol?]
  · simp

theorem reads : Reads ofJson? toJson := by
  intro o
  cases o with
  | filter condition => simp [toJson, ofJson?_object, ofNamed?, Condition.reads false condition]
  | project columns => simp [toJson, ofJson?_object, ofNamed?, Projection.reads.list columns]
  | group grouping => simp [toJson, ofJson?_object, ofNamed?, Grouping.reads false grouping]
  | sort key => simp [toJson, ofJson?_object, ofNamed?, SortKey.reads false key]
  | limit bound => simp [toJson, ofJson?_object, ofNamed?, Limit.reads false bound]

end Operation

namespace Pipeline

theorem reads : Reads ofJson? toJson := by
  intro p
  rw [toJson, ofJson?, Operation.reads.list]
  rfl

end Pipeline

end LogLab
