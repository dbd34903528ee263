import LogLab.Proofs.Query.Written
import LogLab.Query.Compile

/-! # Directions of sort keys

The word behind the field of a sort key reaches to the next blank. A direction is honoured if a
blank or nothing follows it, and all that stands behind the blank is ignored. With anything else
directly behind it, such as a comma, it is no direction any more, and the default is taken.
-/

namespace LogLab.Query

open Scan Text

variable {d : Direction} {w t u g : List Char}

def EndsAtBlank (t : List Char) : Prop := Stops (fun c => !isBlank c) t

instance : Decidable (EndsAtBlank t) := by unfold EndsAtBlank; infer_instance

theorem takeWhile_eq_nil_iff_endsAtBlank :
    t.takeWhile (fun c => !isBlank c) = [] ↔ EndsAtBlank t := by
  cases t with
  | nil => simp [EndsAtBlank]
  | cons c t => cases h : isBlank c <;> simp [EndsAtBlank, h]

theorem takeWhile_append_allBlank (hg : AllBlank g) :
    (u ++ g).takeWhile (fun c => !isBlank c) = u.takeWhile fun c => !isBlank c := by
  have hnil : g.takeWhile (fun c => !isBlank c) = [] :=
    takeWhile_of_stops fun c hc => by simp [hg c (List.mem_of_mem_head? hc)]
  induction u with
  | nil => exact hnil
  | cons c u ih => rw [List.cons_append, List.takeWhile_cons, List.takeWhile_cons, ih]

theorem takeWhile_trimEnd (t : List Char) :
    (trimEnd t).takeWhile (fun c => !isBlank c) = t.takeWhile fun c => !isBlank c := by
  obtain ⟨g, hg, he⟩ := exists_eq_trimEnd_append t
  calc (trimEnd t).takeWhile (fun c => !isBlank c)
      = (trimEnd t ++ g).takeWhile (fun c => !isBlank c) := (takeWhile_append_allBlank hg).symm
    _ = t.takeWhile (fun c => !isBlank c) := by rw [← he]

theorem firstWord_space_append (hw : IsName w) :
    firstWord (' ' :: (w ++ t)) = w ++ t.takeWhile fun c => !isBlank c := by
  have hstart : trimStart (' ' :: (w ++ t)) = w ++ t :=
    (trimStart_append (g := [' ']) (by decide)).trans
      (dropWhile_of_stops (hw.trimmed.head.append_of_ne_nil hw.1))
  rw [firstWord, hstart, List.takeWhile_append_of_pos]
  intro c hc
  simp [isBlank_of_isNameChar (hw.2 c hc)]

/-- The word for a direction with more characters behind it is no word for a direction. -/
theorem direction?_append (hw : Spelled d.name w) :
    direction? (w ++ u) = if u = [] then some d else none := by
  split
  · next hu => rw [hu, List.append_nil, Order.direction?_of_spelled hw]
  · next hu =>
    have hlower : asciiLower (w ++ u) = asciiLower d.name.toList ++ asciiLower u := by
      rw [← hw]
      exact List.map_append
    have hne : asciiLower u ≠ [] := by simpa [asciiLower] using hu
    rw [direction?, eqIgnoringCase, eqIgnoringCase, hlower]
    cases d with
    | asc => simp [asciiLower, Direction.name, hu]
    | desc => simp [asciiLower, Direction.name, hu]

/-- A direction behind the field of a sort key is honoured if a blank or nothing follows it, and
what follows then is ignored. With any other text directly behind it the default is taken. -/
theorem sortKey?_direction {f w : List Char} {d : Direction} (hf : IsName f)
    (hw : Spelled d.name w) (t : List Char) (default : Direction) :
    sortKey? (f ++ ' ' :: (w ++ t)) default =
      some ⟨String.ofList f, if EndsAtBlank t then d else default⟩ := by
  have hname : IsName w := hw.isName (isWord_direction d)
  have hlast : ∀ c ∈ (' ' :: w).getLast?, isBlank c = false := by
    rw [List.getLast?_cons_of_ne_nil hname.1]
    exact hname.trimmed.last
  have htrim : trim (f ++ ' ' :: (w ++ t)) = f ++ ' ' :: (w ++ trimEnd t) := by
    rw [hf.trimmed.trim_append hf.1]
    exact congrArg (f ++ ·) (trimEnd_append_of_last (s := ' ' :: w) hlast)
  have hstop : Stops isNameChar (' ' :: (w ++ trimEnd t)) :=
    stops_cons.mpr (isNameChar_of_mem_signs ' ' (by decide))
  have hdirection : direction? (firstWord (' ' :: (w ++ trimEnd t))) =
      if EndsAtBlank t then some d else none := by
    rw [firstWord_space_append hname, takeWhile_trimEnd, direction?_append hw]
    simp only [takeWhile_eq_nil_iff_endsAtBlank]
  rw [sortKey?, htrim, name_append hf hstop]
  simp only [hdirection]
  split <;> rfl

theorem sortKey?_direction_of_words_behind :
    IsName "bytes".toList ∧ Spelled Direction.desc.name "Desc".toList ∧
      sortKey? ("bytes".toList ++ ' ' :: ("Desc".toList ++ "\tnulls, last".toList)) .asc =
        some ⟨"bytes", .desc⟩ := by
  refine ⟨by decide, by decide, ?_⟩
  rw [sortKey?_direction (d := .desc) (by decide) (by decide) "\tnulls, last".toList .asc,
    if_pos (by decide), String.ofList_toList]

/-- A second key behind a comma: the direction of the first one is dropped. -/
theorem sortKey?_of_comma :
    IsName "bytes".toList ∧ Spelled Direction.desc.name "DESC".toList ∧
      Stops isNameChar ", host".toList ∧
      sortKey? ("bytes".toList ++ ' ' :: ("DESC".toList ++ ", host".toList)) .asc =
        some ⟨"bytes", .asc⟩ ∧
      compile .sql "SELECT * FROM logs ORDER BY bytes DESC, host" =
        .ok ⟨[.sort ⟨"bytes", .asc⟩]⟩ := by
  refine ⟨by decide, by decide, by decide +kernel, by decide +kernel, ?_⟩
  have hparse : Sql.Statement.parse? "SELECT * FROM logs ORDER BY bytes DESC, host".toList =
      .ok (some
        { select := [.wildcard], source := some "logs", orderBy := some ⟨"bytes", .asc⟩ }) := by
    decide +kernel
  rw [compile, compileSql, hparse]
  rfl

end LogLab.Query
