import LogLab.Proofs.Query.SearchCommands
import LogLab.Proofs.Query.TableCommands
import LogLab.Proofs.Text.Occurrences

/-! # Filters by text

What the filters of the dialects find in the texts of fields. An entry of a rule that asks for a
start or an end is a pattern, so that a wildcard in its value covers other characters as well. A
value that stands in a field as it is written is found unless one of its capital sigmas is exposed.
-/

namespace LogLab

open Text Scan

/-- Every text is the text of a field of some record. -/
theorem Record.exists_field?_text (field : String) (s : List Char) :
    ∃ r : Record, ∃ x, r.field? field = some x ∧ x.text.toList = s := by
  refine ⟨Record.empty.insert field (.string (String.ofList s)), .string (String.ofList s), ?_,
    String.toList_ofList⟩
  rw [Record.field?, Record.get?_insert, if_pos rfl]
  rfl

namespace Like

variable {v : List Char}

theorem exists_wildcard (h : ¬IsLiteral v) : ∃ w, (w = '%' ∨ w = '_') ∧ w ∈ v := by
  by_cases hpercent : '%' ∈ v
  · exact ⟨'%', .inl rfl, hpercent⟩
  · by_cases hunderscore : '_' ∈ v
    · exact ⟨'_', .inr rfl, hunderscore⟩
    · exact absurd ⟨hpercent, hunderscore⟩ h

/-- A text that differs from the value in a wildcard is covered by it. -/
theorem exists_cuts_ne (h : ¬IsLiteral v) : ∃ u, Cuts (lower v) (lower u) ∧
    (lower u).length = (lower v).length ∧ lower v ≠ lower u := by
  obtain ⟨w, hw, hmem⟩ := exists_wildcard h
  obtain ⟨x, y, rfl⟩ := List.append_of_mem hmem
  have hhyphen : EndsWord '-' := ⟨by decide, by decide⟩
  have hwild : EndsWord w := by
    rcases hw with rfl | rfl
    · exact endsWord_percent
    · exact endsWord_underscore
  have hcover : Fits (lowerChar w) ['-'] ∧ lowerChar w ≠ '-' := by
    rcases hw with rfl | rfl
    · exact ⟨fits_wildcard, by decide⟩
    · exact ⟨rfl, by decide⟩
  refine ⟨x ++ '-' :: y, ?_, ?_, ?_⟩ <;> rw [hwild.lower_append_cons, hhyphen.lower_append_cons]
  · exact cuts_append.mpr ⟨lower x, _, cuts_self,
      cuts_cons.mpr ⟨['-'], lower y, hcover.1, cuts_self, rfl⟩, rfl⟩
  · simp
  · intro heq
    exact hcover.2 (List.cons.inj (List.append_cancel_left heq)).1

end Like

namespace Query.Sigma

open Like

def Modifier.Finds : Modifier → (piece text : List Char) → Prop
  | .contains, piece, text => piece <:+: text
  | .startsWith, piece, text => piece <+: text
  | .endsWith, piece, text => piece <:+ text

/-- What a value is taken for: for itself, or for a pattern. -/
def Modifier.Admits : Modifier → (value piece : List Char) → Prop
  | .contains, value, piece => piece = value
  | .startsWith, value, piece | .endsWith, value, piece => Cuts value piece

/-- The word is the modifier's tag in any letter case. A word that is no tag names `contains`. -/
def Modifier.IsNamedBy (m : Modifier) (word : List Char) : Prop :=
  Spelled m.tag word ∨ m = .contains ∧ ∀ m' : Modifier, ¬Spelled m'.tag word

namespace Modifier

variable {m : Modifier} {word value piece text : List Char}

theorem ofWord_of_spelled (h : Spelled m.tag word) : ofWord word = m := by
  have hword : asciiLower word = asciiLower m.tag.toList := h
  rw [ofWord, hword]
  cases m <;> decide

theorem spelled_of_ofWord_ne (h : ofWord word ≠ .contains) : Spelled (ofWord word).tag word := by
  unfold ofWord at h ⊢
  split
  · next hword => exact hword
  · split
    · next hword => exact hword
    · next hstarts hends => exact absurd (by rw [if_neg hstarts, if_neg hends]) h

theorem ofWord_eq_iff : ofWord word = m ↔ m.IsNamedBy word := by
  constructor
  · rintro rfl
    by_cases h : ∀ m' : Modifier, ¬Spelled m'.tag word
    · refine .inr ⟨?_, h⟩
      by_contra hne
      exact h _ (spelled_of_ofWord_ne hne)
    · obtain ⟨m', hm'⟩ := not_forall_not.mp h
      exact .inl ((ofWord_of_spelled hm').symm ▸ hm')
  · rintro (h | ⟨rfl, h⟩)
    · exact ofWord_of_spelled h
    · by_contra hne
      exact h _ (spelled_of_ofWord_ne hne)

theorem admits_iff_eq (h : m = .contains ∨ IsLiteral value) :
    m.Admits value piece ↔ piece = value := by
  cases m with
  | contains => exact Iff.rfl
  | startsWith => exact cuts_iff_of_isLiteral (h.resolve_left nofun)
  | endsWith => exact cuts_iff_of_isLiteral (h.resolve_left nofun)

theorem Finds.refl : m.Finds text text := by
  cases m
  · exact List.infix_rfl
  · exact List.prefix_rfl
  · exact List.suffix_rfl

theorem Finds.eq_of_length (h : m.Finds piece text) (hlen : piece.length = text.length) :
    piece = text := by
  cases m
  · exact List.IsInfix.eq_of_length h hlen
  · exact List.IsPrefix.eq_of_length h hlen
  · exact List.IsSuffix.eq_of_length h hlen

/-- A pattern stands for a text in which it is not found itself. -/
theorem exists_admits_not_finds (h : ¬(m = .contains ∨ IsLiteral value)) :
    ∃ u, m.Admits (lower value) (lower u) ∧ ¬m.Finds (lower value) (lower u) := by
  rw [not_or] at h
  obtain ⟨u, hcuts, hlen, hne⟩ := exists_cuts_ne h.2
  refine ⟨u, ?_, fun hfinds => hne (hfinds.eq_of_length hlen.symm)⟩
  cases m with
  | contains => exact absurd rfl h.1
  | startsWith => exact hcuts
  | endsWith => exact hcuts

end Modifier

namespace Entry

variable {e : Entry} {r : Record} {f t : List Char}

theorem readKey?_of_not_mem (hne : f ≠ []) (hf : '|' ∉ f) :
    readKey? f = some (String.ofList f, .contains) := by
  have hcut : Text.cutAt (· == '|') f = [f] :=
    cutAt_of_forall fun c hc => beq_eq_false_iff_ne.mpr fun he => hf (he ▸ hc)
  simp [readKey?, hcut, hne]

theorem readKey?_append (hne : f ≠ []) (hf : '|' ∉ f) : readKey? (f ++ '|' :: t) =
    some (String.ofList f, Modifier.ofWord (t.takeWhile (· != '|'))) := by
  have hcut : Text.cutAt (· == '|') (f ++ '|' :: t) = f :: Text.cutAt (· == '|') t :=
    cutAt_append_cons (fun c hc => beq_eq_false_iff_ne.mpr fun he => hf (he ▸ hc)) rfl
  simp only [readKey?, hcut, head?_cutAt]
  simp [hne, bne]

theorem holdsOf_toPredicate_iff {x : Json} : e.toPredicate.holdsOf x = true ↔
    ∃ piece, e.modifier.Admits (lower e.value.toList) piece ∧
      e.modifier.Finds piece (lower x.text.toList) := by
  obtain ⟨field, modifier, value⟩ := e
  cases modifier with
  | contains =>
    refine containsMatch_iff.trans ?_
    simp [toPredicate, Modifier.Admits, Modifier.Finds]
  | startsWith =>
    refine likeMatch_prefix_iff.trans (exists_congr fun piece => ?_)
    exact and_comm
  | endsWith =>
    refine likeMatch_suffix_iff.trans (exists_congr fun piece => ?_)
    exact and_comm

theorem holds_toPredicate_iff : e.toPredicate.holds r = true ↔
    ∃ x, r.field? e.field = some x ∧ ∃ piece, e.modifier.Admits (lower e.value.toList) piece ∧
      e.modifier.Finds piece (lower x.text.toList) := by
  have hfield : e.toPredicate.field = e.field := by
    obtain ⟨field, modifier, value⟩ := e
    cases modifier <;> rfl
  rw [Predicate.holds_iff, hfield]
  simp only [holdsOf_toPredicate_iff]

end Entry

/-- What an entry of a selection means. Its key is the field, and behind a bar the word for the
modifier, which is `contains` if there is none. It matches a record if the field is there and some
piece that the value stands for is found in its lower case where the modifier looks. The value
stands for its own lower case only, so that the modifiers mean what they say, if and only if the
modifier is `contains` or the value holds no wildcard. -/
theorem modifiers_exact (e : Entry) :
    (e.field.toList ≠ [] → '|' ∉ e.field.toList →
        Entry.readKey? e.field.toList = some (e.field, .contains) ∧
        ∀ t, Entry.readKey? (e.field.toList ++ '|' :: t) = some (e.field, e.modifier) ↔
          e.modifier.IsNamedBy (t.takeWhile (· != '|'))) ∧
      (∀ r, e.toPredicate.holds r = true ↔ ∃ x, r.field? e.field = some x ∧
        ∃ piece, e.modifier.Admits (lower e.value.toList) piece ∧
          e.modifier.Finds piece (lower x.text.toList)) ∧
      ((∀ r, e.toPredicate.holds r = true ↔ ∃ x, r.field? e.field = some x ∧
          e.modifier.Finds (lower e.value.toList) (lower x.text.toList)) ↔
        e.modifier = .contains ∨ IsLiteral e.value.toList) := by
  refine ⟨fun hne hbar => ⟨?_, fun t => ?_⟩, fun r => Entry.holds_toPredicate_iff, fun h => ?_,
    fun h r => ?_⟩
  · rw [Entry.readKey?_of_not_mem hne hbar, String.ofList_toList]
  · rw [Entry.readKey?_append hne hbar, String.ofList_toList, ← Modifier.ofWord_eq_iff]
    simp
  · by_contra hnot
    obtain ⟨u, hadmits, hmissing⟩ := Modifier.exists_admits_not_finds hnot
    obtain ⟨r, x, hx, rfl⟩ := Record.exists_field?_text e.field u
    have hholds : e.toPredicate.holds r = true :=
      Entry.holds_toPredicate_iff.mpr ⟨x, hx, _, hadmits, Modifier.Finds.refl⟩
    obtain ⟨y, hy, hfinds⟩ := (h r).mp hholds
    cases Option.mem_unique hx hy
    exact hmissing hfinds
  · have hadmits : ∀ piece, e.modifier.Admits (lower e.value.toList) piece ↔
        piece = lower e.value.toList := fun _ =>
      Modifier.admits_iff_eq (h.imp_right isLiteral_lower)
    simp only [Entry.holds_toPredicate_iff, hadmits, exists_eq_left]

/-- An unknown word is `contains`, for which an underscore in the value stands for itself. -/
theorem modifiers_exact_of_unknown :
    let r := Record.empty.insert "user" (.string "adm1n")
    ("user".toList ≠ [] ∧ '|' ∉ "user".toList) ∧
      Entry.readKey? ("user".toList ++ '|' :: "re|startswith".toList) = some ("user", .contains) ∧
      (Entry.mk "user" .contains "adm_").toPredicate.holds r = false := by
  obtain ⟨hkey, -, hexact⟩ := modifiers_exact ⟨"user", .contains, "adm_"⟩
  refine ⟨by decide, ?_, ?_⟩
  · refine ((hkey (by decide) (by decide)).2 _).mpr (.inr ⟨rfl, fun m => ?_⟩)
    cases m <;> decide
  · refine Bool.eq_false_iff.mpr fun h => ?_
    obtain ⟨x, hx, hfinds⟩ := (hexact.mpr (.inl rfl) _).mp h
    obtain rfl := Option.some.inj hx
    have hmissing : ¬lower "adm_".toList <:+: lower "adm1n".toList := by decide
    exact hmissing hfinds

/-- An underscore in the value of an entry that asks for a start covers any character. -/
theorem startsWith_of_underscore :
    let r := Record.empty.insert "user" (.string "adm1n")
    Entry.readKey? "user|startswith".toList = some ("user", .startsWith) ∧
      (Entry.mk "user" .startsWith "adm_").toPredicate.holds r = true ∧
      ¬lower "adm_".toList <+: lower "adm1n".toList := by
  have hcuts : Cuts (lower "adm_".toList) "adm1".toList := by
    have hlower : lower "adm_".toList = ['a', 'd', 'm'] ++ ['_'] := by decide
    rw [hlower]
    exact cuts_append.mpr ⟨['a', 'd', 'm'], ['1'], cuts_self,
      cuts_cons.mpr ⟨['1'], [], rfl, cuts_nil.mpr rfl, rfl⟩, rfl⟩
  have hprefix : "adm1".toList <+: lower "adm1n".toList := by decide
  refine ⟨by decide, ?_, by decide⟩
  exact Entry.holds_toPredicate_iff.mpr ⟨_, rfl, _, hcuts, hprefix⟩

end Query.Sigma

namespace Query

section Contains

variable {field value : List Char}

theorem compile_search (hfield : IsName field) (hquote : '"' ∉ value) (hstar : '*' ∉ value) :
    Spl.compile ("search ".toList ++ (field ++ '=' :: quotation '"' value)) =
      .ok ⟨[.filter ⟨[⟨String.ofList field, .contains, String.ofList value⟩]⟩]⟩ := by
  let c : Spl.Command := ⟨.search (some ⟨⟨⟨field, hfield, by simp⟩,
    .quoted ⟨'"', value, rfl, hquote⟩⟩, []⟩), .given "search"⟩
  have hchars : joinBars ([c].map Spl.Command.chars) =
      "search ".toList ++ (field ++ '=' :: quotation '"' value) :=
    congrArg ("search ".toList ++ ·) (List.append_nil _)
  have hvalue : value.filter (· != '*') = value :=
    List.filter_eq_self.mpr fun d hd => bne_iff_ne.mpr fun he => hstar (he ▸ hd)
  have hoperation : c.operation =
      .filter ⟨[⟨String.ofList field, .contains, String.ofList value⟩]⟩ := by
    simp [c, Spl.Command.operation, Spl.Arguments.operation, Joined.items,
      Spl.SearchTerm.predicate, Spl.SearchValue.literal, QuotedValue.literal, Literal.value, hvalue]
  rw [← hchars, Spl.compile_joinBars, List.map_singleton, hoperation]

theorem compile_where_contains (hfield : IsName field) (hquote : '"' ∉ value) :
    Kql.compile ("where ".toList ++ (field ++ (" contains ".toList ++ quotation '"' value))) =
      .ok ⟨[.filter ⟨[⟨String.ofList field, .contains, String.ofList value⟩]⟩]⟩ := by
  let c : Kql.Command := ⟨.filter ⟨⟨field, hfield, by simp⟩, .space,
    .contains ⟨"contains".toList, by decide⟩, .space⟩ (.quoted ⟨'"', value, rfl, hquote⟩) none,
    .given "where"⟩
  have hchars : c.chars =
      "where ".toList ++ (field ++ (" contains ".toList ++ quotation '"' value)) :=
    congrArg ("where ".toList ++ ·) ((List.append_nil _).trans (List.append_assoc field _ _))
  have hoperation : c.operation =
      .filter ⟨[⟨String.ofList field, .contains, String.ofList value⟩]⟩ := rfl
  have hunbroken : ∀ s ∈ [c.chars], Unbroken '|' s ∧ trim s ≠ [] := by
    simpa using ⟨c.unbroken, c.trim_chars_ne_nil⟩
  have hsplit : splitPipeline c.chars = [trim c.chars] := splitPipeline_joinBars_trim hunbroken
  refine Kql.compile_eq ?_
  rw [← hchars, hsplit, List.filterMapM_cons, c.readSegment?_trim_chars, hoperation]
  rfl

end Contains

/-- A value that stands in a field as it is written is found in every such field if and only if none
of its capital sigmas is exposed, so in any case if it holds no capital sigma. What holds of the
predicate holds of a search for the value, of a filter with `contains` and of an entry without a
modifier, which stand for it. -/
theorem occurrences_found_iff (value : String) :
    ((∀ (r : Record) (field : String) (x : Json), r.field? field = some x →
        value.toList <:+: x.text.toList →
        Predicate.holds ⟨field, .contains, value⟩ r = true) ↔ Sheltered value.toList) ∧
      (capitalSigma ∉ value.toList → Sheltered value.toList) ∧
      ∀ field : String, IsName field.toList → '"' ∉ value.toList →
        ('*' ∉ value.toList → compile .spl ("search " ++ field ++ "=\"" ++ value ++ "\"") =
          .ok ⟨[.filter ⟨[⟨field, .contains, value⟩]⟩]⟩) ∧
        compile .kql ("where " ++ field ++ " contains \"" ++ value ++ "\"") =
          .ok ⟨[.filter ⟨[⟨field, .contains, value⟩]⟩]⟩ ∧
        (Sigma.Rule.toPipeline ⟨none, [⟨field, .contains, value⟩], none⟩) =
          ⟨[.filter ⟨[⟨field, .contains, value⟩]⟩]⟩ := by
  refine ⟨⟨fun h => ?_, fun h r field x hx hocc => ?_⟩, sheltered_of_not_mem,
    fun field hfield hquote => ⟨?_, ?_, rfl⟩⟩
  · refine sheltered_iff.mpr fun s hs => ?_
    obtain ⟨r, x, hx, rfl⟩ := Record.exists_field?_text "text" s
    obtain ⟨y, hy, hcontains⟩ := Predicate.holds_iff.mp (h r "text" x hx hs)
    cases Option.mem_unique hx hy
    exact containsMatch_iff.mp hcontains
  · exact Predicate.holds_iff.mpr ⟨x, hx, containsMatch_iff.mpr (h.lower_infix hocc)⟩
  · intro hstar
    have hsearch := compile_search hfield hquote hstar
    simp only [String.ofList_toList] at hsearch
    refine compile_spl (Eq.trans ?_ hsearch)
    simp [String.toList_append, quotation]
  · have hwhere := compile_where_contains hfield hquote
    simp only [String.ofList_toList] at hwhere
    refine compile_kql (Eq.trans ?_ hwhere)
    simp [String.toList_append, quotation]

theorem occurrences_found_of_small_letters :
    let r := Record.empty.insert "name" (.string "ΟΔΟΣ, οδός")
    (capitalSigma ∉ "οδός".toList ∧ IsName "name".toList ∧ '"' ∉ "οδός".toList ∧
        '*' ∉ "οδός".toList) ∧
      Predicate.holds ⟨"name", .contains, "οδός"⟩ r = true ∧
      compile .spl ("search " ++ "name" ++ "=\"" ++ "οδός" ++ "\"") =
        .ok ⟨[.filter ⟨[⟨"name", .contains, "οδός"⟩]⟩]⟩ ∧
      compile .kql ("where " ++ "name" ++ " contains \"" ++ "οδός" ++ "\"") =
        .ok ⟨[.filter ⟨[⟨"name", .contains, "οδός"⟩]⟩]⟩ := by
  obtain ⟨hfound, hsheltered, hcompiled⟩ := occurrences_found_iff "οδός"
  obtain ⟨hsearch, hwhere, -⟩ := hcompiled "name" (by decide) (by decide)
  refine ⟨by decide, ?_, hsearch (by decide), hwhere⟩
  exact hfound.mpr (hsheltered (by decide)) _ "name" _ rfl (by decide)

/-- A sigma that ends a word in the field, and no word on its own, is not found there. -/
theorem missed_final_sigma :
    let r := Record.empty.insert "name" (.string "ΟΔΟΣ")
    "Σ".toList <:+: "ΟΔΟΣ".toList ∧
      compile .spl "search name=Σ" = .ok ⟨[.filter ⟨[⟨"name", .contains, "Σ"⟩]⟩]⟩ ∧
      Predicate.holds ⟨"name", .contains, "Σ"⟩ r = false := by
  refine ⟨by decide, ?_, by decide⟩
  exact compile_spl (by decide +kernel)

end Query

end LogLab
