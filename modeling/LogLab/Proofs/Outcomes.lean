import LogLab.Halt

/-! # Outcomes

A list is worked through by steps that may fail. It fails with the step that fails first, and what
each of its steps keeps is kept by the whole. A computation that can only fail, or only crash, halts
in the same way where both are possible.
-/

namespace LogLab

variable {α β γ : Type} {l k : List α}

section Lawful

variable {m : Type → Type} [Monad m] [LawfulMonad m] {f : α → m (Option β)}

theorem filterMapM_append :
    (l ++ k).filterMapM f =
      l.filterMapM f >>= fun front => k.filterMapM f >>= fun rest => pure (front ++ rest) := by
  induction l with
  | nil => simp
  | cons a l ih =>
    rw [List.cons_append, List.filterMapM_cons, List.filterMapM_cons, ih]
    simp only [bind_assoc]
    refine bind_congr fun b => ?_
    cases b <;> simp

theorem filterMapM_map {g : γ → α} {l : List γ} :
    (l.map g).filterMapM f = l.filterMapM fun c => f (g c) := by
  induction l with
  | nil => simp
  | cons c l ih => rw [List.map_cons, List.filterMapM_cons, List.filterMapM_cons, ih]

/-- Elements for which there is nothing make no difference. -/
theorem filterMapM_filter {p : α → Bool} (h : ∀ a, p a = false → f a = pure none) :
    (l.filter p).filterMapM f = l.filterMapM f := by
  induction l with
  | nil => rfl
  | cons a l ih =>
    cases ha : p a with
    | true => rw [List.filter_cons_of_pos ha, List.filterMapM_cons, List.filterMapM_cons, ih]
    | false =>
      rw [List.filter_cons_of_neg (by simp [ha]), List.filterMapM_cons, h a ha, pure_bind, ih]

end Lawful

variable {ε : Type} {f : α → Except ε (Option β)}

theorem filterMapM_of_forall_ok {g : α → Option β} (h : ∀ a ∈ l, f a = .ok (g a)) :
    l.filterMapM f = .ok (l.filterMap g) := by
  induction l with
  | nil => rfl
  | cons a l ih =>
    rw [List.forall_mem_cons] at h
    rw [List.filterMapM_cons, h.1, ih h.2, List.filterMap_cons]
    cases g a <;> rfl

theorem filterMapM_eq_map {g : α → β} (h : ∀ a ∈ l, f a = .ok (some (g a))) :
    l.filterMapM f = .ok (l.map g) := by
  rw [filterMapM_of_forall_ok h]
  exact congrArg Except.ok (congrFun List.filterMap_eq_map l)

theorem exists_error_filterMapM_iff :
    (∃ e, l.filterMapM f = .error e) ↔ ∃ a ∈ l, ∃ e, f a = .error e := by
  induction l with
  | nil =>
    rw [List.filterMapM_nil]
    refine ⟨fun ⟨e, h⟩ => (nomatch h), ?_⟩
    rintro ⟨a, ha, -⟩
    cases ha
  | cons a l ih =>
    rw [List.filterMapM_cons]
    simp only [List.mem_cons, exists_eq_or_imp, ← ih]
    rcases f a with e | _ | b <;> rcases l.filterMapM f with e' | bs
    all_goals simp [Bind.bind, Except.bind, pure, Except.pure]

theorem exists_error_map_iff {x : Except ε α} {g : α → β} :
    (∃ e, x.map g = .error e) ↔ ∃ e, x = .error e := by
  cases x <;> simp [Except.map]

theorem bind_eq_ok_iff {x : Except ε α} {f : α → Except ε β} {b : β} :
    x >>= f = .ok b ↔ ∃ a, x = .ok a ∧ f a = .ok b := by
  cases x with
  | error e => exact ⟨nofun, nofun⟩
  | ok a => exact ⟨fun h => ⟨a, rfl, h⟩, fun ⟨_, ha, h⟩ => Except.ok.inj ha ▸ h⟩

theorem map_eq_ok_iff {x : Except ε α} {f : α → β} {b : β} :
    x.map f = .ok b ↔ ∃ a, x = .ok a ∧ f a = b := by
  cases x <;> simp [Except.map]

theorem mapError_eq_ok_iff {δ : Type} {x : Except ε α} {g : ε → δ} {a : α} :
    x.mapError g = .ok a ↔ x = .ok a := by
  cases x with
  | error e => exact ⟨nofun, nofun⟩
  | ok b => exact ⟨fun h => congrArg _ (Except.ok.inj h), fun h => congrArg _ (Except.ok.inj h)⟩

theorem exists_error_bind_pure_iff {x : Except ε α} {g : α → β} :
    (∃ e, (x >>= fun a => pure (g a)) = .error e) ↔ ∃ e, x = .error e := by
  cases x <;> simp [Bind.bind, Except.bind, pure, Except.pure]

theorem exists_error_bind_bind_pure_iff {x : Except ε α} {y : Except ε β} {g : α → β → γ} :
    (∃ e, (x >>= fun a => y >>= fun b => pure (g a b)) = .error e) ↔
      (∃ e, x = .error e) ∨ ∃ e, y = .error e := by
  cases x <;> cases y <;> simp [Bind.bind, Except.bind, pure, Except.pure]

/-- A fold whose steps fail for some elements, whatever came before, fails if one of them is met. -/
theorem exists_error_foldlM_iff {f : β → α → Except ε β} {fails : α → Prop}
    (h : ∀ b a, (∃ e, f b a = .error e) ↔ fails a) {b : β} :
    (∃ e, l.foldlM f b = .error e) ↔ ∃ a ∈ l, fails a := by
  induction l generalizing b with
  | nil =>
    refine ⟨fun ⟨e, h⟩ => (nomatch h), ?_⟩
    rintro ⟨a, ha, -⟩
    cases ha
  | cons a l ih =>
    rw [List.foldlM_cons]
    simp only [List.mem_cons, exists_eq_or_imp, ← h b a]
    rcases f b a with e | b'
    · simp [Bind.bind, Except.bind]
    · simpa [Bind.bind, Except.bind] using ih

/-- A fold fails with the step that fails first, behind steps that do not. -/
theorem foldlM_eq_error_iff {f : β → α → Except ε β} {b : β} {e : ε} :
    l.foldlM f b = .error e ↔
      ∃ front a rest b', l = front ++ a :: rest ∧ front.foldlM f b = .ok b' ∧
        f b' a = .error e := by
  constructor
  · intro h
    induction l generalizing b with
    | nil => cases h
    | cons a l ih =>
      rw [List.foldlM_cons] at h
      cases ha : f b a with
      | error e' =>
        rw [ha] at h
        cases h
        exact ⟨[], a, l, b, rfl, rfl, ha⟩
      | ok c =>
        rw [ha] at h
        obtain ⟨front, a', rest, b', rfl, hfront, hfails⟩ := ih h
        refine ⟨a :: front, a', rest, b', rfl, ?_, hfails⟩
        rw [List.foldlM_cons, ha]
        exact hfront
  · rintro ⟨front, a, rest, b', rfl, hfront, hfails⟩
    rw [List.foldlM_append, hfront]
    exact (List.foldlM_cons ..).trans (congrArg (· >>= fun c => rest.foldlM f c) hfails)

/-- What each step of a fold keeps, the fold keeps. -/
theorem foldlM_preserves {f : β → α → Except ε β} {view : β → γ}
    (h : ∀ b a b', f b a = .ok b' → view b' = view b) {b b' : β} (hl : l.foldlM f b = .ok b') :
    view b' = view b := by
  induction l generalizing b with
  | nil => cases hl; rfl
  | cons a l ih =>
    rw [List.foldlM_cons] at hl
    cases ha : f b a with
    | error e => rw [ha] at hl; cases hl
    | ok c =>
      rw [ha] at hl
      exact (ih hl).trans (h b a c ha)

section Halts

theorem lift_eq_ok_iff {x : Except ε α} {a : α} :
    (liftM x : Except (Halt ε) α) = .ok a ↔ x = .ok a :=
  mapError_eq_ok_iff

theorem lift_ne_crashed {x : Except ε α} {crash : Crash} :
    (liftM x : Except (Halt ε) α) ≠ .error (.crashed crash) := by
  cases x <;> exact nofun

variable {x : Except Crash α}

theorem exists_crashed_lift_iff :
    (∃ crash, (liftM x : Except (Halt ε) α) = .error (.crashed crash)) ↔
      ∃ crash, x = .error crash := by
  cases x with
  | error crash => exact ⟨fun _ => ⟨crash, rfl⟩, fun _ => ⟨crash, rfl⟩⟩
  | ok a => exact ⟨fun ⟨_, h⟩ => (nomatch h), fun ⟨_, h⟩ => (nomatch h)⟩

theorem lift_bind (f : α → Except Crash β) :
    (liftM (x >>= f) : Except (Halt ε) β) = liftM x >>= fun a => liftM (f a) := by
  cases x <;> rfl

end Halts

end LogLab
