/-
This file takes apart outcomes that are successes: each step of a row of steps succeeded.
-/

namespace PathStore.Outcome

variable {ε α β : Type}

/-- Two steps succeed if the first does and the second does on what the first gives. -/
theorem bind_eq_ok_iff {first : Except ε α} {next : α → Except ε β} {value : β} :
    first >>= next = .ok value ↔ ∃ between, first = .ok between ∧ next between = .ok value := by
  cases first with
  | ok between => exact ⟨fun same => ⟨between, rfl, same⟩, fun ⟨_, same, rest⟩ => Except.ok.inj same ▸ rest⟩
  | error failure => exact ⟨nofun, fun ⟨_, same, _⟩ => nomatch same⟩

/-- Two steps fail if the first does, or the second on what the first gives. -/
theorem bind_eq_error_iff {first : Except ε α} {next : α → Except ε β} {failure : ε} :
    first >>= next = .error failure ↔
      first = .error failure ∨ ∃ between, first = .ok between ∧ next between = .error failure := by
  cases first with
  | ok between => exact ⟨fun same => .inr ⟨between, rfl, same⟩, fun either => either.elim nofun fun ⟨_, same, rest⟩ =>
      Except.ok.inj same ▸ rest⟩
  | error reason => exact ⟨fun same => .inl (congrArg Except.error (Except.error.inj same)), fun either =>
      either.elim (fun same => congrArg Except.error (Except.error.inj same)) fun ⟨_, same, _⟩ => nomatch same⟩

theorem map_eq_ok_iff {first : Except ε α} {change : α → β} {value : β} :
    first.map change = .ok value ↔ ∃ between, first = .ok between ∧ change between = value := by
  cases first with
  | ok between => exact ⟨fun same => ⟨between, rfl, Except.ok.inj same⟩, fun ⟨_, same, rest⟩ =>
      congrArg Except.ok (Except.ok.inj same ▸ rest)⟩
  | error failure => exact ⟨nofun, fun ⟨_, same, _⟩ => nomatch same⟩

theorem map_eq_error_iff {first : Except ε α} {change : α → β} {failure : ε} :
    first.map change = .error failure ↔ first = .error failure := by
  cases first with
  | ok value => exact ⟨nofun, nofun⟩
  | error other => exact ⟨fun same => congrArg Except.error (Except.error.inj same), fun same =>
      congrArg Except.error (Except.error.inj same)⟩

theorem mapError_eq_error_iff {ζ : Type} {first : Except ε α} {change : ε → ζ} {failure : ζ} :
    first.mapError change = .error failure ↔ ∃ reason, first = .error reason ∧ change reason = failure := by
  cases first with
  | ok value => exact ⟨nofun, fun ⟨_, same, _⟩ => nomatch same⟩
  | error reason => exact ⟨fun same => ⟨reason, rfl, Except.error.inj same⟩, fun ⟨_, same, changed⟩ =>
      congrArg Except.error (Except.error.inj same ▸ changed)⟩

theorem toOption_eq_some_iff {first : Except ε α} {value : α} : first.toOption = some value ↔ first = .ok value := by
  cases first with
  | ok between => exact ⟨fun same => congrArg Except.ok (Option.some.inj same), fun same =>
      congrArg some (Except.ok.inj same)⟩
  | error failure => exact ⟨nofun, nofun⟩

/-- A row of steps fails if one of them does and those before it succeed. -/
theorem mapM_eq_error_iff {step : α → Except ε β} {items : List α} {failure : ε} :
    items.mapM step = .error failure ↔
      ∃ before item after, items = before ++ item :: after ∧ (∀ earlier ∈ before, ∃ value, step earlier = .ok value) ∧
        step item = .error failure := by
  induction items with
  | nil => exact ⟨nofun, fun ⟨before, _, _, split, _⟩ => by cases before <;> cases split⟩
  | cons first rest ih =>
      rw [List.mapM_cons]
      cases here : step first with
      | error other =>
          constructor
          · intro failed
            obtain rfl := Except.error.inj failed
            exact ⟨[], first, rest, rfl, nofun, here⟩
          · rintro ⟨before, item, after, split, done, fails⟩
            cases before with
            | nil =>
                obtain ⟨rfl, rfl⟩ := List.cons.inj split
                exact congrArg Except.error (Except.error.inj (here.symm.trans fails))
            | cons early before =>
                obtain ⟨rfl, -⟩ := List.cons.inj split
                obtain ⟨value, succeeded⟩ := done first List.mem_cons_self
                rw [here] at succeeded
                cases succeeded
      | ok value =>
          have later : (do let values ← rest.mapM step; pure (value :: values) : Except ε (List β)) = .error failure ↔
              rest.mapM step = .error failure := by
            cases rest.mapM step with
            | error other => exact Iff.rfl
            | ok values => exact ⟨nofun, nofun⟩
          refine later.trans (ih.trans ⟨?_, ?_⟩)
          · rintro ⟨before, item, after, rfl, done, fails⟩
            exact ⟨first :: before, item, after, rfl, List.forall_mem_cons.mpr ⟨⟨value, here⟩, done⟩, fails⟩
          · rintro ⟨before, item, after, split, done, fails⟩
            cases before with
            | nil =>
                obtain ⟨rfl, -⟩ := List.cons.inj split
                rw [here] at fails
                cases fails
            | cons early before =>
                obtain ⟨rfl, rfl⟩ := List.cons.inj split
                exact ⟨before, item, after, rfl, (List.forall_mem_cons.mp done).2, fails⟩

end PathStore.Outcome
