import DocOptions.Plugin.Loading

/-! The laws of loading. Findings and traces are put one after the other, so steps can be grouped in
any way, and a step that makes neither can be left out. -/

namespace DocOptions

namespace Loaded

variable {α β γ : Type}

theorem eq_of_parts {left right : Loaded α} (value : left.value = right.value)
    (findings : left.diagnostics.items = right.diagnostics.items)
    (trace : left.trace = right.trace) : left = right := by
  obtain ⟨_, ⟨_⟩, _⟩ := left
  obtain ⟨_, ⟨_⟩, _⟩ := right
  cases value
  cases findings
  cases trace
  rfl

@[simp] theorem value_andThen (a : Loaded α) (b : Loaded β) : (a.andThen b).value = b.value := rfl

theorem andThen_assoc (a : Loaded α) (b : Loaded β) (c : Loaded γ) :
    (a.andThen b).andThen c = a.andThen (b.andThen c) := by
  apply eq_of_parts
  · rfl
  · exact List.append_assoc _ _ _
  · exact TextMap.override_assoc _ _ _

theorem empty_andThen (value : α) (b : Loaded β) : andThen ⟨value, ∅, ∅⟩ b = b := by
  apply eq_of_parts
  · rfl
  · rfl
  · exact TextMap.empty_override _

theorem andThen_empty (a : Loaded α) : a.andThen ⟨a.value, ∅, ∅⟩ = a := by
  apply eq_of_parts
  · rfl
  · exact List.append_nil _
  · exact TextMap.override_empty _

end Loaded

namespace Loading

variable {α β γ : Type}

theorem andThen_ofValue (first : Loading α) : first.andThen ofValue = first := by
  cases first with
  | error e => rfl
  | ok a => exact congrArg Except.ok a.andThen_empty

theorem ok_andThen (a : Loaded α) (next : α → Loading β) :
    andThen (.ok a) next =
      match next a.value with
      | .error e => .error e
      | .ok b => .ok (a.andThen b) := rfl

theorem ok_andThen_ok {a : Loaded α} {next : α → Loading β} {b : Loaded β}
    (step : next a.value = .ok b) : andThen (.ok a) next = .ok (a.andThen b) := by
  rw [ok_andThen, step]

theorem ok_andThen_error {a : Loaded α} {next : α → Loading β} {e : SchemaError}
    (step : next a.value = .error e) : andThen (.ok a) next = .error e := by
  rw [ok_andThen, step]

theorem ofValue_andThen (value : α) (next : α → Loading β) :
    (ofValue value).andThen next = next value := by
  cases step : next value with
  | error e => exact ok_andThen_error step
  | ok b => exact (ok_andThen_ok step).trans (congrArg Except.ok (Loaded.empty_andThen value b))

theorem andThen_assoc (first : Loading α) (second : α → Loading β) (third : β → Loading γ) :
    (first.andThen second).andThen third = first.andThen fun a => (second a).andThen third := by
  cases first with
  | error e => rfl
  | ok a =>
    rw [ok_andThen, ok_andThen]
    cases second a.value with
    | error e => rfl
    | ok b =>
      simp only [ok_andThen, Loaded.value_andThen]
      cases third b.value with
      | error e => rfl
      | ok c => exact congrArg Except.ok (Loaded.andThen_assoc a b c)

instance : LawfulMonad Loading :=
  LawfulMonad.mk' Loading andThen_ofValue ofValue_andThen andThen_assoc

/-- A step that can only give one value, made for its findings and its trace. -/
theorem bind_return_of_value {first : Loading α} {value : α}
    (only : ∀ loaded, first.run = .ok loaded → loaded.value = value) :
    (do
      let _ ← first
      return value) = first := by
  cases first with
  | error e => rfl
  | ok a =>
    obtain rfl := only a rfl
    exact andThen_ofValue (.ok a)

theorem run_bind_ok_iff {first : Loading α} {next : α → Loading β} {loaded : Loaded β} :
    (first >>= next).run = .ok loaded ↔
      ∃ a b, first.run = .ok a ∧ (next a.value).run = .ok b ∧ loaded = a.andThen b := by
  change first.andThen next = .ok loaded ↔ _
  constructor
  · intro done
    cases first with
    | error e => cases done
    | ok a =>
      cases step : next a.value with
      | error e => cases (ok_andThen_error step).symm.trans done
      | ok b => exact ⟨a, b, rfl, step, (Except.ok.inj ((ok_andThen_ok step).symm.trans done)).symm⟩
  · rintro ⟨a, b, first, step, rfl⟩
    obtain rfl : _ = Except.ok a := first
    exact ok_andThen_ok step

theorem run_bind_error_iff {first : Loading α} {next : α → Loading β} {e : SchemaError} :
    (first >>= next).run = .error e ↔
      first.run = .error e ∨ ∃ a, first.run = .ok a ∧ (next a.value).run = .error e := by
  change first.andThen next = .error e ↔ _
  constructor
  · intro failed
    cases first with
    | error e' =>
      obtain rfl : e' = e := Except.error.inj failed
      exact .inl rfl
    | ok a =>
      cases step : next a.value with
      | error e' =>
        cases (ok_andThen_error step).symm.trans failed
        exact .inr ⟨a, rfl, step⟩
      | ok b => cases (ok_andThen_ok step).symm.trans failed
  · rintro (failed | ⟨a, done, failed⟩)
    · obtain rfl : _ = Except.error e := failed
      rfl
    · obtain rfl : _ = Except.ok a := done
      exact ok_andThen_error failed

/-- What is made of a loaded value alone can neither fail nor find anything. -/
theorem run_bind_return (first : Loading α) (f : α → β) :
    (first >>= fun a => return f a).run = first.run.map (Loaded.map f) := by
  cases first with
  | error e => rfl
  | ok a =>
    refine congrArg Except.ok (Loaded.eq_of_parts rfl ?_ ?_)
    · exact List.append_nil _
    · exact TextMap.override_empty _

theorem run_pure_ok_iff {value : α} {loaded : Loaded α} :
    (pure value : Loading α).run = .ok loaded ↔ loaded = ⟨value, ∅, ∅⟩ :=
  ⟨fun done => (Except.ok.inj done).symm, fun same => same ▸ rfl⟩

end Loading
end DocOptions
