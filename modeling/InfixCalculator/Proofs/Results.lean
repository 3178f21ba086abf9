/-!
# Results

A computation results in a value or in a fault. What follows is used wherever such computations are
compared: how a value comes out of computations done one after another, when two results agree up to
the names of their values and faults (`map_eq_mapError`), that this agreement is passed on by a
further computation (`bind_follows`), and what holds of every fault that can come out
(`FaultsHave`).
-/

set_option autoImplicit false

namespace InfixCalculator

variable {α β γ ε ε' : Type}

/-! ## Values -/

theorem bind_eq_ok {result : Except ε α} {next : α → Except ε β} {value : β} :
    result.bind next = .ok value ↔ ∃ first, result = .ok first ∧ next first = .ok value := by
  cases result with
  | error fault => exact ⟨fun failed => (by cases failed), fun ⟨_, failed, _⟩ => (by cases failed)⟩
  | ok first =>
    exact ⟨fun same => ⟨first, rfl, same⟩, fun ⟨_, first, same⟩ => Except.ok.inj first ▸ same⟩

theorem map_eq_ok {f : α → β} {result : Except ε α} {value : β} :
    result.map f = .ok value ↔ ∃ first, result = .ok first ∧ f first = value := by
  cases result with
  | error fault => exact ⟨fun failed => (by cases failed), fun ⟨_, failed, _⟩ => (by cases failed)⟩
  | ok first =>
    exact ⟨fun same => ⟨first, rfl, Except.ok.inj same⟩,
      fun ⟨_, first, same⟩ => congrArg Except.ok (Except.ok.inj first ▸ same)⟩

theorem map_eq_error {f : α → β} {result : Except ε α} {fault : ε} :
    result.map f = .error fault ↔ result = .error fault := by
  cases result with
  | error fault' =>
    exact ⟨fun same => congrArg _ (Except.error.inj same),
      fun same => congrArg _ (Except.error.inj same)⟩
  | ok value => exact ⟨nofun, nofun⟩

theorem toOption_eq_some {result : Except ε α} {value : α} :
    result.toOption = some value ↔ result = .ok value := by
  cases result <;> simp [Except.toOption]

@[simp] theorem toOption_ok (value : α) : (Except.ok value : Except ε α).toOption = some value :=
  rfl

@[simp] theorem toOption_error (fault : ε) : (Except.error fault : Except ε α).toOption = none :=
  rfl

@[simp] theorem toOption_bind (result : Except ε α) (next : α → Except ε β) :
    (result.bind next).toOption = result.toOption.bind fun value => (next value).toOption := by
  cases result <;> rfl

@[simp] theorem toOption_map (f : α → β) (result : Except ε α) :
    (result.map f).toOption = result.toOption.map f := by
  cases result <;> rfl

@[simp] theorem toOption_mapError (f : ε → ε') (result : Except ε α) :
    (result.mapError f).toOption = result.toOption := by
  cases result <;> rfl

/-! ## One computation after another -/

@[simp] theorem bind_ok (value : α) (next : α → Except ε β) :
    (Except.ok value).bind next = next value :=
  rfl

@[simp] theorem bind_error (fault : ε) (next : α → Except ε β) :
    (Except.error fault).bind next = .error fault := rfl

theorem map_eq_bind (f : α → β) (result : Except ε α) :
    result.map f = result.bind fun value => .ok (f value) := by
  cases result <;> rfl

theorem bind_of_bind (result : Except ε α) (next : α → Except ε β) (last : β → Except ε γ) :
    (result.bind next).bind last = result.bind fun value => (next value).bind last := by
  cases result <;> rfl

theorem bind_of_map (f : α → β) (result : Except ε α) (next : β → Except ε γ) :
    (result.map f).bind next = result.bind fun value => next (f value) := by
  cases result <;> rfl

theorem map_of_bind (f : β → γ) (result : Except ε α) (next : α → Except ε β) :
    (result.bind next).map f = result.bind fun value => (next value).map f := by
  cases result <;> rfl

theorem mapError_of_bind (g : ε → ε') (result : Except ε α) (next : α → Except ε β) :
    (result.bind next).mapError g
      = (result.mapError g).bind fun value => (next value).mapError g := by
  cases result <;> rfl

theorem mapError_of_map (f : α → β) (g : ε → ε') (result : Except ε α) :
    (result.map f).mapError g = (result.mapError g).map f := by
  cases result <;> rfl

@[simp] theorem mapError_id (result : Except ε α) : result.mapError id = result := by
  cases result <;> rfl

/-! ## Results that agree -/

/-- What comes next need only be the same on the value that there is. -/
theorem bind_congr_of_ok {result : Except ε α} {next next' : α → Except ε β}
    (same : ∀ value, result = .ok value → next value = next' value) :
    result.bind next = result.bind next' := by
  cases result with
  | error fault => rfl
  | ok value => exact same value rfl

/-- Results agree when both are faults that correspond, or both are values that correspond. -/
theorem map_eq_mapError {f : α → β} {g : ε' → ε} {result : Except ε α} {result' : Except ε' β} :
    result.map f = result'.mapError g ↔
      (∃ fault, result = .error (g fault) ∧ result' = .error fault)
        ∨ ∃ value, result = .ok value ∧ result' = .ok (f value) := by
  constructor
  · intro same
    cases result with
    | error fault =>
      cases result' with
      | error fault' => exact .inl ⟨fault', congrArg _ (Except.error.inj same), rfl⟩
      | ok value => cases same
    | ok value =>
      cases result' with
      | error fault => cases same
      | ok value' => exact .inr ⟨value, rfl, congrArg _ (Except.ok.inj same).symm⟩
  · rintro (⟨fault, rfl, rfl⟩ | ⟨value, rfl, rfl⟩) <;> rfl

/-- Results with the same image are one fault, or values with one image. -/
theorem map_eq_map {f : α → γ} {g : β → γ} {result : Except ε α} {result' : Except ε β} :
    result.map f = result'.map g ↔
      (∃ fault, result = .error fault ∧ result' = .error fault)
        ∨ ∃ value value', result = .ok value ∧ result' = .ok value' ∧ f value = g value' := by
  constructor
  · intro same
    cases result with
    | error fault =>
      cases result' with
      | error fault' => exact .inl ⟨fault, rfl, congrArg _ (Except.error.inj same).symm⟩
      | ok value => cases same
    | ok value =>
      cases result' with
      | error fault => cases same
      | ok value' => exact .inr ⟨value, value', rfl, rfl, Except.ok.inj same⟩
  · rintro (⟨fault, rfl, rfl⟩ | ⟨value, value', rfl, rfl, same⟩)
    · rfl
    · exact congrArg _ same

/-- Results that are the same up to names stay so after what comes next, if that does not tell
values with one image apart. -/
theorem mapError_bind_of_map {f : α → γ} {g : ε → ε'} {result result' : Except ε α}
    {next next' : α → Except ε β} (same : (result.map f).mapError g = (result'.map f).mapError g)
    (follows : ∀ value value', result = .ok value → result' = .ok value' → f value = f value' →
      (next value).mapError g = (next' value').mapError g) :
    (result.bind next).mapError g = (result'.bind next').mapError g := by
  cases result with
  | error fault =>
    cases result' with
    | error fault' => exact congrArg Except.error (Except.error.inj same)
    | ok value' => cases same
  | ok value =>
    cases result' with
    | error fault' => cases same
    | ok value' => exact follows value value' rfl rfl (Except.ok.inj same)

/-- **Results that agree still agree after what comes next**, if that agrees on their values. -/
theorem bind_follows {f : α → β} {g : ε' → ε} {result : Except ε α} {result' : Except ε' β}
    {α' β' : Type} {f' : α' → β'} {next : α → Except ε α'} {next' : β → Except ε' β'}
    (same : result.map f = result'.mapError g)
    (follows : ∀ value, result = .ok value → (next value).map f' = (next' (f value)).mapError g) :
    (result.bind next).map f' = (result'.bind next').mapError g := by
  rcases map_eq_mapError.1 same with ⟨fault, rfl, rfl⟩ | ⟨value, rfl, rfl⟩
  · rfl
  · exact follows value rfl

/-! ## Faults -/

/-- A result whose fault, if it is one, has a property. -/
def FaultsHave (P : ε → Prop) (result : Except ε α) : Prop :=
  ∀ fault, result = .error fault → P fault

namespace FaultsHave

variable {P Q : ε → Prop} {result : Except ε α}

theorem ok (value : α) : FaultsHave P (.ok value) := by
  rintro _ ⟨⟩

theorem error {fault : ε} (property : P fault) : FaultsHave P (.error fault : Except ε α) := by
  rintro _ ⟨⟩
  exact property

theorem mono (first : FaultsHave P result) (weaker : ∀ fault, P fault → Q fault) :
    FaultsHave Q result :=
  fun fault failed => weaker fault (first fault failed)

theorem bind (first : FaultsHave P result) {next : α → Except ε β}
    (then_ : ∀ value, result = .ok value → FaultsHave P (next value)) :
      FaultsHave P (result.bind next) := by
  cases result with
  | error fault => exact .error (first fault rfl)
  | ok value => exact then_ value rfl

theorem map (first : FaultsHave P result) (f : α → β) : FaultsHave P (result.map f) := by
  rw [map_eq_bind]
  exact first.bind fun value _ => .ok (f value)

end FaultsHave

end InfixCalculator
