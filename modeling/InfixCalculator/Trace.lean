import InfixCalculator.Fault

/-!
# Traced evaluation

An evaluation leaves a trace: the steps it took, in order. A traced result is an outcome together
with the steps taken to reach it; the steps stay when the outcome is a fault, so that one can see
how far the evaluation came.
-/

set_option autoImplicit false

namespace InfixCalculator

/-- A step of an evaluation. -/
inductive Step where
  /-- The expression passed validation and was compacted. -/
  | validated (compact : Text)
  /-- A binary expression inside a flat text was replaced by its value. -/
  | reduced (left : Text) (operator : Operator) (right before after : Text)
  /-- A group was replaced by its value. -/
  | opened (text : Text)
  /-- An operator was applied to two numbers. -/
  | evaluated (left : Binary64) (operator : Operator) (right result : Binary64)
deriving DecidableEq

/-- The line that reports a step. -/
def Step.message : Step → Text
  | validated compact => "Validated expression ".toList ++ compact.quoted
  | reduced left operator right before after =>
    "Reduced ".toList ++ left ++ operator.symbol :: right ++ " in ".toList ++ before
      ++ " -> ".toList ++ after
  | opened text => "Opened group -> ".toList ++ text
  | evaluated left operator right result =>
    "Evaluated ".toList ++ left.natural ++ ' ' :: operator.symbol :: ' ' :: right.natural
      ++ " -> ".toList ++ result.natural

/-- An outcome and the steps taken to reach it. -/
structure Traced (α : Type) where
  /-- The steps, in order. -/
  steps : List Step
  /-- The value, or the fault that ended the evaluation. -/
  outcome : Except Fault α

namespace Traced

variable {α β : Type}

/-- An outcome without steps. -/
def ofExcept (outcome : Except Fault α) : Traced α := ⟨[], outcome⟩

/-- Takes one step. -/
def step (s : Step) : Traced Unit := ⟨[s], .ok ()⟩

/-- A fault without steps. -/
def fail (fault : Fault) : Traced α := ⟨[], .error fault⟩

/-- Goes on with the value of an evaluation; a fault ends it. -/
def andThen (first : Traced α) (next : α → Traced β) : Traced β :=
  match first.outcome with
  | .error fault => ⟨first.steps, .error fault⟩
  | .ok value => ⟨first.steps ++ (next value).steps, (next value).outcome⟩

instance : Monad Traced where
  pure value := ⟨[], .ok value⟩
  bind := andThen

instance : MonadLift (Except Fault) Traced := ⟨ofExcept⟩

/-! ## Outcomes and steps of composed evaluations -/

@[simp] theorem outcome_pure (value : α) : (pure value : Traced α).outcome = .ok value := rfl

@[simp] theorem steps_pure (value : α) : (pure value : Traced α).steps = [] := rfl

@[simp] theorem outcome_fail (fault : Fault) : (fail fault : Traced α).outcome = .error fault := rfl

@[simp] theorem steps_fail (fault : Fault) : (fail fault : Traced α).steps = [] := rfl

@[simp] theorem outcome_step (s : Step) : (step s).outcome = .ok () := rfl

@[simp] theorem outcome_liftM (outcome : Except Fault α) :
    (liftM outcome : Traced α).outcome = outcome :=
  rfl

theorem outcome_bind (first : Traced α) (next : α → Traced β) :
    (first >>= next).outcome = first.outcome.bind fun value => (next value).outcome := by
  obtain ⟨steps, outcome⟩ := first
  cases outcome <;> rfl

end Traced

end InfixCalculator
