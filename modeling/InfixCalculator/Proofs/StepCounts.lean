import InfixCalculator.Trace

/-!
# Counting the steps of an evaluation

Steps are counted by the lines that report them: a line says what kind of step it is by the words it
starts with (`Step.startsWith`).

An evaluation with a budget (`Traced.Spends`) takes no more steps of a kind than the budget allows,
also when it ends in a fault, and when it comes to a value, its steps and what is still left make up
the budget. Budgets are handed on: what one evaluation leaves is the budget of the next one
(`Traced.Spends.bind`).
-/

set_option autoImplicit false

namespace InfixCalculator

namespace Step

/-- Whether the line that reports a step starts with some words. -/
def startsWith (words : String) (s : Step) : Bool := words.toList.isPrefixOf s.message

variable (left right before after text : Text) (x y z : Binary64) (op : Operator)

@[simp] theorem startsWith_reduced_reduced :
    (reduced left op right before after).startsWith "Reduced " = true := rfl

@[simp] theorem startsWith_reduced_opened :
    (reduced left op right before after).startsWith "Opened group " = false := rfl

@[simp] theorem startsWith_opened_reduced : (opened text).startsWith "Reduced " = false := rfl

@[simp] theorem startsWith_opened_opened : (opened text).startsWith "Opened group " = true := rfl

@[simp] theorem startsWith_evaluated_evaluated :
    (evaluated x op y z).startsWith "Evaluated " = true := rfl

@[simp] theorem startsWith_validated_reduced : (validated text).startsWith "Reduced " = false := rfl

@[simp] theorem startsWith_validated_opened : (validated text).startsWith "Opened group " = false :=
  rfl

@[simp] theorem startsWith_validated_evaluated : (validated text).startsWith "Evaluated " = false :=
  rfl

end Step

namespace Traced

variable {α β : Type}

/-! ## The steps of composed evaluations -/

@[simp] theorem steps_step (s : Step) : (step s).steps = [s] := rfl

theorem steps_bind_of_ok {first : Traced α} {value : α} (done : first.outcome = .ok value)
    (next : α → Traced β) : (first >>= next).steps = first.steps ++ (next value).steps := by
  obtain ⟨steps, outcome⟩ := first
  cases done
  rfl

theorem steps_bind_of_error {first : Traced α} {fault : Fault}
    (failed : first.outcome = .error fault) (next : α → Traced β) :
    (first >>= next).steps = first.steps := by
  obtain ⟨steps, outcome⟩ := first
  cases failed
  rfl

theorem outcome_bind_of_ok {first : Traced α} {value : α} (done : first.outcome = .ok value)
    (next : α → Traced β) : (first >>= next).outcome = (next value).outcome := by
  rw [outcome_bind, done]
  rfl

/-- Every step of one evaluation after another is a step of one of them. -/
theorem mem_steps_bind {first : Traced α} {next : α → Traced β} {s : Step}
    (member : s ∈ (first >>= next).steps) :
    s ∈ first.steps ∨ ∃ value, first.outcome = .ok value ∧ s ∈ (next value).steps := by
  cases ended : first.outcome with
  | error fault =>
    rw [steps_bind_of_error ended] at member
    exact .inl member
  | ok value =>
    rw [steps_bind_of_ok ended] at member
    exact (List.mem_append.1 member).imp_right fun later => ⟨value, rfl, later⟩

/-! ## Budgets -/

/-- An evaluation that pays for its steps of a kind from a budget; `left` is what a value leaves of
it. -/
structure Spends (counted : Step → Bool) (budget : Nat) (left : α → Nat) (r : Traced α) : Prop where
  /-- The budget is never exceeded. -/
  within : r.steps.countP counted ≤ budget
  /-- With a value, nothing of the budget is lost. -/
  spent : ∀ value, r.outcome = .ok value → r.steps.countP counted + left value = budget

namespace Spends

variable {counted : Step → Bool} {budget : Nat} {left : α → Nat}

/-- An evaluation without steps of the kind leaves its budget as it is. -/
theorem ofNone {r : Traced α} (none : r.steps.countP counted = 0)
    (kept : ∀ value, r.outcome = .ok value → left value = budget) :
      Spends counted budget left r where
  within := none ▸ Nat.zero_le budget
  spent value done := by rw [none, Nat.zero_add, kept value done]

theorem fail (fault : Fault) : Spends counted budget left (.fail fault) :=
  .ofNone rfl fun _ failed => by cases failed

theorem pure {value : α} (kept : left value = budget) : Spends counted budget left (pure value) :=
  .ofNone rfl fun _ done => by cases done; exact kept

theorem lift {outcome : Except Fault α}
    (kept : ∀ value, outcome = .ok value → left value = budget) :
    Spends counted budget left (liftM outcome : Traced α) :=
  .ofNone rfl kept

/-- A step of the kind takes one off the budget. -/
theorem step {s : Step} (counts : counted s = true) :
    Spends counted (budget + 1) (fun _ => budget) (.step s) where
  within := by simp [counts]
  spent _ _ := by simp [counts, Nat.add_comm]

/-- Another step costs nothing. -/
theorem otherStep {s : Step} (other : counted s = false) :
    Spends counted budget (fun _ => budget) (.step s) :=
  .ofNone (by simp [other]) fun _ _ => rfl

/-- What is set aside beforehand is left in the end. -/
theorem add {r : Traced α} (spends : Spends counted budget left r) (more : Nat) :
    Spends counted (budget + more) (fun value => left value + more) r where
  within := Nat.le_add_right_of_le spends.within
  spent value done := by rw [← Nat.add_assoc, spends.spent value done]

/-- **Budgets are handed on** from one evaluation to the next. -/
theorem bind {first : Traced α} (spends : Spends counted budget left first) {left' : β → Nat}
    {next : α → Traced β}
    (then_ : ∀ value, first.outcome = .ok value → Spends counted (left value) left' (next value)) :
    Spends counted budget left' (first >>= next) := by
  cases ended : first.outcome with
  | error fault =>
    refine ⟨?_, ?_⟩
    · rw [steps_bind_of_error ended]
      exact spends.within
    · intro value done
      rw [outcome_bind, ended] at done
      cases done
  | ok value =>
    have paid := spends.spent value ended
    have later := then_ value ended
    refine ⟨?_, ?_⟩
    · rw [steps_bind_of_ok ended, List.countP_append, ← paid]
      exact Nat.add_le_add_left later.within _
    · intro value' done
      rw [outcome_bind_of_ok ended] at done
      rw [steps_bind_of_ok ended, List.countP_append, Nat.add_assoc, later.spent value' done, paid]

end Spends

end Traced

end InfixCalculator
