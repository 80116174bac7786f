import LatticeGas.Fault

/-
  This file says what a computation comes to when some faults
  are excused. It ends as is wanted of it, or one of those
  faults stops it, but no other fault does.

  Key definitions include:
    * `Barring`
    * `Fault.Exhaustion`

  Key theorems include:
    * `Barring.cases`
    * `Barring.bind`
    * `addCount_eq`
    * `barring_addCount`
-/

------------------------------------------------------------
-- Outcomes Barring Faults
------------------------------------------------------------

namespace LatticeGas

/-
  The computation ends without a fault and with an outcome
  that is wanted, barring the faults that are excused.
-/
def Barring
    {A : Type}
    (excused : Fault → Prop)
    (goal : A → Prop) : Except Fault A → Prop
| .ok value => goal value
| .error fault => excused fault

/- The numbers for nodes are used up. -/
def Fault.Exhaustion (fault : Fault) : Prop :=
  fault = .exhausted

namespace Barring

variable {A B : Type}
variable {excused wider : Fault → Prop}
variable {goal weaker : A → Prop}
variable {goal' : B → Prop}
variable {outcome : Except Fault A}
variable {value : A}

theorem of_eq_ok
    (hOutcome : outcome = .ok value)
    (hGoal : goal value) :
    Barring excused goal outcome := by
  rw [hOutcome]
  exact hGoal

/- An outcome without a fault is as wanted. -/
theorem of_ok
    (hBarring : Barring excused goal outcome)
    (hOutcome : outcome = .ok value) :
    goal value := by
  rw [hOutcome] at hBarring
  exact hBarring

theorem excused_of_error
    {fault : Fault}
    (hBarring : Barring excused goal outcome)
    (hOutcome : outcome = .error fault) :
    excused fault := by
  rw [hOutcome] at hBarring
  exact hBarring

/- An excused fault, or else an outcome as wanted. -/
theorem cases
    (hBarring : Barring excused goal outcome) :
    (∃ fault, outcome = .error fault ∧ excused fault) ∨
      ∃ value, outcome = .ok value ∧ goal value := by
  cases outcome with
  | error fault => exact Or.inl ⟨fault, rfl, hBarring⟩
  | ok value => exact Or.inr ⟨value, rfl, hBarring⟩

/- No fault is excused, so there is none. -/
theorem exists_ok
    (hBarring : Barring excused goal outcome)
    (hNone : ∀ fault, ¬ excused fault) :
    ∃ value, outcome = .ok value ∧ goal value := by
  rcases hBarring.cases with
    ⟨fault, -, hExcused⟩ | hDone
  · exact absurd hExcused (hNone fault)
  · exact hDone

/- What is wanted may be weakened, and more be excused. -/
theorem imp
    (hBarring : Barring excused goal outcome)
    (hExcused : ∀ fault, excused fault → wider fault)
    (hGoal :
      ∀ value, outcome = .ok value →
        goal value → weaker value) :
    Barring wider weaker outcome := by
  cases outcome with
  | error fault => exact hExcused fault hBarring
  | ok value => exact hGoal value rfl hBarring

theorem mono
    (hBarring : Barring excused goal outcome)
    (hGoal : ∀ value, goal value → weaker value) :
    Barring excused weaker outcome :=
  hBarring.imp (fun _ h => h) fun value _ => hGoal value

/- What two readings of one outcome say, both of them say. -/
theorem both
    {excused' : Fault → Prop}
    {other : A → Prop}
    (hBarring : Barring excused goal outcome)
    (hOther : Barring excused' other outcome) :
    Barring (fun fault => excused fault ∧ excused' fault)
      (fun value => goal value ∧ other value) outcome := by
  cases outcome with
  | error fault => exact ⟨hBarring, hOther⟩
  | ok value => exact ⟨hBarring, hOther⟩

/- One computation after another. -/
theorem bind
    {next : A → Except Fault B}
    (hBarring : Barring excused goal outcome)
    (hNext :
      ∀ value, outcome = .ok value → goal value →
        Barring excused goal' (next value)) :
    Barring excused goal' (outcome >>= next) := by
  cases outcome with
  | error fault => exact hBarring
  | ok value => exact hNext value rfl hBarring

theorem map
    {read : A → B}
    (hBarring : Barring excused goal outcome)
    (hShow : ∀ value, goal value → goal' (read value)) :
    Barring excused goal' (outcome.map read) := by
  cases outcome with
  | error fault => exact hBarring
  | ok value => exact hShow value hBarring

end Barring

/- A sum is counted, or it overflows. -/
theorem addCount_eq
    (count amount : Nat) :
    addCount count amount =
      if count + amount < countLimit then
        .ok (count + amount)
      else
        .error .sumOverflow := by
  unfold addCount require
  by_cases hBelow : count + amount < countLimit
  · simp only [if_pos hBelow, bind, Except.bind]
    rfl
  · simp only [if_neg hBelow, bind, Except.bind]

/- A count is added to unless the sum is not a count. -/
theorem barring_addCount
    (count amount : Nat) :
    Barring
      (fun fault =>
        fault = .sumOverflow ∧ countLimit ≤ count + amount)
      (fun sum => sum = count + amount)
      (addCount count amount) := by
  rw [addCount_eq]
  by_cases hBelow : count + amount < countLimit
  · rw [if_pos hBelow]
    exact rfl
  · rw [if_neg hBelow]
    exact ⟨rfl, Nat.not_lt.mp hBelow⟩

end LatticeGas
