/-
  This file compares the outcomes of two computations that
  may end in a fault. They concur if both of them end in the
  same fault, or neither does and what they give agrees. The
  second one may be spared the comparison for some faults, as
  when it uses up what the first one saves.

  Key definitions include:
    * `Concur`

  Key theorems include:
    * `Concur.bind`
    * `Concur.exists_of_ok`
    * `Concur.eq`
-/

------------------------------------------------------------
-- Concurring Outcomes
------------------------------------------------------------

namespace LatticeGas

/-
  Two computations end in the same fault, or both of them end
  without a fault and their outcomes agree. Nothing is said of
  the first one if the second one ends in a fault for which it
  is spared.
-/
inductive Concur
    {E A B : Type}
    (spared : E → Prop)
    (agree : A → B → Prop) :
    Except E A → Except E B → Prop where
  | ok
      {left : A}
      {right : B}
      (hAgree : agree left right) :
      Concur spared agree (.ok left) (.ok right)
  | error
      (fault : E) :
      Concur spared agree (.error fault) (.error fault)
  | spared
      (left : Except E A)
      {fault : E}
      (hSpared : spared fault) :
      Concur spared agree left (.error fault)

namespace Concur

variable {E A B C D : Type}
variable {spared wider : E → Prop}
variable {agree weaker : A → B → Prop}
variable {agree' : C → D → Prop}
variable {left : Except E A}
variable {right : Except E B}

/- Less may be wanted, and more faults be spared. -/
theorem imp
    (hConcur : Concur spared agree left right)
    (hSpared : ∀ fault, spared fault → wider fault)
    (hAgree : ∀ a b, agree a b → weaker a b) :
    Concur wider weaker left right := by
  cases hConcur with
  | ok h => exact .ok (hAgree _ _ h)
  | error fault => exact .error fault
  | spared left h => exact .spared left (hSpared _ h)

theorem mono
    (hConcur : Concur spared agree left right)
    (hAgree : ∀ a b, agree a b → weaker a b) :
    Concur spared weaker left right :=
  hConcur.imp (fun _ h => h) hAgree

/- If the second one ends without a fault, so does the first. -/
theorem exists_of_ok
    {value : B}
    (hConcur : Concur spared agree left (.ok value)) :
    ∃ other, left = .ok other ∧ agree other value := by
  cases hConcur with
  | ok hAgree => exact ⟨_, rfl, hAgree⟩

/- The other way round only where no fault is spared. -/
theorem exists_of_ok_left
    {value : A}
    (hConcur : Concur spared agree (.ok value) right)
    (hNone : ∀ fault, ¬ spared fault) :
    ∃ other, right = .ok other ∧ agree value other := by
  cases hConcur with
  | ok hAgree => exact ⟨_, rfl, hAgree⟩
  | spared left h => exact absurd h (hNone _)

/- Computations that concur are continued alike. -/
theorem bind
    {nextLeft : A → Except E C}
    {nextRight : B → Except E D}
    (hConcur : Concur spared agree left right)
    (hNext :
      ∀ a b, agree a b →
        Concur spared agree' (nextLeft a) (nextRight b)) :
    Concur spared agree' (left >>= nextLeft)
      (right >>= nextRight) := by
  cases hConcur with
  | ok h => exact hNext _ _ h
  | error fault => exact .error fault
  | spared left h => exact .spared _ h

theorem map
    {showLeft : A → C}
    {showRight : B → D}
    (hConcur : Concur spared agree left right)
    (hShow :
      ∀ a b, agree a b →
        agree' (showLeft a) (showRight b)) :
    Concur spared agree' (left.map showLeft)
      (right.map showRight) := by
  cases hConcur with
  | ok h => exact .ok (hShow _ _ h)
  | error fault => exact .error fault
  | spared left h => exact .spared _ h

/-
  Where nothing is spared, outcomes that agree only with
  themselves are the same.
-/
theorem eq
    {right : Except E A}
    (hConcur : Concur spared Eq left right)
    (hNone : ∀ fault, ¬ spared fault) :
    left = right := by
  cases hConcur with
  | ok h => rw [h]
  | error fault => rfl
  | spared left h => exact absurd h (hNone _)

end Concur

end LatticeGas
