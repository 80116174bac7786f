import LatticeGas.Proofs.Barring
import LatticeGas.Tracker.Run

/-
  This file bounds what a move of a tracker takes out of the
  numbers for nodes and out of those for ticks. The move
  succeeds as long as there are enough of them left, and its
  bounds are added up from those of its parts.

  Key definitions include:
    * `Tracker.FallsShort`
    * `Tracker.Within`
    * `Tracker.Spends`

  Key theorems include:
    * `Tracker.FallsShort.shortage`
    * `Tracker.Spends.bind`
-/

------------------------------------------------------------
-- Too Few Numbers
------------------------------------------------------------

namespace LatticeGas

namespace Tracker

/-
  There are fewer numbers left than so many nodes and ticks
  need, and the fault tells of which there are too few.
-/
inductive FallsShort
    (tracker : Tracker)
    (nodes ticks : Nat) : Fault → Prop where
  | nodes
      (hNodes : nodeLimit < tracker.arena.size + nodes) :
      FallsShort tracker nodes ticks .exhausted
  | ticks
      (hTicks : countLimit ≤ tracker.elapsed + ticks) :
      FallsShort tracker nodes ticks .sumOverflow

variable {tracker : Tracker}
variable {nodes ticks : Nat}
variable {fault : Fault}

theorem FallsShort.mono
    (hShort : tracker.FallsShort nodes ticks fault)
    {moreNodes moreTicks : Nat}
    (hNodes : nodes ≤ moreNodes)
    (hTicks : ticks ≤ moreTicks) :
    tracker.FallsShort moreNodes moreTicks fault := by
  cases hShort with
  | nodes hFull => exact .nodes (by omega)
  | ticks hLate => exact .ticks (by omega)

/- There are at most so many more nodes and ticks. -/
structure Within
    (before : Tracker)
    (nodes ticks : Nat)
    (after : Tracker) : Prop where
  size_le : after.arena.size ≤ before.arena.size + nodes
  elapsed_le : after.elapsed ≤ before.elapsed + ticks

variable {before after last : Tracker}
variable {moreNodes moreTicks : Nat}

theorem Within.trans
    (hAfter : before.Within nodes ticks after)
    (hLast : after.Within moreNodes moreTicks last) :
    before.Within (nodes + moreNodes) (ticks + moreTicks)
      last := by
  have hSize := hAfter.size_le
  have hTicks := hAfter.elapsed_le
  have hMoreSize := hLast.size_le
  have hMoreTicks := hLast.elapsed_le
  exact ⟨by omega, by omega⟩

theorem Within.mono
    (hAfter : before.Within nodes ticks after)
    (hNodes : nodes ≤ moreNodes)
    (hTicks : ticks ≤ moreTicks) :
    before.Within moreNodes moreTicks after :=
  ⟨Nat.le_trans hAfter.size_le (by omega),
    Nat.le_trans hAfter.elapsed_le (by omega)⟩

/- What is too little later was too little before. -/
theorem Within.fallsShort
    (hAfter : before.Within nodes ticks after)
    (hShort : after.FallsShort moreNodes moreTicks fault) :
    before.FallsShort (nodes + moreNodes)
      (ticks + moreTicks) fault := by
  have hSize := hAfter.size_le
  have hElapsed := hAfter.elapsed_le
  cases hShort with
  | nodes hFull => exact .nodes (by omega)
  | ticks hLate => exact .ticks (by omega)

/- With enough numbers left, there are not too few. -/
theorem not_fallsShort
    (hNodes : tracker.arena.size + nodes ≤ nodeLimit)
    (hTicks : tracker.elapsed + ticks < countLimit)
    (fault : Fault) :
    ¬ tracker.FallsShort nodes ticks fault := by
  intro hShort
  cases hShort with
  | nodes hFull => omega
  | ticks hLate => omega

end Tracker

end LatticeGas

------------------------------------------------------------
-- What a Move Takes
------------------------------------------------------------

namespace LatticeGas

namespace Tracker

/-
  A move of the tracker ends as is wanted, with at most so
  many nodes more and after so many ticks, unless there are
  too few numbers left for these.
-/
def Spends
    (tracker : Tracker)
    (nodes ticks : Nat)
    (goal : Tracker → Prop) :
    Except Fault Tracker → Prop :=
  Barring (tracker.FallsShort nodes ticks) fun after =>
    after.arena.size ≤ tracker.arena.size + nodes ∧
      after.elapsed = tracker.elapsed + ticks ∧ goal after

variable {tracker : Tracker}
variable {nodes ticks moreNodes moreTicks : Nat}
variable {goal weaker goal' : Tracker → Prop}
variable {outcome : Except Fault Tracker}

/- To stay as it is takes nothing. -/
theorem spends_self
    (hGoal : goal tracker) :
    tracker.Spends 0 0 goal (.ok tracker) :=
  ⟨Nat.le_refl _, rfl, hGoal⟩

/- A move that ends with no more nodes takes nothing either. -/
theorem spends_of_eq_ok
    {after : Tracker}
    (hRun : outcome = .ok after)
    (hSize : after.arena.size ≤ tracker.arena.size)
    (hElapsed : after.elapsed = tracker.elapsed)
    (hGoal : goal after) :
    tracker.Spends 0 0 goal outcome :=
  Barring.of_eq_ok hRun ⟨hSize, hElapsed, hGoal⟩

theorem Spends.mono
    (hSpends : tracker.Spends nodes ticks goal outcome)
    (hNodes : nodes ≤ moreNodes)
    (hGoal : ∀ after, goal after → weaker after) :
    tracker.Spends moreNodes ticks weaker outcome := by
  refine Barring.imp hSpends ?_ ?_
  · intro fault hShort
    exact hShort.mono hNodes (Nat.le_refl ticks)
  · rintro after - ⟨hSize, hElapsed, hAfter⟩
    exact ⟨by omega, hElapsed, hGoal after hAfter⟩

/- One move after another takes what both of them take. -/
theorem Spends.bind
    {next : Tracker → Except Fault Tracker}
    (hSpends : tracker.Spends nodes ticks goal outcome)
    (hNext :
      ∀ after, outcome = .ok after → goal after →
        after.Spends moreNodes moreTicks goal'
          (next after)) :
    tracker.Spends (nodes + moreNodes) (ticks + moreTicks)
      goal' (outcome >>= next) := by
  refine Barring.bind (Barring.imp hSpends ?_
    fun after _ hAfter => hAfter) ?_
  · intro fault hShort
    exact hShort.mono (Nat.le_add_right _ _)
      (Nat.le_add_right _ _)
  · rintro after hRun ⟨hSize, hElapsed, hAfter⟩
    refine Barring.imp (hNext after hRun hAfter) ?_ ?_
    · intro fault hShort
      exact Within.fallsShort ⟨hSize, by omega⟩ hShort
    · rintro last - ⟨hLastSize, hLastElapsed, hLast⟩
      exact ⟨by omega, by omega, hLast⟩

end Tracker

end LatticeGas
