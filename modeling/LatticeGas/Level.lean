/-
  This file defines the levels of quad-trees: the side of a
  square of a level, and the deepest level there is.

  Key definitions include:
    * `sideOfLevel`
    * `maxLevel`
-/

------------------------------------------------------------
-- Levels
------------------------------------------------------------

namespace LatticeGas

/-
  The side of a square of a level, in cells. It doubles from
  each level to the next, from a single cell on.
-/
def sideOfLevel (level : Nat) : Nat :=
  Nat.pow 2 level

/- Deepest level that a quad-tree may have. -/
def maxLevel : Nat :=
  40

@[simp] theorem sideOfLevel_zero :
    sideOfLevel 0 = 1 :=
  rfl

theorem sideOfLevel_succ
    (level : Nat) :
    sideOfLevel (level + 1) =
      sideOfLevel level + sideOfLevel level :=
  Nat.mul_two (sideOfLevel level)

theorem sideOfLevel_pos
    (level : Nat) :
    0 < sideOfLevel level := by
  induction level with
  | zero => exact Nat.one_pos
  | succ level ih =>
      rw [sideOfLevel_succ]
      omega

end LatticeGas
