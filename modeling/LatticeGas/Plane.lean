import LatticeGas.Rule

/-
  This file defines the gas on the whole integer plane, where
  every site changes at once. It is the meaning of a tick
  that does not depend on how cells are stored.

  Key definitions include:
    * `Plane`
    * `Plane.tick`
    * `Plane.run`
    * `Plane.shift`
-/

------------------------------------------------------------
-- Planes
------------------------------------------------------------

namespace LatticeGas

/- A cell at every point of the integer plane. -/
abbrev Plane :=
  Int → Int → Cell

namespace Plane

/- Every site changes at once by the rule of one tick. -/
def tick (plane : Plane) : Plane :=
  fun x y =>
    Cell.tick
      (plane (x - 1) y)
      (plane (x + 1) y)
      (plane x (y - 1))
      (plane x (y + 1))
      (plane x y)

/- The plane after the given number of ticks. -/
def run : Nat → Plane → Plane
| 0, plane => plane
| ticks + 1, plane => run ticks plane.tick

@[simp] theorem run_zero
    (plane : Plane) :
    run 0 plane = plane :=
  rfl

theorem run_add
    (first second : Nat)
    (plane : Plane) :
    run (first + second) plane =
      run second (run first plane) := by
  induction first generalizing plane with
  | zero => simp
  | succ first ih =>
      have hSum :
          first + 1 + second = first + second + 1 := by
        omega
      rw [hSum, run, run, ih]

/- The plane seen from the point `(dx, dy)`. -/
def shift
    (dx dy : Int)
    (plane : Plane) : Plane :=
  fun x y => plane (dx + x) (dy + y)

/- The rule is the same at every point. -/
theorem tick_shift
    (dx dy : Int)
    (plane : Plane) :
    (plane.shift dx dy).tick = plane.tick.shift dx dy := by
  funext x y
  simp only [tick, shift, Int.add_sub_assoc, Int.add_assoc]

theorem run_shift
    (ticks : Nat)
    (dx dy : Int)
    (plane : Plane) :
    run ticks (plane.shift dx dy) =
      (run ticks plane).shift dx dy := by
  induction ticks generalizing plane with
  | zero => rfl
  | succ ticks ih =>
      rw [run, run, tick_shift, ih]

end Plane

end LatticeGas
