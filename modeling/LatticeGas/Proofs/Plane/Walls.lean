import LatticeGas.Plane

/-
  This file shows how walls behave on the integer plane. They
  stay where they are, so a square part of the plane that has
  nothing but walls around it keeps them for ever.

  Key definitions include:
    * `Plane.WalledOutside`
    * `Plane.ofCells`

  Key theorems include:
    * `Plane.run_eq_wall_iff`
    * `Plane.WalledOutside.run`
    * `Plane.WalledOutside.ofCells_eq`
-/

------------------------------------------------------------
-- Moved Planes
------------------------------------------------------------

namespace LatticeGas

namespace Plane

@[simp] theorem shift_zero
    (plane : Plane) :
    plane.shift 0 0 = plane := by
  funext x y
  simp only [shift, Int.zero_add]

/- Moving a plane twice adds the two moves up. -/
@[simp] theorem shift_shift
    (dx dy ex ey : Int)
    (plane : Plane) :
    (plane.shift dx dy).shift ex ey =
      plane.shift (dx + ex) (dy + ey) := by
  funext x y
  simp only [shift, Int.add_assoc]

theorem run_one
    (plane : Plane) :
    run 1 plane = plane.tick :=
  rfl

end Plane

end LatticeGas

------------------------------------------------------------
-- Walls Stay
------------------------------------------------------------

namespace LatticeGas

/- After a tick a site is a wall if it was one before. -/
@[simp] theorem Cell.tick_eq_wall_iff
    (left right bottom top own : Cell) :
    Cell.tick left right bottom top own = .wall ↔
      own = .wall := by
  cases own with
  | wall => simp [Cell.tick]
  | gas flow => simp [Cell.tick]

namespace Plane

theorem tick_eq_wall_iff
    (plane : Plane)
    (x y : Int) :
    plane.tick x y = .wall ↔ plane x y = .wall :=
  Cell.tick_eq_wall_iff _ _ _ _ _

/- The walls of a plane are the same at all times. -/
theorem run_eq_wall_iff
    (ticks : Nat)
    (plane : Plane)
    (x y : Int) :
    run ticks plane x y = .wall ↔ plane x y = .wall := by
  induction ticks generalizing plane with
  | zero => rfl
  | succ ticks ih =>
      rw [run, ih, tick_eq_wall_iff]

end Plane

end LatticeGas

------------------------------------------------------------
-- Walled Squares
------------------------------------------------------------

namespace LatticeGas

namespace Plane

/- Everything outside a square at the origin is a wall. -/
def WalledOutside
    (plane : Plane)
    (side : Nat) : Prop :=
  ∀ x y : Int,
    ¬ (0 ≤ x ∧ x < side ∧ 0 ≤ y ∧ y < side) →
      plane x y = .wall

/- What is walled stays walled. -/
theorem WalledOutside.run
    {plane : Plane}
    {side : Nat}
    (hWalled : plane.WalledOutside side)
    (ticks : Nat) :
    (Plane.run ticks plane).WalledOutside side := by
  intro x y hOutside
  rw [run_eq_wall_iff]
  exact hWalled x y hOutside

/- Some cells at the origin of the plane, walls elsewhere. -/
def ofCells
    (side : Nat)
    (cells : Nat → Nat → Cell) : Plane :=
  fun x y =>
    if 0 ≤ x ∧ x < side ∧ 0 ≤ y ∧ y < side then
      cells x.toNat y.toNat
    else
      .wall

theorem ofCells_inside
    {side x y : Nat}
    (cells : Nat → Nat → Cell)
    (hx : x < side)
    (hy : y < side) :
    ofCells side cells x y = cells x y := by
  have hInside :
      (0 : Int) ≤ x ∧ (x : Int) < side ∧
        (0 : Int) ≤ y ∧ (y : Int) < side := by
    omega
  simp only [ofCells, if_pos hInside, Int.toNat_natCast]

theorem walledOutside_ofCells
    (side : Nat)
    (cells : Nat → Nat → Cell) :
    (ofCells side cells).WalledOutside side := by
  intro x y hOutside
  simp only [ofCells, if_neg hOutside]

/- A walled plane is its cells below the side. -/
theorem WalledOutside.ofCells_eq
    {plane : Plane}
    {side : Nat}
    (hWalled : plane.WalledOutside side) :
    ofCells side (fun x y => plane x y) = plane := by
  funext x y
  by_cases hInside :
      0 ≤ x ∧ x < side ∧ 0 ≤ y ∧ y < side
  · have hx : ((x.toNat : Nat) : Int) = x := by omega
    have hy : ((y.toNat : Nat) : Int) = y := by omega
    simp only [ofCells, if_pos hInside, hx, hy]
  · simp only [ofCells, if_neg hInside]
    exact (hWalled x y hInside).symm

/- The plane shows only the cells below the side. -/
theorem ofCells_congr
    {side : Nat}
    {left right : Nat → Nat → Cell}
    (hCells :
      ∀ x y, x < side → y < side →
        left x y = right x y) :
    ofCells side left = ofCells side right := by
  funext x y
  by_cases hInside :
      0 ≤ x ∧ x < side ∧ 0 ≤ y ∧ y < side
  · simp only [ofCells, if_pos hInside]
    exact hCells x.toNat y.toNat (by omega) (by omega)
  · simp only [ofCells, if_neg hInside]

end Plane

end LatticeGas
