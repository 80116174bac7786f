import LatticeGas.Proofs.Square.View

/-
  This file shows that the macro step of a square is right in
  every surrounding. In as many ticks as a quarter of the
  side, nothing from outside the square gets to its middle,
  so the macro step foretells the middle of every plane in
  which the square is seen.

  Key definitions include:
    * `Plane.leap`
    * `Square.tile`

  Key theorems include:
    * `Square.advance_ofPlane`
    * `Square.AgreesWith.advance`
-/

------------------------------------------------------------
-- Leaps of a Plane
------------------------------------------------------------

namespace LatticeGas

namespace Plane

/-
  Let some ticks pass and move along both axes by as many
  sites. The part of the origin that is known after the ticks
  then starts at the origin again.
-/
def leap
    (ticks : Nat)
    (plane : Plane) : Plane :=
  (run ticks plane).shift ticks ticks

/- Two leaps make one that is as long as both. -/
theorem leap_leap
    (first second : Nat)
    (plane : Plane) :
    leap second (leap first plane) =
      leap (first + second) plane := by
  unfold leap
  rw [run_shift, ← run_add, shift_shift,
    Int.natCast_add]

theorem leap_shift
    (ticks : Nat)
    (x y : Int)
    (plane : Plane) :
    leap ticks (plane.shift x y) =
      (leap ticks plane).shift x y := by
  unfold leap
  rw [run_shift, shift_shift, shift_shift,
    Int.add_comm x, Int.add_comm y]

end Plane

end LatticeGas

------------------------------------------------------------
-- Tiles
------------------------------------------------------------

namespace LatticeGas

namespace Square

/-
  The square in the given column and row, if a plane is laid
  out with squares of a level from its origin on.
-/
def tile
    (level : Nat)
    (plane : Plane)
    (column row : Nat) : Square level :=
  ofPlane level
    (plane.shift (column * sideOfLevel level)
      (row * sideOfLevel level))

/- A window is made up of four adjacent tiles. -/
def window
    (level : Nat)
    (plane : Plane)
    (column row : Nat) : Quad (Square level) :=
  { sw := tile level plane column row
    se := tile level plane (column + 1) row
    nw := tile level plane column (row + 1)
    ne := tile level plane (column + 1) (row + 1) }

theorem succ_mul_side
    (level column : Nat) :
    ((column + 1 : Nat) : Int) * sideOfLevel level =
      column * sideOfLevel level + sideOfLevel level := by
  rw [Int.natCast_add, Int.add_mul, Int.natCast_one,
    Int.one_mul]

/- The square of a window is seen where its first tile is. -/
theorem ofQuad_window
    (level : Nat)
    (plane : Plane)
    (column row : Nat) :
    ofQuad (window level plane column row) =
      ofPlane (level + 1)
        (plane.shift (column * sideOfLevel level)
          (row * sideOfLevel level)) := by
  simp only [window, tile, ofQuad, ofPlane,
    Plane.shift_shift, succ_mul_side, Int.add_zero]

/- The window at the origin is the square that is seen. -/
theorem ofQuad_window_zero
    (level : Nat)
    (plane : Plane) :
    ofQuad (window level plane 0 0) =
      ofPlane (level + 1) plane := by
  rw [ofQuad_window]
  simp

/- The quadrants of a seen square are tiles. -/
theorem quadrants_ofPlane_eq_window
    (level : Nat)
    (plane : Plane) :
    (ofPlane (level + 1) plane).quadrants =
      window level plane 0 0 := by
  rw [← ofQuad_window_zero, quadrants_ofQuad]

/- The quadrants of a larger tile are smaller tiles. -/
theorem quadrants_tile
    (level : Nat)
    (plane : Plane)
    (column row : Nat) :
    (tile (level + 1) plane column row).quadrants =
      window level plane (2 * column) (2 * row) := by
  have hDouble :
      ∀ count : Nat,
        (count : Int) * sideOfLevel (level + 1) =
          (2 * count : Nat) * sideOfLevel level := by
    intro count
    rw [sideOfLevel_succ, Int.natCast_add, Int.mul_add,
      Nat.two_mul, Int.natCast_add, Int.add_mul]
  rw [tile, hDouble, hDouble, ← ofQuad_window,
    quadrants_ofQuad]

/- The sixteen smaller tiles of a seen square. -/
theorem map_quadrants_ofPlane
    (level : Nat)
    (plane : Plane) :
    (ofPlane (level + 2) plane).quadrants.map quadrants =
      { sw := window level plane 0 0
        se := window level plane 2 0
        nw := window level plane 0 2
        ne := window level plane 2 2 } := by
  rw [quadrants_ofPlane_eq_window]
  simp only [Quad.map, window, quadrants_tile]

end Square

end LatticeGas

------------------------------------------------------------
-- The Macro Step in a Plane
------------------------------------------------------------

namespace LatticeGas

namespace Square

/- A block of sixteen cells knows its middle after a tick. -/
theorem advance_ofPlane_zero
    (plane : Plane) :
    (ofPlane 2 plane).advance =
      ofPlane 1 (plane.leap 1) := by
  have hOne : (sideOfLevel 0 : Int) = 1 := rfl
  have hTwo : (sideOfLevel 1 : Int) = 2 := rfl
  simp only [advance, block, Quad.map, Quad.tickCentre,
    ofPlane, value, hOne, hTwo, ofQuad, Plane.leap,
    Plane.run_one, Plane.shift, Plane.tick]
  rfl

/-
  If the macro step of one level foretells every plane, then
  it turns the windows of a plane into tiles of the leap of
  that plane.
-/
theorem advance_window
    {level : Nat}
    (hStep :
      ∀ plane : Plane,
        (ofPlane (level + 2) plane).advance =
          ofPlane (level + 1)
            (plane.leap (sideOfLevel level)))
    (plane : Plane)
    (column row : Nat) :
    (ofQuad (window (level + 1) plane column
        row)).advance =
      tile (level + 1) (plane.leap (sideOfLevel level))
        column row := by
  rw [ofQuad_window, hStep, Plane.leap_shift, tile]

/-
  The macro step foretells every plane. The nine windows of
  the first half become tiles of a leap, and the four windows
  of those tiles become tiles of a second leap.
-/
theorem advance_ofPlane
    (level : Nat)
    (plane : Plane) :
    (ofPlane (level + 2) plane).advance =
      ofPlane (level + 1)
        (plane.leap (sideOfLevel level)) := by
  induction level generalizing plane with
  | zero => exact advance_ofPlane_zero plane
  | succ level ih =>
      let half := plane.leap (sideOfLevel level)
      let whole := half.leap (sideOfLevel level)
      let stepHalf := fun column row =>
        (ofQuad (window (level + 1) half column
          row)).advance
      have hFirst := advance_window ih plane
      have hSecond := advance_window ih half
      have hNine :
          (ofPlane (level + 3) plane).advance =
            .node (stepHalf 0 0) (stepHalf 1 0)
              (stepHalf 0 1) (stepHalf 1 1) := by
        simp only [advance, map_quadrants_ofPlane]
        simp only [window, Quad.acrossX, Quad.acrossY,
          Quad.centre] at hFirst ⊢
        simp only [hFirst]
        rfl
      have hWhole :
          plane.leap (sideOfLevel (level + 1)) = whole := by
        rw [sideOfLevel_succ, ← Plane.leap_leap]
      calc
        (ofPlane (level + 3) plane).advance
          = .node (stepHalf 0 0) (stepHalf 1 0)
              (stepHalf 0 1) (stepHalf 1 1) := hNine
        _ = ofQuad (window (level + 1) whole 0 0) := by
            simp only [stepHalf, hSecond]
            rfl
        _ = ofPlane (level + 2)
              (plane.leap (sideOfLevel (level + 1))) := by
            rw [ofQuad_window_zero, hWhole]

/-
  The macro step of a square shows, in every plane that shows
  the square, the middle as it is after the ticks.
-/
theorem AgreesWith.advance
    {level : Nat}
    {square : Square (level + 2)}
    {plane : Plane}
    (hAgrees : square.AgreesWith plane) :
    square.advance.AgreesWith
      (plane.leap (sideOfLevel level)) := by
  rw [agreesWith_iff] at hAgrees ⊢
  rw [hAgrees, advance_ofPlane]

end Square

end LatticeGas
