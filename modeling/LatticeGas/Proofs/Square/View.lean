import LatticeGas.Proofs.Plane.Walls
import LatticeGas.Square

/-
  This file defines the square that is seen at the origin of
  a plane. A square shows the cells of a plane exactly if it
  is the one that is seen there, so what is to be said about
  single cells can be said by equations between squares.

  Key definitions include:
    * `Square.ofPlane`
    * `Square.quadAt`
    * `Square.plane`

  Key theorems include:
    * `Square.cellAt_ofPlane`
    * `Square.agreesWith_iff`
    * `Square.eq_of_cellAt_eq`
    * `Square.ofPlane_of_walls`
    * `Square.ofPlane_of_beyond`
-/

------------------------------------------------------------
-- Squares Seen in a Plane
------------------------------------------------------------

namespace LatticeGas

namespace Square

/- The square of a level that is seen at the origin. -/
def ofPlane : (level : Nat) → Plane → Square level
| 0, plane => .leaf (plane 0 0)
| level + 1, plane =>
    let side : Int := sideOfLevel level
    .node
      (ofPlane level plane)
      (ofPlane level (plane.shift side 0))
      (ofPlane level (plane.shift 0 side))
      (ofPlane level (plane.shift side side))

/- The square of a single site has the cell of the plane. -/
theorem ofPlane_site
    (plane : Plane)
    (x y : Int) :
    ofPlane 0 (plane.shift x y) = .leaf (plane x y) := by
  simp only [ofPlane, Plane.shift, Int.add_zero]

/- Its quadrants are seen half a side apart. -/
theorem quadrants_ofPlane
    (level : Nat)
    (plane : Plane) :
    (ofPlane (level + 1) plane).quadrants =
      { sw := ofPlane level plane
        se := ofPlane level
          (plane.shift (sideOfLevel level) 0)
        nw := ofPlane level
          (plane.shift 0 (sideOfLevel level))
        ne := ofPlane level
          (plane.shift (sideOfLevel level)
            (sideOfLevel level)) } :=
  rfl

/- The quadrants of the square that is seen at a point. -/
def quadAt
    (level : Nat)
    (plane : Plane)
    (x y : Nat) : Quad (Square level) :=
  let half := sideOfLevel level
  let seen := fun x y : Nat =>
    ofPlane level (plane.shift x y)
  { sw := seen x y
    se := seen (x + half) y
    nw := seen x (y + half)
    ne := seen (x + half) (y + half) }

theorem ofQuad_quadAt
    (level : Nat)
    (plane : Plane)
    (x y : Nat) :
    ofQuad (quadAt level plane x y) =
      ofPlane (level + 1) (plane.shift x y) := by
  simp only [quadAt, ofPlane, ofQuad, Plane.shift_shift,
    Int.natCast_add, Int.add_zero]

/- The quadrant in the given halves of the two axes. -/
theorem quadrant_ofPlane
    (level : Nat)
    (plane : Plane)
    (east north : Bool) :
    (ofPlane (level + 1) plane).quadrants.quadrant
        east north =
      ofPlane level
        (plane.shift
          (if east then sideOfLevel level else 0)
          (if north then sideOfLevel level else 0)) := by
  cases east <;> cases north <;>
    simp [quadrants_ofPlane, Quad.quadrant]

/- A square that is seen in a plane has its cells. -/
theorem cellAt_ofPlane
    {level : Nat}
    (plane : Plane)
    {x y : Nat}
    (hx : x < sideOfLevel level)
    (hy : y < sideOfLevel level) :
    (ofPlane level plane).cellAt x y = plane x y := by
  induction level generalizing plane x y with
  | zero =>
      rw [sideOfLevel_zero] at hx hy
      have hx : x = 0 := by omega
      have hy : y = 0 := by omega
      subst hx hy
      rfl
  | succ level ih =>
      rw [sideOfLevel_succ] at hx hy
      simp only [cellAt, quadrant_ofPlane,
        decide_eq_true_eq]
      rw [ih _ (by split <;> omega) (by split <;> omega)]
      simp only [Plane.shift]
      congr 1
      · by_cases hEast : sideOfLevel level ≤ x
        · simp only [if_pos hEast]
          omega
        · simp only [if_neg hEast, Int.zero_add]
      · by_cases hNorth : sideOfLevel level ≤ y
        · simp only [if_pos hNorth]
          omega
        · simp only [if_neg hNorth, Int.zero_add]

end Square

end LatticeGas

------------------------------------------------------------
-- Squares and Their Cells
------------------------------------------------------------

namespace LatticeGas

namespace Square

/- A quadrant shows its part of what the square shows. -/
theorem AgreesWith.quadrant
    {level : Nat}
    {square : Square (level + 1)}
    {plane : Plane}
    (hAgrees : square.AgreesWith plane)
    (east north : Bool) :
    (square.quadrants.quadrant east north).AgreesWith
      (plane.shift
        (if east then sideOfLevel level else 0)
        (if north then sideOfLevel level else 0)) := by
  intro x y hx hy
  have hCell := hAgrees
    (x + if east then sideOfLevel level else 0)
    (y + if north then sideOfLevel level else 0)
    (by rw [sideOfLevel_succ]; split <;> omega)
    (by rw [sideOfLevel_succ]; split <;> omega)
  have hNotX : ¬ sideOfLevel level ≤ x := by omega
  have hNotY : ¬ sideOfLevel level ≤ y := by omega
  have hEast := Int.add_comm x (sideOfLevel level)
  have hNorth := Int.add_comm y (sideOfLevel level)
  cases east <;> cases north <;>
    simpa [cellAt, Plane.shift, hNotX, hNotY, hEast,
      hNorth] using hCell

/-
  A square shows the cells of a plane if and only if it is
  the square that is seen there.
-/
theorem agreesWith_iff
    {level : Nat}
    (square : Square level)
    (plane : Plane) :
    square.AgreesWith plane ↔
      square = ofPlane level plane := by
  constructor
  · intro hAgrees
    induction level generalizing plane with
    | zero =>
        rcases square with ⟨cell⟩
        have hCell : cell = plane 0 0 :=
          hAgrees 0 0 (sideOfLevel_pos 0)
            (sideOfLevel_pos 0)
        rw [hCell]
        rfl
    | succ level ih =>
        have hSw := ih _ _ (hAgrees.quadrant false false)
        have hSe := ih _ _ (hAgrees.quadrant true false)
        have hNw := ih _ _ (hAgrees.quadrant false true)
        have hNe := ih _ _ (hAgrees.quadrant true true)
        rcases square with _ | ⟨sw, se, nw, ne⟩
        simp [quadrants, Quad.quadrant]
          at hSw hSe hNw hNe
        rw [hSw, hSe, hNw, hNe]
        rfl
  · rintro rfl x y hx hy
    exact cellAt_ofPlane plane hx hy

/- The cells of a square, put at the origin of a plane. -/
def plane
    {level : Nat}
    (square : Square level) : Plane :=
  Plane.ofCells (sideOfLevel level) square.cellAt

theorem agreesWith_plane
    {level : Nat}
    (square : Square level) :
    square.AgreesWith square.plane :=
  fun _ _ hx hy => (Plane.ofCells_inside _ hx hy).symm

/- A square is determined by its cells. -/
theorem eq_of_cellAt_eq
    {level : Nat}
    {left right : Square level}
    (hCells :
      ∀ x y : Nat,
        x < sideOfLevel level → y < sideOfLevel level →
          left.cellAt x y = right.cellAt x y) :
    left = right := by
  have hLeft : left.AgreesWith right.plane := by
    intro x y hx hy
    rw [hCells x y hx hy]
    exact right.agreesWith_plane x y hx hy
  rw [(left.agreesWith_iff right.plane).mp hLeft]
  exact ((right.agreesWith_iff right.plane).mp
    right.agreesWith_plane).symm

end Square

end LatticeGas

------------------------------------------------------------
-- Squares of Walls
------------------------------------------------------------

namespace LatticeGas

namespace Square

/- Where a plane has walls only, a square of walls is seen. -/
theorem ofPlane_of_walls
    {level : Nat}
    {plane : Plane}
    (hWalls :
      ∀ x y : Nat,
        x < sideOfLevel level → y < sideOfLevel level →
          plane x y = .wall) :
    ofPlane level plane = uniform .wall level := by
  symm
  rw [← agreesWith_iff]
  intro x y hx hy
  rw [cellAt_uniform, hWalls x y hx hy]

/-
  Around a walled part of the plane walls are seen, on either
  side of it along either axis.
-/
theorem ofPlane_of_beyond
    {plane : Plane}
    {side : Nat}
    (hWalled : plane.WalledOutside side)
    (level : Nat)
    {dx dy : Int}
    (hBeyond :
      side ≤ dx ∨ side ≤ dy ∨
        dx + sideOfLevel level ≤ 0 ∨
          dy + sideOfLevel level ≤ 0) :
    ofPlane level (plane.shift dx dy) =
      uniform .wall level := by
  apply ofPlane_of_walls
  intro x y hx hy
  apply hWalled
  omega

end Square

end LatticeGas
