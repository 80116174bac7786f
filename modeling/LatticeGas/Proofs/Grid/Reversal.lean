import LatticeGas.Proofs.Grid.Ticks
import LatticeGas.Proofs.Plane.Reversal

/-
  This file shows that a grid can be run backwards. Turning
  all particles around, as many ticks as have passed lead
  back to the cells from the start, so no two grids become
  the same in a tick.

  Key definitions include:
    * `Grid.SameCells`
    * `Grid.turn`

  Key theorems include:
    * `Grid.sameCells_iff_plane`
    * `Grid.turn_stepMany_turn_stepMany`
-/

------------------------------------------------------------
-- Grids with the Same Cells
------------------------------------------------------------

namespace LatticeGas

namespace Grid

/-
  Both grids have the same side, and whatever is read from
  one of them is read from the other one.
-/
def SameCells (left right : Grid) : Prop :=
  left.side = right.side ∧
    ∀ x y : Nat, left.cellAt x y = right.cellAt x y

/- Equal cells are equal parts of the plane. -/
theorem sameCells_iff_plane
    (left right : Grid) :
    left.SameCells right ↔
      left.side = right.side ∧ left.plane = right.plane := by
  constructor
  · intro hSame
    rcases hSame with ⟨hSide, hCells⟩
    have hRead :
        ∀ x y : Nat,
          x < left.side → y < left.side →
            left.cells.read x y = right.cells.read x y := by
      intro x y hx hy
      have hLeft : left.Inside x y := ⟨hx, hy⟩
      have hRight : right.Inside x y := by
        rwa [Inside, ← hSide]
      have hCell := hCells x y
      rw [cellAt, cellAt, if_pos hLeft, if_pos hRight]
        at hCell
      exact Except.ok.inj hCell
    refine ⟨hSide, ?_⟩
    unfold plane
    rw [Board.plane_eq_ofCells, Board.plane_eq_ofCells]
    calc Plane.ofCells left.side left.cells.read
        = Plane.ofCells left.side right.cells.read :=
          Plane.ofCells_congr hRead
      _ = Plane.ofCells right.side right.cells.read := by
          rw [hSide]
  · intro hPlanes
    rcases hPlanes with ⟨hSide, hPlane⟩
    refine ⟨hSide, ?_⟩
    intro x y
    by_cases hInside : left.Inside x y
    · rw [cellAt_eq_plane left hInside.1 hInside.2, hPlane]
      rw [Inside, hSide] at hInside
      rw [cellAt_eq_plane right hInside.1 hInside.2]
    · have hOutside : ¬ right.Inside x y := by
        rwa [Inside, ← hSide]
      rw [cellAt, cellAt, if_neg hInside, if_neg hOutside,
        hSide]

end Grid

end LatticeGas

------------------------------------------------------------
-- Turning Particles Around
------------------------------------------------------------

namespace LatticeGas

namespace Board

variable {side : Nat}

/- Change every cell of a board in the same way. -/
def map
    (change : Cell → Cell)
    (board : Board side) : Board side :=
  ⟨board.cells.map change⟩

theorem read_map
    {change : Cell → Cell}
    (hWall : change .wall = .wall)
    (board : Board side)
    (x y : Nat) :
    (board.map change).read x y =
      change (board.read x y) := by
  by_cases hInside : x < side ∧ y < side
  · simp only [read, map, dif_pos hInside,
      Vector.getElem_map]
  · rw [read_outside _ hInside, read_outside _ hInside,
      hWall]

/- Turning a board turns the plane around it. -/
theorem plane_map_turn
    (board : Board side) :
    (board.map Cell.turn).plane = board.plane.turn := by
  funext x y
  unfold plane Plane.turn
  by_cases hCorner : 0 ≤ x ∧ 0 ≤ y
  · simp only [if_pos hCorner]
    exact read_map rfl board _ _
  · simp only [if_neg hCorner]
    rfl

end Board

namespace Grid

/- Turn the particles of all sites of a grid around. -/
def turn (grid : Grid) : Grid :=
  { grid with cells := grid.cells.map Cell.turn }

@[simp] theorem side_turn
    (grid : Grid) :
    grid.turn.side = grid.side :=
  rfl

theorem plane_turn
    (grid : Grid) :
    grid.turn.plane = grid.plane.turn :=
  grid.cells.plane_map_turn

end Grid

end LatticeGas

------------------------------------------------------------
-- Running Backwards
------------------------------------------------------------

namespace LatticeGas

namespace Grid

/- Grids with the same cells have them after each tick. -/
theorem SameCells.step
    {left right : Grid}
    (hSame : left.SameCells right) :
    left.step.SameCells right.step := by
  rw [sameCells_iff_plane] at hSame ⊢
  rw [plane_step, plane_step, hSame.2]
  exact ⟨hSame.1, rfl⟩

/- What the cells were is known from what they become. -/
theorem SameCells.of_step
    {left right : Grid}
    (hSame : left.step.SameCells right.step) :
    left.SameCells right := by
  rw [sameCells_iff_plane, plane_step, plane_step] at hSame
  rw [sameCells_iff_plane]
  refine ⟨hSame.1, ?_⟩
  have hRecoil :
      left.plane.recoil = right.plane.recoil :=
    congrArg Plane.turn hSame.2
  rw [← Plane.recoil_recoil left.plane, hRecoil,
    Plane.recoil_recoil]

/-
  After any number of ticks, turning all particles around and
  letting as many ticks pass again, and turning them around
  once more, the grid has the cells that it had at first. Two
  grids have the same cells after a tick only if they had the
  same cells before it.
-/
theorem turn_stepMany_turn_stepMany
    (grid : Grid)
    (ticks : Nat) :
    ((grid.stepMany ticks).turn.stepMany
        ticks).turn.SameCells grid ∧
      ∀ other : Grid,
        grid.step.SameCells other.step ↔
          grid.SameCells other := by
  constructor
  · rw [sameCells_iff_plane]
    constructor
    · simp only [side_turn, side_stepMany]
    · rw [plane_turn, plane_stepMany, plane_turn,
        plane_stepMany, Plane.run_turn_run,
        Plane.turn_turn]
  · intro other
    exact ⟨SameCells.of_step, SameCells.step⟩

end Grid

end LatticeGas
