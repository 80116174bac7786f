import LatticeGas.Proofs.Grid.Reversal
import LatticeGas.Proofs.Plane.Symmetry

/-
  This file shows that the rotations and reflections of a
  grid commute with its ticks: it does not matter whether a
  grid is turned first and then stepped, or the other way
  round.

  Key definitions include:
    * `Board.ofFn`
    * `Board.view`
    * `Grid.transform`
    * `Cell.transpose`
    * `Cell.mirror`

  Key theorems include:
    * `Board.plane_view`
    * `Grid.cellAt_transform`
    * `Grid.transform_stepMany`
-/

------------------------------------------------------------
-- Turned Boards
------------------------------------------------------------

namespace LatticeGas

namespace Board

variable {side : Nat}

/- The board with the given cell at each site. -/
def ofFn
    (cells : Nat → Nat → Cell) : Board side :=
  ⟨Vector.ofFn fun position =>
    cells (position % side) (position / side)⟩

theorem read_ofFn
    (cells : Nat → Nat → Cell)
    {x y : Nat}
    (hx : x < side)
    (hy : y < side) :
    (ofFn cells : Board side).read x y = cells x y := by
  have hSide : 0 < side := by omega
  simp only [read, ofFn, dif_pos (And.intro hx hy),
    Vector.getElem_ofFn]
  rw [Nat.mul_comm, Nat.mul_add_mod, Nat.mod_eq_of_lt hx,
    Nat.mul_add_div hSide, Nat.div_eq_of_lt hx, Nat.add_zero]

/- The board as it looks when it is rotated or reflected. -/
def view
    (symmetry : Symmetry)
    (board : Board side) : Board side :=
  ofFn fun x y => board.plane.view symmetry side x y

/- The plane around it looks so, too. -/
theorem plane_view
    (symmetry : Symmetry)
    (board : Board side) :
    (board.view symmetry).plane =
      board.plane.view symmetry side := by
  have hWalled :
      (board.plane.view symmetry side).WalledOutside
        side := by
    intro x y hOutside
    rw [Plane.view, Cell.relabel_eq_wall_iff,
      plane_eq_ofCells]
    apply Plane.walledOutside_ofCells
    rwa [symmetry.place_inside_iff]
  rw [plane_eq_ofCells, ← hWalled.ofCells_eq]
  exact Plane.ofCells_congr fun x y hx hy =>
    read_ofFn _ hx hy

end Board

end LatticeGas

------------------------------------------------------------
-- Turned Grids
------------------------------------------------------------

namespace LatticeGas

namespace Cell

/- The cell with the particles of both axes exchanged. -/
def transpose : Cell → Cell
| .wall => .wall
| .gas flow =>
    .gas
      { xNeg := flow.yNeg
        xPos := flow.yPos
        yNeg := flow.xNeg
        yPos := flow.xPos }

/- The cell with those along the first axis turned around. -/
def mirror : Cell → Cell
| .wall => .wall
| .gas flow =>
    .gas
      { xNeg := flow.xPos
        xPos := flow.xNeg
        yNeg := flow.yNeg
        yPos := flow.yPos }

theorem relabel_transposition :
    Cell.relabel .transposition = Cell.transpose := by
  funext cell
  cases cell <;> rfl

theorem relabel_mirror :
    Cell.relabel .mirror = Cell.mirror := by
  funext cell
  cases cell <;> rfl

end Cell

namespace Grid

/- Rotate or reflect a grid, with the particles on it. -/
def transform
    (symmetry : Symmetry)
    (grid : Grid) : Grid :=
  { grid with cells := grid.cells.view symmetry }

variable (symmetry : Symmetry)
variable (grid : Grid)

theorem plane_transform :
    (grid.transform symmetry).plane =
      grid.plane.view symmetry grid.side :=
  grid.cells.plane_view symmetry

/- A site shows the cell of the site it is moved to. -/
theorem cellAt_transform
    {x y u v : Nat}
    (hx : x < grid.side)
    (hy : y < grid.side)
    (hPlace :
      symmetry.place grid.side x y = ((u : Int), (v : Int))) :
    (grid.transform symmetry).cellAt x y =
      (grid.cellAt u v).map (Cell.relabel symmetry) := by
  have hInside :=
    (symmetry.place_inside_iff grid.side x y).mpr
      (by omega)
  rw [hPlace] at hInside
  rw [cellAt_eq_plane (grid.transform symmetry) hx hy,
    cellAt_eq_plane grid (by omega : u < grid.side)
      (by omega : v < grid.side), plane_transform,
    Plane.view, hPlace]
  rfl

/-
  Let a grid be transposed, with the axes of its particles,
  or mirrored, with the particles along the first axis turned
  around, or moved by any other of the eight rotations and
  reflections of a square. Doing so before some ticks or
  after them comes to the same.
-/
theorem transform_stepMany
    (ticks : Nat) :
    (∀ x y : Nat, x < grid.side → y < grid.side →
        (grid.transform .transposition).cellAt x y =
          (grid.cellAt y x).map Cell.transpose) ∧
      (∀ x y : Nat, x < grid.side → y < grid.side →
        (grid.transform .mirror).cellAt x y =
          (grid.cellAt (grid.side - 1 - x) y).map
            Cell.mirror) ∧
      ∀ symmetry : Symmetry,
        ((grid.stepMany ticks).transform symmetry).SameCells
          ((grid.transform symmetry).stepMany ticks) := by
  refine ⟨?_, ?_, ?_⟩
  · intro x y hx hy
    rw [← Cell.relabel_transposition]
    exact cellAt_transform .transposition grid hx hy rfl
  · intro x y hx hy
    rw [← Cell.relabel_mirror]
    apply cellAt_transform .mirror grid hx hy
    have hPlace :
        ((grid.side - 1 - x : Nat) : Int) =
          grid.side - 1 - x := by
      omega
    rw [hPlace]
    rfl
  · intro symmetry
    rw [sameCells_iff_plane]
    constructor
    · simp only [transform, side_stepMany]
    · rw [plane_transform, plane_stepMany, plane_stepMany,
        plane_transform, Plane.run_view, side_stepMany]

/- Three walls, and a collision at the first of the ticks. -/
def unevenRoom : Grid :=
  let rows : List (List Cell) :=
    [[.lone .xPos, .wall, .empty],
      [.empty, .headOnX, .lone .yNeg],
      [.wall, .empty, .wall]]
  have hSide : 0 < rows.length := by simp [rows]
  have hRows : ∀ row ∈ rows, row.length = rows.length := by
    simp [rows]
  Grid.ofBoard hSide (Board.ofRows rows hRows) none

/- The room is turned by a quarter, before and after. -/
theorem transform_stepMany_unevenRoom :
    (unevenRoom.transform .transposition).cellAt 1 2 =
        .ok (.lone .xNeg) ∧
      (unevenRoom.transform .mirror).cellAt 2 0 =
        .ok (.lone .xNeg) ∧
      ((unevenRoom.stepMany 5).transform
          { swaps := true, flipsX := true }).SameCells
        ((unevenRoom.transform
          { swaps := true, flipsX := true }).stepMany 5) := by
  rcases transform_stepMany unevenRoom 5 with
    ⟨hTransposition, hMirror, hSymmetry⟩
  exact ⟨(hTransposition 1 2 (by decide) (by decide)).trans rfl,
    (hMirror 2 0 (by decide) (by decide)).trans rfl,
    hSymmetry _⟩

end Grid

end LatticeGas
