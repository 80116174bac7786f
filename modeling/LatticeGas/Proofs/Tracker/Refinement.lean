import LatticeGas.Proofs.Grid.Ticks
import LatticeGas.Proofs.Tracker.Capacity
import LatticeGas.Proofs.Tracker.Progression

/-
  This file shows that a tracker shows the same cells as a
  grid that is stepped tick by tick, whatever is done with
  the tracker and however it is configured.

  Key theorems include:
    * `Grid.plane_eq_plane_of_cells`
    * `Tracker.follows_grid_of_build_eq_ok`
    * `Tracker.cellAt_eq_stepMany`
-/

------------------------------------------------------------
-- Grids and Lattices
------------------------------------------------------------

namespace LatticeGas

variable {L : Type}
variable [Lattice L]

namespace Grid

variable {lattice : L}
variable {grid : Grid}

/- A lattice with the cells of a grid is readable. -/
theorem readable_of_cells
    (hSide : grid.side = Lattice.side lattice)
    (hCells :
      ∀ x y : Nat,
        x < grid.side → y < grid.side →
          Lattice.cellAt lattice x y = grid.cellAt x y) :
    Lattice.Readable lattice := by
  intro x y hx hy
  rw [← hSide] at hx hy
  refine ⟨grid.plane x y, ?_⟩
  rw [hCells x y hx hy, cellAt_eq_plane grid hx hy]

/- It is the same part of the plane as the grid. -/
theorem plane_eq_plane_of_cells
    (hSide : grid.side = Lattice.side lattice)
    (hCells :
      ∀ x y : Nat,
        x < grid.side → y < grid.side →
          Lattice.cellAt lattice x y = grid.cellAt x y) :
    Lattice.plane lattice = grid.plane := by
  unfold Lattice.plane Grid.plane
  rw [Board.plane_eq_ofCells, ← hSide]
  apply Plane.ofCells_congr
  intro x y hx hy
  have hInside : grid.Inside x y := ⟨hx, hy⟩
  have hCell := hCells x y hx hy
  rw [cellAt, if_pos hInside] at hCell
  simp only [Lattice.cellOrWall, hCell]

end Grid

end LatticeGas

------------------------------------------------------------
-- Trackers and Grids
------------------------------------------------------------

namespace LatticeGas

namespace Tracker

variable {L : Type}
variable [Lattice L]

/-
  A tracker of a grid has the seed level, and follows the gas
  from the start.
-/
theorem follows_grid_of_build_eq_ok
    {grid : Grid}
    {config : Config}
    {built : Tracker}
    (hBuild : build grid config = .ok built) :
    grid.plane.SeededAt grid.side (seedLevel grid.side) ∧
      built.level = .ok (seedLevel grid.side) ∧
        built.Follows grid.plane grid.side
          (seedLevel grid.side) 0 := by
  have hPlane : Lattice.plane grid = grid.plane :=
    Grid.plane_eq_plane_of_cells rfl fun _ _ _ _ => rfl
  rcases shows_of_build_eq_ok hBuild (Nat.le_refl _) with
    ⟨hShows, -⟩
  rcases follows_of_build_eq_ok hBuild with
    ⟨hSeeded, hFollows⟩
  rw [hPlane] at hSeeded hFollows
  exact ⟨hSeeded, hShows.level_eq, hFollows⟩

/-
  A tracker is built from every lattice that is not too large,
  unless it takes more nodes than there are numbers, and goes
  through every run, barring a shortage of numbers. After the
  run it shows the cells of the grid with the same cells after
  as many single ticks as have passed for the tracker.
-/
theorem cellAt_eq_stepMany
    {lattice : L}
    {grid : Grid}
    (hSide : grid.side = Lattice.side lattice)
    (hCells :
      ∀ x y : Nat,
        x < grid.side → y < grid.side →
          Lattice.cellAt lattice x y = grid.cellAt x y)
    (hSize : grid.side ≤ 2 ^ 36)
    (config : Config)
    (ops : List Op) :
    Overfull lattice config ∧
        build lattice config = .error (.broken .exhausted) ∨
      ∃ built,
        build lattice config = .ok built ∧
          Barring (built.RunsShort (Lattice.side lattice) ops)
            (fun reached =>
              ∀ x y : Nat,
                x < grid.side → y < grid.side →
                  ∃ cell,
                    reached.cellAt x y = .ok cell ∧
                      (grid.stepMany
                          reached.elapsed).cellAt x y =
                        .ok cell)
            (Op.run ops built) := by
  have hReadable := Grid.readable_of_cells hSide hCells
  have hPlane := Grid.plane_eq_plane_of_cells hSide hCells
  have hPos := grid.side_pos
  rw [hSide] at hPos hSize
  refine (build_cases_of_overfull config hReadable hPos
    (seedLevel_le_maxSeedLevel hSize)).imp_right ?_
  rintro ⟨-, built, hBuild⟩
  refine ⟨built, hBuild,
    (barring_run_of_build_eq_ok hBuild ops).mono ?_⟩
  rintro reached ⟨done, hFollows⟩ x y hx hy
  rcases hFollows.exists_shows with ⟨frame, hShows⟩
  refine ⟨Plane.run reached.elapsed grid.plane x y, ?_, ?_⟩
  · rw [hSide] at hx hy
    rw [hShows.cellAt_eq hx hy, hPlane]
  · exact grid.cellAt_stepMany reached.elapsed hx hy

/- Particles that all move along the first axis at first. -/
theorem cellAt_eq_stepMany_lone :
    ∃ built reached,
      build (⟨3, Cell.lone .xPos⟩ : Uniform) {} =
          .ok built ∧
        Op.run [.advance, .compact, .advanceAtLeast 5]
            built = .ok reached ∧
          ∀ x y : Nat,
            x < 3 → y < 3 →
              ∃ cell,
                reached.cellAt x y = .ok cell ∧
                  ((Grid.ofBoard (Nat.succ_pos 2)
                    (Board.uniform (Cell.lone .xPos))
                    none).stepMany reached.elapsed).cellAt
                      x y = .ok cell := by
  let grid : Grid :=
    Grid.ofBoard (Nat.succ_pos 2)
      (Board.uniform (Cell.lone .xPos)) none
  have hCells :
      ∀ x y : Nat,
        x < grid.side → y < grid.side →
          Lattice.cellAt
              (⟨3, Cell.lone .xPos⟩ : Uniform) x y =
            grid.cellAt x y := by
    intro x y hx hy
    have hInside : grid.Inside x y := ⟨hx, hy⟩
    rw [Grid.cellAt, if_pos hInside]
    have hCell := Board.read_uniform (Cell.lone .xPos) hInside
    exact (congrArg Except.ok hCell).symm
  have hSize : grid.side ≤ 2 ^ 36 := by decide
  have hReadable :=
    Lattice.readable_uniform ⟨3, Cell.lone .xPos⟩
  rcases exists_built_run {} hReadable (by decide) rfl
      (by decide) [.advance, .compact, .advanceAtLeast 5]
      (by decide) (by decide) with
    ⟨built, -, reached, hBuild, -, hRun, -⟩
  rcases cellAt_eq_stepMany rfl hCells hSize {}
      [.advance, .compact, .advanceAtLeast 5] with
    ⟨-, hFailed⟩ | ⟨found, hFound, hCellsAfter⟩
  · cases hFailed.symm.trans hBuild
  · cases hBuild.symm.trans hFound
    exact ⟨built, reached, hBuild, hRun,
      hCellsAfter.of_ok hRun⟩

end Tracker

end LatticeGas
