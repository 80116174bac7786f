import LatticeGas.Grid.Basic

/-
  This file defines the ticks of a grid. In each tick every
  row has one task, and the tasks run in some order.

  Key definitions include:
    * `Grid.rowsOfWorker`
    * `Grid.schedule`
    * `Grid.stepInOrder`
    * `Grid.step`
    * `Grid.stepMany`
    * `Grid.stepCounted`
-/

------------------------------------------------------------
-- Schedules
------------------------------------------------------------

namespace LatticeGas

namespace Grid

/- The rows that are dealt to one of several workers. -/
def rowsOfWorker
    (side workers worker : Nat) : List Nat :=
  (List.range side).filter fun y => y % workers = worker

/-
  An order of the row tasks: row after row without workers,
  and worker after worker with them. There is at least one
  worker, and more workers than rows are of no use.
-/
def schedule (grid : Grid) : List Nat :=
  match grid.workers with
  | none => List.range grid.side
  | some workers =>
      let hands := max 1 (min workers grid.side)
      (List.range hands).flatMap
        (rowsOfWorker grid.side hands)

end Grid

end LatticeGas

------------------------------------------------------------
-- Ticks
------------------------------------------------------------

namespace LatticeGas

namespace Grid

/-
  One tick: the row tasks write the second board in the given
  order, and then the two boards change places.
-/
def stepInOrder
    (order : List Nat)
    (grid : Grid) : Grid :=
  match grid with
  | ⟨side, side_pos, timestep, cells, scratch, workers⟩ =>
      { side := side
        side_pos := side_pos
        timestep := timestep + 1
        cells := cells.stepRows order scratch
        scratch := cells
        workers := workers }

/- One tick in the order of the grid's own schedule. -/
def step (grid : Grid) : Grid :=
  grid.stepInOrder grid.schedule

/- The given number of ticks. -/
def stepMany : Nat → Grid → Grid
| 0, grid => grid
| ticks + 1, grid => stepMany ticks grid.step

/- The given number of ticks, as long as they are counted. -/
def stepCounted
    (ticks : Nat)
    (grid : Grid) : Except Fault Grid := do
  let _ ← addCount grid.timestep ticks
  return grid.stepMany ticks

@[simp] theorem side_stepInOrder
    (order : List Nat)
    (grid : Grid) :
    (grid.stepInOrder order).side = grid.side :=
  rfl

@[simp] theorem timestep_stepInOrder
    (order : List Nat)
    (grid : Grid) :
    (grid.stepInOrder order).timestep =
      grid.timestep + 1 :=
  rfl

end Grid

end LatticeGas
