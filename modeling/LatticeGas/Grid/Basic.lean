import LatticeGas.Board
import LatticeGas.Lattice

/-
  This file defines the grid that is stepped one tick at a
  time, how it is configured and made, and its single cells.

  Key definitions include:
    * `Machine`
    * `Machine.sequential`
    * `Grid.Config`
    * `Grid.Config.withThreads`
    * `Grid.Config.withParallelSide`
    * `Grid.Config.workers`
    * `Grid`
    * `Grid.ofBoard`
    * `Grid.prepare`
    * `Grid.make`
    * `Grid.new`
    * `Grid.ofRows`
    * `Grid.cellAt`
    * `Grid.set`
    * `Grid.plane`
-/

------------------------------------------------------------
-- Configuration
------------------------------------------------------------

namespace LatticeGas

/-
  What a grid needs of the machine that it is stepped on: the
  number of cores, and whether the given number of workers is
  started. If it is not, then for some reason.
-/
structure Machine where
  cores : Nat
  start : Nat → Except String Unit

/-
  A machine with one core on which any number of workers is
  started. They take turns.
-/
def Machine.sequential : Machine :=
  { cores := 1
    start := fun _ => .ok () }

/-
  How the rows of a grid are shared out. Grids with a shorter
  side than `parallelMinSide` have no workers. The number of
  workers may be left open.
-/
structure Grid.Config where
  threadCount : Option Nat := none
  parallelMinSide : Nat := 256
  deriving DecidableEq

namespace Grid.Config

/- Ask for a number of workers, but for at least one. -/
def withThreads
    (config : Config)
    (threads : Nat) : Config :=
  { config with threadCount := some (max 1 threads) }

/- Use workers from the given side on. -/
def withParallelSide
    (config : Config)
    (side : Nat) : Config :=
  { config with parallelMinSide := max 1 side }

/-
  How many workers there are to be, at least one. If it is
  left open, there is one for each core.
-/
def workerCount
    (config : Config)
    (machine : Machine) : Nat :=
  max 1 (config.threadCount.getD machine.cores)

/- Start the workers for a grid of the given side. -/
def workers
    (config : Config)
    (machine : Machine)
    (side : Nat) : Except Fault (Option Nat) :=
  if config.parallelMinSide ≤ side then
    match machine.start (config.workerCount machine) with
    | .ok () => .ok (some (config.workerCount machine))
    | .error reason => .error (.noWorkers reason)
  else
    .ok none

end Grid.Config

end LatticeGas

------------------------------------------------------------
-- Grids
------------------------------------------------------------

namespace LatticeGas

/-
  A grid holds its cells, a second board into which the next
  cells are written, and the number of ticks so far.
-/
structure Grid where
  side : Nat
  side_pos : 0 < side
  timestep : Nat
  cells : Board side
  scratch : Board side
  workers : Option Nat

namespace Grid

/- The grid with the given cells, before its first tick. -/
def ofBoard
    {side : Nat}
    (hSide : 0 < side)
    (board : Board side)
    (workers : Option Nat) : Grid :=
  { side := side
    side_pos := hSide
    timestep := 0
    cells := board
    scratch := Board.uniform Cell.empty
    workers := workers }

/-
  Start the workers of a grid, and see to it that memory can
  hold its boards. A cell takes one byte.
-/
def prepare
    (machine : Machine)
    (side : Nat)
    (config : Config) : Except Fault (Option Nat) := do
  let workers ← config.workers machine side
  require (side * side < countLimit) .productOverflow
  require (side * side ≤ memoryLimit) .capacityOverflow
  return workers

/-
  The grid of a given side. Its cells are asked for when all
  that it needs is there.
-/
def make
    (machine : Machine)
    (side : Nat)
    (config : Config)
    (board : Unit → Except LatticeError (Board side)) :
    Except Failure Grid :=
  if hSide : 0 < side then
    match prepare machine side config with
    | .error fault => .error (.broken fault)
    | .ok workers =>
        match board () with
        | .error error => .error (.refused error)
        | .ok board => .ok (ofBoard hSide board workers)
  else
    .error (.refused .emptyLattice)

/- The grid without walls and particles. -/
def new
    (machine : Machine)
    (side : Nat)
    (config : Config) : Except Failure Grid :=
  make machine side config fun _ =>
    .ok (Board.uniform Cell.empty)

/-
  The grid whose row `y` is the row `y` of a list. There must
  be as many rows as there are cells in each of them.
-/
def ofRows
    (machine : Machine)
    (rows : List (List Cell)) : Except Failure Grid :=
  make machine rows.length {} fun _ => Board.ofRows? rows

end Grid

end LatticeGas

------------------------------------------------------------
-- Single Cells
------------------------------------------------------------

namespace LatticeGas

namespace Grid

/- Whether a grid has the site `(x, y)`. -/
def Inside
    (grid : Grid)
    (x y : Nat) : Prop :=
  x < grid.side ∧ y < grid.side

instance
    (grid : Grid)
    (x y : Nat) :
    Decidable (grid.Inside x y) := by
  unfold Inside
  infer_instance

/- The cell of a site of the grid. -/
def cellAt
    (grid : Grid)
    (x y : Nat) : Except Fault Cell :=
  if grid.Inside x y then
    .ok (grid.cells.read x y)
  else
    .error (.outsideLattice x y grid.side)

/- Replace the cell of a site of the grid. -/
def set
    (grid : Grid)
    (x y : Nat)
    (cell : Cell) : Except Fault Grid :=
  if grid.Inside x y then
    .ok { grid with cells := grid.cells.write x y cell }
  else
    .error (.outsideLattice x y grid.side)

instance : Lattice Grid where
  side := Grid.side
  cellAt := Grid.cellAt

/- The grid in the plane, with walls all around it. -/
def plane (grid : Grid) : Plane :=
  grid.cells.plane

end Grid

end LatticeGas
