import LatticeGas.Cell

/-
  This file defines read access to square lattices, and the
  quantities that are measured on any of them.

  Key definitions include:
    * `Lattice`
    * `Lattice.foldFrom`
    * `Lattice.foldBlock`
    * `Lattice.particleCount`
    * `Lattice.blockFlow`
    * `Lattice.meanFlow`
    * `Uniform`
-/

------------------------------------------------------------
-- Square Lattices
------------------------------------------------------------

namespace LatticeGas

/-
  A square lattice has a side, and a cell at every `(x, y)`
  below its side. Reading elsewhere may be a fault.
-/
class Lattice (L : Type) where
  side : L → Nat
  cellAt : L → Nat → Nat → Except Fault Cell

end LatticeGas

------------------------------------------------------------
-- Folds over Blocks
------------------------------------------------------------

namespace LatticeGas

namespace Lattice

variable {A : Type}

/-
  Fold `count` positions in increasing order, from `start`
  on. The first fault among them ends the fold.
-/
def foldFrom
    (step : A → Nat → Except Fault A) :
    (start count : Nat) → A → Except Fault A
| _, 0, total => .ok total
| start, count + 1, total => do
    let extended ← step total start
    foldFrom step (start + 1) count extended

variable {L : Type}
variable [Lattice L]

/-
  Fold the cells of a block, row by row from its corner at
  `(x0, y0)`.
-/
def foldBlock
    (lattice : L)
    (step : A → Cell → Except Fault A)
    (x0 y0 width height : Nat)
    (initial : A) : Except Fault A :=
  foldFrom
    (fun total y =>
      foldFrom
        (fun total x => do
          let cell ← cellAt lattice x y
          step total cell)
        x0 width total)
    y0 height initial

end Lattice

end LatticeGas

------------------------------------------------------------
-- Particles and Flow
------------------------------------------------------------

namespace LatticeGas

/- The net motion of a cell along the first axis. -/
def Cell.velocityX (cell : Cell) : Int :=
  (cell.has .xPos).toInt - (cell.has .xNeg).toInt

/- The net motion of a cell along the second axis. -/
def Cell.velocityY (cell : Cell) : Int :=
  (cell.has .yPos).toInt - (cell.has .yNeg).toInt

namespace Lattice

variable {L : Type}
variable [Lattice L]

/- The number of particles of the whole lattice. -/
def particleCount (lattice : L) : Except Fault Nat :=
  foldBlock lattice
    (fun total cell => addCount total cell.particleCount)
    0 0 (side lattice) (side lattice) 0

/-
  The net motion of a square block along both axes, added up
  over its cells.
-/
def blockFlow
    (lattice : L)
    (x0 y0 k : Nat) : Except Fault (Int × Int) :=
  foldBlock lattice
    (fun total cell =>
      .ok (total.1 + cell.velocityX,
        total.2 + cell.velocityY))
    x0 y0 k k (0, 0)

/-
  The average motion over a square block. Walls do not move
  but count toward its area.
-/
def meanFlow
    (lattice : L)
    (x0 y0 k : Nat) : Except Fault (Float × Float) := do
  require (0 < k) .emptyBlock
  let (vx, vy) ← blockFlow lattice x0 y0 k
  let area := Float.ofNat (k * k)
  return (Float.ofInt vx / area, Float.ofInt vy / area)

end Lattice

end LatticeGas

------------------------------------------------------------
-- Uniform Lattices
------------------------------------------------------------

namespace LatticeGas

/- A lattice of any side whose cells are all the same. -/
structure Uniform where
  side : Nat
  cell : Cell

instance : Lattice Uniform where
  side := Uniform.side
  cellAt lattice _ _ := .ok lattice.cell

end LatticeGas
