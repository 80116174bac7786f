import LatticeGas.Grid.Basic
import LatticeGas.Randomness.Draw

/-
  This file defines grids with a random gas. A stripe at the
  lower end of the first axis holds a steady inflow.

  Key definitions include:
    * `Fill.sites`
    * `Fill.InStripe`
    * `Fill.drawCell`
    * `Fill.cells`
    * `Grid.random`
-/

------------------------------------------------------------
-- Fill Order
------------------------------------------------------------

namespace LatticeGas

namespace Fill

/- The sites in fill order, column after column. -/
def sites (side : Nat) : List (Nat × Nat) :=
  (List.range side).flatMap fun x =>
    (List.range side).map fun y => (x, y)

/- The inflow stripe, in tenths of the side. -/
def InStripe
    (side x y : Nat) : Prop :=
  x < side / 10 ∧ side / 10 * 4 < y ∧ y < side / 10 * 6

instance
    (side x y : Nat) :
    Decidable (InStripe side x y) := by
  unfold InStripe
  infer_instance

end Fill

end LatticeGas

------------------------------------------------------------
-- Random Cells
------------------------------------------------------------

namespace LatticeGas

namespace Fill

open Randomness

/- Draw a cell that holds at least one particle. -/
def drawOccupied
    (generator : Generator) : Draw generator.State Cell := do
  let offset ← generator.below 15
  return .gas (Flow.ofBits (1 + offset))

/-
  Draw the cell of a site. The stripe takes no random values.
  Elsewhere a cell is occupied if a number drawn from
  `[0, 1)` is below the temperature.
-/
def drawCell
    (generator : Generator)
    (side : Nat)
    (temperature : Float)
    (site : Nat × Nat) : Draw generator.State Cell := do
  if InStripe side site.1 site.2 then
    return Cell.lone .xPos
  else
    let level ← generator.unit
    if level < temperature then
      drawOccupied generator
    else
      return Cell.empty

/- The cells of a random gas, in fill order. -/
def cells
    (generator : Generator)
    (side : Nat)
    (temperature : Float)
    (seed : UInt64) : List Cell :=
  let draws :=
    (sites side).mapM (drawCell generator side temperature)
  (draws.run (generator.ofSeed seed)).1

/- The board of a random gas. -/
def board
    (generator : Generator)
    (side : Nat)
    (temperature : Float)
    (seed : UInt64) : Board side :=
  let cells := cells generator side temperature seed
  ((sites side).zip cells).foldl
    (fun board filled =>
      board.write filled.1.1 filled.1.2 filled.2)
    (Board.uniform Cell.empty)

end Fill

end LatticeGas

------------------------------------------------------------
-- Random Grids
------------------------------------------------------------

namespace LatticeGas

/- The grid of a random gas. -/
def Grid.random
    (generator : Randomness.Generator)
    (machine : Machine)
    (side : Nat)
    (temperature : Float)
    (seed : UInt64)
    (config : Grid.Config) : Except Failure Grid :=
  make machine side config fun _ =>
    .ok (Fill.board generator side temperature seed)

end LatticeGas
