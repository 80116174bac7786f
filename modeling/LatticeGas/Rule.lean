import LatticeGas.Cell

/-
  This file defines how one site changes in one tick. The
  particles of the four neighbours arrive, those that would
  have left into a wall come back, and then they collide.

  Key definitions include:
    * `Cell.arrives`
    * `Cell.arrivals`
    * `Cell.tick`
-/

------------------------------------------------------------
-- Streaming
------------------------------------------------------------

namespace LatticeGas

namespace Cell

/-
  Whether a particle that moves along `d` reaches a site
  from the neighbour behind it. Behind a wall there is no
  one, and the site's own particle comes back instead.
-/
def arrives
    (own behind : Cell)
    (d : Direction) : Bool :=
  match behind with
  | .wall => own.has d.opposite
  | .gas flow => flow.has d

/- The particles that reach a site from its neighbours. -/
def arrivals
    (left right bottom top own : Cell) : Flow :=
  { xNeg := own.arrives right .xNeg
    xPos := own.arrives left .xPos
    yNeg := own.arrives top .yNeg
    yPos := own.arrives bottom .yPos }

/- The site after one tick. A wall stays a wall. -/
def tick (left right bottom top own : Cell) : Cell :=
  match own with
  | .wall => .wall
  | .gas flow =>
      .gas (arrivals left right bottom top
        (.gas flow)).collide

end Cell

end LatticeGas
