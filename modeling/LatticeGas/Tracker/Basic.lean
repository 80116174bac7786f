import LatticeGas.Arena.Square
import LatticeGas.Arena.Stats
import LatticeGas.Lattice
import LatticeGas.Region

/-
  This file defines the tracker, which follows a region of
  the gas in a quad-tree, and what can be read from it.

  Key definitions include:
    * `Tracker.Config`
    * `Tracker.Config.withCompactThreshold`
    * `Tracker`
    * `Tracker.level`
    * `Tracker.isSteppable`
    * `Tracker.cellAt`
    * `Tracker.stats`
-/

------------------------------------------------------------
-- Configuration
------------------------------------------------------------

namespace LatticeGas

/-
  What a tracker does to be quick: whether equal nodes are
  shared, whether steps are remembered, and beyond how many
  nodes those out of use are dropped. None of them changes
  what the tracker shows.
-/
structure Tracker.Config where
  intern : Bool := true
  memoize : Bool := true
  compactThreshold : Option Nat := none
  deriving DecidableEq

namespace Tracker.Config

/- Share equal nodes or not. -/
def withIntern
    (config : Config)
    (enabled : Bool) : Config :=
  { config with intern := enabled }

/- Remember steps or not. -/
def withMemoize
    (config : Config)
    (enabled : Bool) : Config :=
  { config with memoize := enabled }

/- Allow the given number of nodes, but at least one. -/
def withCompactThreshold
    (config : Config)
    (nodes : Nat) : Config :=
  { config with compactThreshold := some (max 1 nodes) }

end Tracker.Config

end LatticeGas

------------------------------------------------------------
-- Trackers
------------------------------------------------------------

namespace LatticeGas

/-
  A tracker holds an arena and the node of its square, the
  place of its region there, and the ticks that have passed.
-/
structure Tracker where
  arena : Arena
  root : NodeId
  region : Region
  elapsed : Nat
  config : Tracker.Config

namespace Tracker

/- The level of the tracker's square. -/
def level (tracker : Tracker) : Except Fault Nat :=
  tracker.arena.level tracker.root

/- Whether one macro step covers the region. -/
def isSteppable (tracker : Tracker) : Except Fault Bool := do
  let level ← tracker.level
  return decide (tracker.region.Central level)

/- How full the tracker's arena is. -/
def stats (tracker : Tracker) : Stats :=
  tracker.arena.stats

/- The cell at `(x, y)` of the region. -/
def cellAt
    (tracker : Tracker)
    (x y : Nat) : Except Fault Cell := do
  let region := tracker.region
  require (x < region.width ∧ y < region.height)
    (.outsideRegion x y region.width region.height)
  tracker.arena.cellAt tracker.root
    (region.originX + x) (region.originY + y)

instance : Lattice Tracker where
  side tracker := tracker.region.width
  cellAt := Tracker.cellAt

end Tracker

end LatticeGas
