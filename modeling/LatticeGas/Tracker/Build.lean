import LatticeGas.Tracker.Basic

/-
  This file defines how a tracker is made from a lattice. All
  sites outside the lattice are walls.

  Key definitions include:
    * `Tracker.seedLevel`
    * `Tracker.maxSeedLevel`
    * `Building.seed`
    * `Tracker.build`
-/

------------------------------------------------------------
-- Levels of Lattices
------------------------------------------------------------

namespace LatticeGas

namespace Tracker

/- The lowest level of a square that is not smaller. -/
def seedLevel (side : Nat) : Nat :=
  if side ≤ 1 then 0 else Nat.log2 (side - 1) + 1

/-
  The highest level of a lattice. The square grows by some
  levels above it when it is padded.
-/
def maxSeedLevel : Nat :=
  maxLevel - 4

end Tracker

end LatticeGas

------------------------------------------------------------
-- Seeding
------------------------------------------------------------

namespace LatticeGas

namespace Building

variable {L : Type}
variable [Lattice L]

/-
  The node of the square of a lattice with its lower corner
  at `(x, y)`. Squares that lie outside hold walls, and their
  cells are not asked for.
-/
def seed (lattice : L) :
    (level x y : Nat) → Building NodeId
| level, x, y =>
    if Lattice.side lattice ≤ x ∨
        Lattice.side lattice ≤ y then
      wall level
    else
      match level with
      | 0 => do
          let cell ← Lattice.cellAt lattice x y
          leaf cell
      | level + 1 => do
          let half := sideOfLevel level
          let sw ← seed lattice level x y
          let se ← seed lattice level (x + half) y
          let nw ← seed lattice level x (y + half)
          let ne ← seed lattice level (x + half) (y + half)
          node ⟨sw, se, nw, ne⟩

end Building

end LatticeGas

------------------------------------------------------------
-- Building Trackers
------------------------------------------------------------

namespace LatticeGas

namespace Tracker

variable {L : Type}
variable [Lattice L]

/- The tracker of a lattice of a given level. -/
def ofLattice
    (lattice : L)
    (level : Nat)
    (config : Config) : Except Fault Tracker := do
  let side := Lattice.side lattice
  let arena := Arena.new config.intern config.memoize
  let (root, arena) ←
    (Building.seed lattice level 0 0).run arena
  return {
    arena := arena
    root := root
    region := ⟨0, 0, side, side⟩
    elapsed := 0
    config := config }

/-
  The tracker of a lattice. A lattice needs a cell, and it
  must not be too large.
-/
def build
    (lattice : L)
    (config : Config) : Except Failure Tracker :=
  let side := Lattice.side lattice
  let level := seedLevel side
  if side = 0 then
    .error (.refused .emptyLattice)
  else if maxSeedLevel < level then
    .error (.refused
      (.levelTooLarge side level maxSeedLevel))
  else
    match ofLattice lattice level config with
    | .ok tracker => .ok tracker
    | .error fault => .error (.broken fault)

end Tracker

end LatticeGas
