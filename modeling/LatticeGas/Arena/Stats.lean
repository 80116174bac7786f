import LatticeGas.Arena.Basic

/-
  This file defines how full an arena is, and the lines that
  report it.

  Key definitions include:
    * `Stats`
    * `Stats.lines`
    * `Stats.text`
    * `Arena.perLevel`
    * `Arena.stats`
-/

------------------------------------------------------------
-- Statistics
------------------------------------------------------------

namespace LatticeGas

/-
  The number of nodes, of remembered steps, and of nodes of
  each level up to the highest.
-/
structure Stats where
  nodes : Nat
  memoized : Nat
  perLevel : Array Nat
  deriving DecidableEq

namespace Stats

/- The lines of the levels that have nodes. -/
def levelLines (stats : Stats) : List String :=
  stats.perLevel.toList.zipIdx.filterMap fun (count, level) =>
    if 0 < count then
      some s!"  @{level}: {count}"
    else
      none

/- A line for the arena, and one for each of its levels. -/
def lines (stats : Stats) : List String :=
  s!"arena nodes={stats.nodes} memoized={stats.memoized}" ::
    stats.levelLines

/- The lines in one text, each with its end of line. -/
def text (stats : Stats) : String :=
  String.join (stats.lines.map fun line => line ++ "\n")

end Stats

end LatticeGas

------------------------------------------------------------
-- Counting
------------------------------------------------------------

namespace LatticeGas

namespace Arena

/-
  Count one more node of a level. Levels that were not met
  before start from zero.
-/
def countLevel
    (counts : Array Nat)
    (level : Nat) : Array Nat :=
  let missing := level + 1 - counts.size
  let padded := counts ++ Array.replicate missing 0
  padded.modify level (· + 1)

/- The number of nodes of each level. -/
def perLevel (arena : Arena) : Array Nat :=
  arena.entries.foldl
    (fun counts entry => countLevel counts entry.level)
    #[]

/- How full the arena is. -/
def stats (arena : Arena) : Stats :=
  { nodes := arena.size
    memoized := arena.steps.countP Option.isSome
    perLevel := arena.perLevel }

end Arena

end LatticeGas
