import LatticeGas.Arena.Stats
import LatticeGas.Numeral.Nearest

/-
  This file defines what the program reports about a run, and
  the lines that it prints for each report.

  Key definitions include:
    * `Cli.Timing`
    * `Cli.Timing.ofNanos`
    * `Cli.Progress`
    * `Cli.Event`
    * `Cli.Event.lines`
-/

------------------------------------------------------------
-- Times
------------------------------------------------------------

namespace LatticeGas

namespace Cli

/-
  How long something took, in words: the milliseconds of the
  quad-tree and of the grid, and the ratio between them.
-/
structure Timing where
  tree : String
  grid : String
  ratio : String

/- A number with leading zeros, up to the given width. -/
def padded (width number : Nat) : String :=
  let digits := toString number
  let missing := width - digits.length
  String.ofList (List.replicate missing '0') ++ digits

/- A quotient with a fixed number of places. -/
def fixedPoint
    (places num den : Nat) : String :=
  let scale := Nat.pow 10 places
  let units := Numeral.roundHalfEven (num * scale) den
  s!"{units / scale}.{padded places (units % scale)}"

/- How often one duration holds another one. -/
def ratioText (num den : Nat) : String :=
  if 0 < den then fixedPoint 2 num den
  else if 0 < num then "inf"
  else "NaN"

/- The words for two durations in nanoseconds. -/
def Timing.ofNanos (tree grid : Nat) : Timing :=
  { tree := fixedPoint 3 tree 1000000
    grid := fixedPoint 3 grid 1000000
    ratio := s!"{ratioText grid tree}x" }

end Cli

end LatticeGas

------------------------------------------------------------
-- Reports
------------------------------------------------------------

namespace LatticeGas

namespace Cli

/-
  Where a run is after a macro step: the number of the step,
  its ticks, all ticks so far, and the level of the square.
-/
structure Progress where
  index : Nat
  ticks : Nat
  elapsed : Nat
  level : Nat
  deriving DecidableEq

/- What there is to report about a run. -/
inductive Event where
  | seeded (side particles level : Nat)
  | advanced (progress : Progress)
  | checked (progress : Progress) (mismatches : Nat)
  | finished (elapsed : Nat) (compared : Bool)
      (particles initial : Nat) (stats : Stats)
  deriving DecidableEq

/- The part of a line that tells the progress. -/
def Progress.text (progress : Progress) : String :=
  s!"Advance {progress.index}: +{progress.ticks} ticks " ++
    s!"(t = {progress.elapsed}), level {progress.level}"

/- The verdict on a number of mismatched cells. -/
def verdict (mismatches : Nat) : String :=
  if mismatches = 0 then "MATCH" else "MISMATCH"

/- The lines that compare the times of a whole run. -/
def comparisonLines (timing : Timing) : List String :=
  [s!"Reference: {timing.grid} ms total",
    s!"Speedup (Reference / HashGas): {timing.ratio}"]

/- The lines of a report, with the times that belong to it. -/
def Event.lines
    (timing : Timing) : Event → List String
| .seeded side particles level =>
    [s!"Lattice {side}x{side}, {particles} particles, " ++
      s!"seed level {level}"]
| .advanced progress =>
    [s!"{progress.text}, {timing.tree} ms"]
| .checked progress mismatches =>
    [s!"{progress.text} [{verdict mismatches}]",
      s!"  HashGas: {timing.tree} ms | " ++
        s!"Reference: {timing.grid} ms | " ++
        s!"mismatched cells: {mismatches}"]
| .finished elapsed compared particles initial stats =>
    ["",
      s!"--- Summary ({elapsed} ticks) ---",
      s!"HashGas: {timing.tree} ms total"] ++
    (if compared then comparisonLines timing else []) ++
    s!"Particles: {particles} (seeded {initial})" ::
      stats.lines

end Cli

end LatticeGas
