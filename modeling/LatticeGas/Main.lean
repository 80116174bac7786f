import LatticeGas.Cli.Session

/-
  This file runs the program on a command line. It measures
  the times of a session and prints its reports.

  Key definitions include:
    * `Cli.Clock`
    * `Cli.timed`
    * `Cli.Running`
    * `Cli.Running.stage`
    * `Cli.run`
    * `main`
-/

------------------------------------------------------------
-- Measured Sessions
------------------------------------------------------------

namespace LatticeGas

namespace Cli

/- The nanoseconds that went into quad-tree and grid. -/
structure Clock where
  tree : Nat := 0
  grid : Nat := 0

def Clock.add (left right : Clock) : Clock :=
  ⟨left.tree + right.tree, left.grid + right.grid⟩

/- The words for the times of a clock. -/
def Clock.timing (clock : Clock) : Timing :=
  Timing.ofNanos clock.tree clock.grid

/- Compute something and measure how long it takes. -/
def timed
    {A : Type}
    (compute : Unit → A) : IO (A × Nat) := do
  let start ← IO.monoNanosNow
  let value ← IO.lazyPure compute
  let stop ← IO.monoNanosNow
  return (value, stop - start)

/-
  The times since the last report, and those of all macro
  steps that were reported.
-/
structure Clocks where
  lap : Clock := {}
  total : Clock := {}

/- A run of the program that measures and prints. -/
abbrev Running :=
  StateT Clocks IO

namespace Running

/- Stop the program if there is a reason to do so. -/
def orStop
    {A : Type}
    (outcome : Except RunError A) : Running A :=
  match outcome with
  | .ok value => return value
  | .error error => throw (IO.userError error.message)

/- Work, and add the time that it takes to the given clock. -/
def measured
    {A : Type}
    (clock : Nat → Clock)
    (work : Unit → Except Fault A) : Running A := do
  let (outcome, nanos) ← timed work
  modify fun clocks =>
    { clocks with lap := clocks.lap.add (clock nanos) }
  orStop (outcome.mapError .fault)

/- Print the lines of a report with the given times. -/
def printEvent
    (clock : Clock)
    (event : Event) : Running Unit :=
  (event.lines clock.timing).forM (IO.println ·)

/- Print a report with the times since the last one. -/
def report (event : Event) : Running Unit := do
  let clocks ← get
  printEvent clocks.lap event
  set ({ total := clocks.total.add clocks.lap } : Clocks)

/- Print the last report with the times of all steps. -/
def conclude (event : Event) : Running Unit := do
  let clocks ← get
  printEvent clocks.total event

def stage : Stage Running :=
  { orStop := orStop
    onTree := measured fun nanos => { tree := nanos }
    onGrid := measured fun nanos => { grid := nanos }
    report := report
    conclude := conclude }

end Running

/- Run the program on the words of a command line. -/
def run (words : List String) : IO Unit :=
  (perform Running.stage Machine.sequential words).run' {}

end Cli

end LatticeGas

------------------------------------------------------------
-- The Program
------------------------------------------------------------

/- The program. Its status tells whether it stopped early. -/
def main (words : List String) : IO UInt32 := do
  try
    LatticeGas.Cli.run words
    return 0
  catch error =>
    IO.eprintln (toString error)
    return 101
