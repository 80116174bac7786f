import LatticeGas.Cli.Options
import LatticeGas.Cli.Report
import LatticeGas.Grid.Fill
import LatticeGas.Grid.Step
import LatticeGas.Tracker.Build
import LatticeGas.Tracker.Run

/-
  This file defines the run of the program. A random gas is
  advanced in a quad-tree, and on demand a grid with the same
  gas is stepped alongside and compared with it.

  Key definitions include:
    * `Cli.RunError`
    * `Cli.Session`
    * `Cli.Session.start`
    * `Cli.Session.leap`
    * `Cli.Session.follow`
    * `Cli.Session.mismatches`
    * `Cli.Stage`
    * `Cli.Session.macroSteps`
    * `Cli.Session.perform`
    * `Cli.perform`
    * `Cli.Recorded`
    * `Cli.Trace`
    * `Cli.trace`
-/

------------------------------------------------------------
-- Failed Runs
------------------------------------------------------------

namespace LatticeGas

namespace Cli

/- The reasons for which the program stops early. -/
inductive RunError where
  | usage (error : UsageError)
  | seeding (failure : Failure)
  | snapshot (failure : Failure)
  | fault (cause : Fault)
  deriving DecidableEq

/-
  The sentence that explains a failed construction. A refusal
  is reported with what was attempted.
-/
def explain
    (attempt : String) : Failure → String
| .refused error => s!"{attempt}: {error.label}"
| .broken fault => fault.message

/- The sentence that explains why the program stops. -/
def RunError.message : RunError → String
| .usage error => error.message
| .seeding failure =>
    explain "failed to seed lattice" failure
| .snapshot failure =>
    explain "failed to build snapshot" failure
| .fault cause => cause.message

end Cli

end LatticeGas

------------------------------------------------------------
-- Sessions
------------------------------------------------------------

namespace LatticeGas

namespace Cli

/-
  A session has its options, the grid and the tracker of one
  gas, and the number of particles that the gas started with.
-/
structure Session where
  options : Options
  grid : Grid
  tracker : Tracker
  particles : Nat

namespace Session

/- The session of a random gas. -/
def start
    (machine : Machine)
    (options : Options) : Except RunError Session := do
  let grid ←
    (Grid.random Randomness.Generator.standard machine
      options.size options.temperature options.seed
      options.grid).mapError .seeding
  let tracker ←
    (Tracker.build grid options.tracker).mapError .snapshot
  let particles ←
    (Lattice.particleCount grid).mapError .fault
  return ⟨options, grid, tracker, particles⟩

/- The report on a new session. -/
def opening (session : Session) : Except Fault Event := do
  let level ← session.tracker.level
  return .seeded session.options.size session.particles level

/- Advance the quad-tree by one macro step. -/
def leap
    (session : Session) : Except Fault (Nat × Session) :=
  match session with
  | ⟨options, grid, tracker, particles⟩ => do
      let (ticks, tracker) ← tracker.advance
      return (ticks, ⟨options, grid, tracker, particles⟩)

/- Step the grid along, if the session is checked. -/
def follow
    (ticks : Nat)
    (session : Session) : Except Fault Session :=
  match session with
  | ⟨options, grid, tracker, particles⟩ =>
      if options.check then do
        let grid ← grid.stepCounted ticks
        return ⟨options, grid, tracker, particles⟩
      else
        .ok ⟨options, grid, tracker, particles⟩

/-
  Count the cells of one row that differ in the quad-tree, on
  from the count before that row.
-/
def rowMismatches
    (grid : Grid)
    (tracker : Tracker)
    (count y : Nat) : Except Fault Nat :=
  Lattice.foldFrom
    (fun count x => do
      let expected ← grid.cellAt x y
      let actual ← tracker.cellAt x y
      return if expected = actual then count else count + 1)
    0 grid.side count

/- How many cells differ between grid and quad-tree. -/
def mismatches (session : Session) : Except Fault Nat :=
  Lattice.foldFrom
    (rowMismatches session.grid session.tracker)
    0 session.grid.side 0

/- The report on the macro step with the given number. -/
def report
    (index ticks : Nat)
    (session : Session) : Except Fault Event := do
  let level ← session.tracker.level
  let progress : Progress :=
    ⟨index, ticks, session.tracker.elapsed, level⟩
  if session.options.check then
    let count ← session.mismatches
    return .checked progress count
  else
    return .advanced progress

/- The report on a session that is over. -/
def closing (session : Session) : Except Fault Event := do
  let particles ← Lattice.particleCount session.tracker
  return .finished session.tracker.elapsed
    session.options.check particles session.particles
    session.tracker.stats

end Session

end Cli

end LatticeGas

------------------------------------------------------------
-- Runs
------------------------------------------------------------

namespace LatticeGas

namespace Cli

/-
  How a run is carried out: what is done when it may have to
  stop, around the work on the quad-tree and on the grid, and
  with the reports on the way and at the end.
-/
structure Stage (M : Type → Type) where
  orStop : {A : Type} → Except RunError A → M A
  onTree : {A : Type} → (Unit → Except Fault A) → M A
  onGrid : {A : Type} → (Unit → Except Fault A) → M A
  report : Event → M Unit
  conclude : Event → M Unit

variable {M : Type → Type}
variable [Monad M]

namespace Session

/- Take and report macro steps, counted on from `index`. -/
def macroSteps
    (stage : Stage M) :
    (count index : Nat) → Session → M Session
| 0, _, session => return session
| count + 1, index, session => do
    let (ticks, moved) ← stage.onTree fun _ => session.leap
    let followed ← stage.onGrid fun _ => moved.follow ticks
    let event ← stage.orStop
      ((followed.report index ticks).mapError .fault)
    stage.report event
    macroSteps stage count (index + 1) followed

/- Report a new session, its macro steps and its end. -/
def perform
    (stage : Stage M)
    (session : Session) : M Unit := do
  let opening ← stage.orStop
    (session.opening.mapError .fault)
  stage.report opening
  let last ← macroSteps stage session.options.advances 1
    session
  let closing ← stage.orStop (last.closing.mapError .fault)
  stage.conclude closing

end Session

/- The run of the program on the words of a command line. -/
def perform
    (stage : Stage M)
    (machine : Machine)
    (words : List String) : M Unit := do
  let options ←
    stage.orStop ((Options.parse words).mapError .usage)
  let session ←
    stage.orStop (Session.start machine options)
  session.perform stage

end Cli

end LatticeGas

------------------------------------------------------------
-- Traces
------------------------------------------------------------

namespace LatticeGas

namespace Cli

/- What was reported up to a value, or up to an early stop. -/
structure Recorded (A : Type) where
  events : List Event
  outcome : Except RunError A

namespace Recorded

/- Go on, if there is a value to go on with. -/
def andThen
    {A B : Type}
    (first : Recorded A)
    (next : A → Recorded B) : Recorded B :=
  match first with
  | ⟨events, .error error⟩ => ⟨events, .error error⟩
  | ⟨events, .ok value⟩ =>
      let rest := next value
      ⟨events ++ rest.events, rest.outcome⟩

instance : Monad Recorded where
  pure value := ⟨[], .ok value⟩
  bind := andThen

/- A run that only records its reports. -/
def stage : Stage Recorded :=
  { orStop := fun outcome => ⟨[], outcome⟩
    onTree := fun work => ⟨[], (work ()).mapError .fault⟩
    onGrid := fun work => ⟨[], (work ()).mapError .fault⟩
    report := fun event => ⟨[event], .ok ()⟩
    conclude := fun event => ⟨[event], .ok ()⟩ }

end Recorded

/-
  What a run reports, in order, and the reason for which it
  stopped early, if it did.
-/
structure Trace where
  events : List Event
  failure : Option RunError

/- The trace of a run that was recorded. -/
def Recorded.trace (run : Recorded Unit) : Trace :=
  match run.outcome with
  | .ok _ => ⟨run.events, none⟩
  | .error error => ⟨run.events, some error⟩

/- The trace of the program on a command line. -/
def trace
    (machine : Machine)
    (words : List String) : Trace :=
  (perform Recorded.stage machine words).trace

/- The lines that a run prints, with the same times always. -/
def Trace.lines
    (timing : Timing)
    (trace : Trace) : List String :=
  trace.events.flatMap (Event.lines timing)

end Cli

end LatticeGas
