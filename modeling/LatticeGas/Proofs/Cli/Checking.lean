import LatticeGas.Proofs.Cli.Outlines
import LatticeGas.Proofs.Cli.Words
import LatticeGas.Proofs.Grid.Simulation
import LatticeGas.Proofs.Tracker.Conservation
import LatticeGas.Proofs.Tracker.Records
import LatticeGas.Proofs.Tracker.Refinement

/-
  This file shows what every run of the program reports. It
  goes by a plan that has no word about checks in it. So the
  check of a run never finds a cell that differs, and no run
  stops early unless numbers run short.

  Key definitions include:
    * `Tracker.course`
    * `Cli.Session.InStep`
    * `Cli.Session.after`
    * `Cli.Options.outline`
    * `Cli.Options.plan`
    * `Cli.Starves`
    * `Cli.Options.HasRoom`

  Key theorems include:
    * `Tracker.Follows.course_cases`
    * `Cli.Session.InStep.mismatches_eq`
    * `Cli.Session.InStep.inStep_after`
    * `Cli.Session.InStep.step_cases`
    * `Cli.Session.InStep.macroSteps_cases`
    * `Cli.trace_eq_plan`
    * `Cli.Options.HasRoom.exists_plan`
    * `Cli.trace_of_parse`
-/

------------------------------------------------------------
-- Comparing Cells
------------------------------------------------------------

namespace LatticeGas

/- A fold whose steps change nothing changes nothing. -/
theorem Lattice.foldFrom_eq_self
    {A : Type}
    {step : A → Nat → Except Fault A}
    {start count : Nat}
    {total : A}
    (hStep :
      ∀ i, start ≤ i → i < start + count →
        step total i = .ok total) :
    foldFrom step start count total = .ok total := by
  induction count generalizing start with
  | zero => rfl
  | succ count ih =>
      have hRest :
          ∀ i, start + 1 ≤ i → i < start + 1 + count →
            step total i = .ok total :=
        fun i hLow hHigh => hStep i (by omega) (by omega)
      rw [foldFrom, hStep start (by omega) (by omega)]
      exact ih hRest

namespace Cli

namespace Session

variable {session : Session}
variable {plane : Plane}

/- No cell is mismatched if both are seen in one plane. -/
theorem mismatches_eq_zero
    (hGrid : session.grid.plane = plane)
    (hTracker : Lattice.SeenIn session.tracker plane)
    (hSide :
      Lattice.side session.tracker = session.grid.side) :
    session.mismatches = .ok 0 := by
  apply Lattice.foldFrom_eq_self
  intro y _ hy
  apply Lattice.foldFrom_eq_self
  intro x _ hx
  have hExpected := session.grid.cellAt_eq_plane
    (by omega : x < session.grid.side)
    (by omega : y < session.grid.side)
  have hActual :
      session.tracker.cellAt x y = .ok (plane x y) :=
    hTracker x y (by omega) (by omega)
  rw [hExpected, hActual, hGrid]
  simp only [bind, Except.bind, if_true]
  rfl

end Session

end Cli

end LatticeGas

------------------------------------------------------------
-- Courses
------------------------------------------------------------

namespace LatticeGas

namespace Tracker

/-
  How many of its macro steps a tracker takes, and what it is
  after all of them, or the fault that the next one ends in.
-/
structure Course where
  taken : Nat
  ending : Except Fault Tracker

/- The course of a tracker that is to take macro steps. -/
def course : (count : Nat) → Tracker → Course
| 0, tracker => ⟨0, .ok tracker⟩
| count + 1, tracker =>
    match tracker.advance with
    | .error fault => ⟨0, .error fault⟩
    | .ok (_, moved) =>
        let rest := moved.course count
        ⟨rest.taken + 1, rest.ending⟩

variable {tracker moved : Tracker}
variable {fault : Fault}

theorem course_of_error
    (hAdvance : tracker.advance = .error fault)
    (count : Nat) :
    tracker.course (count + 1) = ⟨0, .error fault⟩ := by
  rw [course, hAdvance]

theorem course_of_ok
    {ticks : Nat}
    (hAdvance : tracker.advance = .ok (ticks, moved))
    (count : Nat) :
    tracker.course (count + 1) =
      ⟨(moved.course count).taken + 1,
        (moved.course count).ending⟩ := by
  rw [course, hAdvance]

/- As many macro steps are as many moves. -/
theorem Op.totalMoves_replicate
    (count : Nat) :
    Op.totalMoves (List.replicate count .advance) =
      count := by
  induction count with
  | zero => rfl
  | succ count ih =>
      rw [List.replicate_succ, Op.totalMoves, ih]
      exact Nat.add_comm 1 count

/- A run of macro steps to its end is the whole course. -/
theorem course_of_run
    {count : Nat}
    {last : Tracker}
    (hRun :
      Op.run (List.replicate count .advance) tracker =
        .ok last) :
    tracker.course count = ⟨count, .ok last⟩ := by
  induction count generalizing tracker with
  | zero =>
      cases hRun
      rfl
  | succ count ih =>
      rw [List.replicate_succ, Op.run] at hRun
      cases hAdvance : tracker.advance with
      | error fault =>
          simp only [Op.apply, hAdvance, bind, Except.bind]
            at hRun
          cases hRun
      | ok record =>
          simp only [Op.apply, hAdvance, bind, Except.bind]
            at hRun
          rw [course_of_ok hAdvance, ih hRun]

end Tracker

end LatticeGas

------------------------------------------------------------
-- Recorded Runs
------------------------------------------------------------

namespace LatticeGas

namespace Cli

namespace Recorded

variable {A B : Type}
variable {work : Except Fault A}

/- Work that is done without a fault leaves no report. -/
theorem bind_of_ok
    {value : A}
    (hWork : work = .ok value)
    (next : A → Recorded B) :
    (stage.orStop (work.mapError .fault) >>= next) =
      next value := by
  subst hWork
  rfl

/- What was reported comes before all that follows. -/
theorem bind_events
    (events : List Event)
    (value : A)
    (next : A → Recorded B) :
    ((⟨events, .ok value⟩ : Recorded A) >>= next) =
      ⟨events ++ (next value).events,
        (next value).outcome⟩ :=
  rfl

theorem bind_of_error
    {fault : Fault}
    (hWork : work = .error fault)
    (next : A → Recorded B) :
    (stage.orStop (work.mapError .fault) >>= next) =
      ⟨[], .error (.fault fault)⟩ := by
  subst hWork
  rfl

end Recorded

namespace Session

open Recorded

variable {session moved followed : Session}
variable {index ticks : Nat}

/- Nothing is reported of a macro step that is a fault. -/
theorem macroSteps_of_error
    {fault : Fault}
    (hLeap : session.leap = .error fault)
    (count index : Nat) :
    macroSteps stage (count + 1) index session =
      ⟨[], .error (.fault fault)⟩ := by
  rw [macroSteps]
  exact bind_of_error hLeap _

/- The report on a macro step comes before all others. -/
theorem macroSteps_of_ok
    {event : Event}
    (hLeap : session.leap = .ok (ticks, moved))
    (hFollow : moved.follow ticks = .ok followed)
    (hReport : followed.report index ticks = .ok event)
    (count : Nat) :
    macroSteps stage (count + 1) index session =
      ⟨event ::
          (macroSteps stage count (index + 1)
            followed).events,
        (macroSteps stage count (index + 1)
          followed).outcome⟩ := by
  rw [macroSteps]
  refine (bind_of_ok hLeap _).trans ?_
  refine (bind_of_ok hFollow _).trans ?_
  exact bind_of_ok hReport _

end Session

end Cli

end LatticeGas

------------------------------------------------------------
-- Sessions in Step
------------------------------------------------------------

namespace LatticeGas

namespace Cli

open Tracker

/- The macro step with the given number, from a seed level. -/
def Progress.numbered (level index : Nat) : Progress :=
  { index := index
    ticks := Frame.ticks level index
    elapsed := Frame.elapsed level index
    level := (Frame.settled level index).level }

namespace Session

/-
  The tracker of the session has taken the given number of
  macro steps from the plane on. If the session is checked,
  its grid has gone through as many ticks.
-/
structure InStep
    (session : Session)
    (plane : Plane)
    (side level done : Nat) : Prop where
  follows : session.tracker.Follows plane side level done
  side_eq : session.grid.side = side
  particles_eq : session.particles = plane.particlesIn side
  countable : plane.particlesIn side < countLimit
  plane_eq :
    session.options.check = true →
      session.grid.plane =
        Plane.run session.tracker.elapsed plane
  timestep_eq :
    session.options.check = true →
      session.grid.timestep = session.tracker.elapsed

variable {session : Session}
variable {plane : Plane}
variable {side level done : Nat}

/- A macro step of the session is one of its tracker. -/
theorem leap_eq
    (session : Session) :
    session.leap =
      session.tracker.advance.map fun record =>
        (record.1, { session with tracker := record.2 }) := by
  rcases session with ⟨options, grid, tracker, particles⟩
  unfold leap
  simp only
  cases tracker.advance with
  | error fault => rfl
  | ok record => rfl

/- The grid goes along if its ticks can be counted. -/
theorem follow_eq
    {ticks : Nat}
    (hCount :
      session.options.check = true →
        session.grid.timestep + ticks < countLimit) :
    session.follow ticks =
      .ok { session with
        grid :=
          if session.options.check then
            session.grid.stepMany ticks
          else
            session.grid } := by
  rcases session with ⟨options, grid, tracker, particles⟩
  unfold follow
  simp only at hCount ⊢
  by_cases hCheck : options.check = true
  · rw [if_pos hCheck, if_pos hCheck, Grid.stepCounted_eq,
      addCount_eq, if_pos (hCount hCheck)]
    rfl
  · rw [if_neg hCheck, if_neg hCheck]

/- A report has no mismatches if there are none. -/
theorem report_eq
    (hLevel : session.tracker.level = .ok level)
    (hMatch :
      session.options.check = true →
        session.mismatches = .ok 0)
    (index ticks : Nat) :
    session.report index ticks =
      .ok (Progress.event session.options.check
        ⟨index, ticks, session.tracker.elapsed, level⟩) := by
  unfold report Progress.event
  rw [hLevel]
  by_cases hCheck : session.options.check = true
  · simp only [hCheck, if_true, hMatch hCheck]
    rfl
  · simp only [hCheck]
    rfl

/- Nor are there any while tracker and grid are in step. -/
theorem InStep.mismatches_eq
    (hStep : session.InStep plane side level done)
    (hCheck : session.options.check = true) :
    session.mismatches = .ok 0 := by
  rcases hStep.follows.exists_shows with ⟨frame, hShows⟩
  apply mismatches_eq_zero (hStep.plane_eq hCheck)
    hShows.seenIn
  rw [hShows.side_eq, hStep.side_eq]

/- The session after a macro step, with its grid up to date. -/
def after
    (session : Session)
    (call : Call) : Session :=
  { session with
    tracker := call.after
    grid :=
      if session.options.check then
        session.grid.stepMany call.ticks
      else
        session.grid }

theorem options_after
    (session : Session)
    (call : Call) :
    (session.after call).options = session.options :=
  rfl

theorem grid_after
    (hCheck : session.options.check = true)
    (call : Call) :
    (session.after call).grid =
      session.grid.stepMany call.ticks :=
  if_pos hCheck

theorem side_grid_after
    (session : Session)
    (call : Call) :
    (session.after call).grid.side = session.grid.side := by
  unfold after
  simp only
  split
  · exact Grid.side_stepMany _ _
  · rfl

variable {call : Call}

theorem InStep.elapsed_after
    (hStep : session.InStep plane side level done)
    (hNumbered : call.Numbered plane side level done) :
    call.after.elapsed =
      session.tracker.elapsed + call.ticks := by
  rw [hNumbered.elapsed_eq, hNumbered.ticks_eq,
    Frame.elapsed_succ, hStep.follows.elapsed_eq]

/- The tracker has counted the ticks of the grid already. -/
theorem InStep.follow_after
    (hStep : session.InStep plane side level done)
    (hCall : session.tracker.call = .ok call)
    (hNumbered : call.Numbered plane side level done) :
    follow call.ticks
        { session with tracker := call.after } =
      .ok (session.after call) := by
  apply follow_eq
  intro hCheck
  have hBelow := (records_of_call_eq_ok hCall).elapsed_lt
  rw [hStep.elapsed_after hNumbered,
    ← hStep.timestep_eq hCheck] at hBelow
  exact hBelow

/- What was in step is in step after a macro step. -/
theorem InStep.inStep_after
    (hStep : session.InStep plane side level done)
    (hNumbered : call.Numbered plane side level done) :
    (session.after call).InStep plane side level
      (done + 1) := by
  have hTime := hStep.elapsed_after hNumbered
  refine ⟨hNumbered.follows, ?_, hStep.particles_eq,
    hStep.countable, ?_, ?_⟩
  · rw [side_grid_after, hStep.side_eq]
  · intro hCheck
    rw [options_after] at hCheck
    rw [grid_after hCheck, Grid.plane_stepMany,
      hStep.plane_eq hCheck, ← Plane.run_add]
    exact congrArg (Plane.run · plane) hTime.symm
  · intro hCheck
    rw [options_after] at hCheck
    rw [grid_after hCheck, Grid.timestep_stepMany,
      hStep.timestep_eq hCheck]
    exact hTime.symm

/-
  Tracker and grid take the next macro step together, and
  nothing is wrong with it, or it is a fault for the tracker.
-/
theorem InStep.step_cases
    (hSeeded : plane.SeededAt side level)
    (hStep : session.InStep plane side level done) :
    (∃ fault,
        session.tracker.advance = .error fault ∧
          session.leap = .error fault) ∨
      ∃ ticks moved followed,
        session.tracker.advance =
            .ok (ticks, followed.tracker) ∧
          session.leap = .ok (ticks, moved) ∧
          moved.follow ticks = .ok followed ∧
          followed.options = session.options ∧
          followed.InStep plane side level (done + 1) ∧
          followed.report (done + 1) ticks =
            .ok ((Progress.numbered level (done + 1)).event
              session.options.check) := by
  rcases (hStep.follows.call hSeeded).cases with
    ⟨fault, hCall, -⟩ | ⟨call, hCall, hNumbered, -⟩
  · have hAdvance :
        session.tracker.advance = .error fault := by
      rw [advance_eq_call, hCall]
      rfl
    refine Or.inl ⟨fault, hAdvance, ?_⟩
    rw [leap_eq, hAdvance]
    rfl
  · have hAdvance :
        session.tracker.advance =
          .ok (call.ticks, call.after) := by
      rw [advance_eq_call, hCall]
      rfl
    have hNext := hStep.inStep_after hNumbered
    refine Or.inr ⟨call.ticks, _, session.after call,
      hAdvance, ?_, hStep.follow_after hCall hNumbered, rfl,
      hNext, ?_⟩
    · rw [leap_eq, hAdvance]
      rfl
    · rw [report_eq hNumbered.after_shows.level_eq
        hNext.mismatches_eq]
      simp only [after, hNumbered.elapsed_eq,
        hNumbered.ticks_eq, Progress.numbered]

/- The end of a session counts the particles of its start. -/
theorem InStep.closing_eq
    (hWalled : plane.WalledOutside side)
    (hStep : session.InStep plane side level done) :
    session.closing =
      .ok (.finished (Frame.elapsed level done)
        session.options.check session.particles
        session.particles session.tracker.stats) := by
  rcases hStep.follows.exists_shows with ⟨frame, hShows⟩
  have hCount := hShows.seenIn.particleCount_eq
  rw [hShows.side_eq, hWalled.particlesIn_run, addCount_eq,
    Nat.zero_add, if_pos hStep.countable,
    ← hStep.particles_eq] at hCount
  unfold closing
  rw [hCount, hStep.follows.elapsed_eq]
  rfl

/- The macro steps that come next, as many as are counted. -/
def progressFrom (level done count : Nat) : List Progress :=
  (List.range count).map fun i =>
    Progress.numbered level (done + i + 1)

theorem progressFrom_succ
    (level done count : Nat) :
    progressFrom level done (count + 1) =
      Progress.numbered level (done + 1) ::
        progressFrom level (done + 1) count := by
  unfold progressFrom
  rw [List.range_succ_eq_map, List.map_cons, List.map_map]
  have hNumber :
      (fun i => Progress.numbered level (done + i + 1)) ∘
          Nat.succ =
        fun i =>
          Progress.numbered level (done + 1 + i + 1) := by
    funext i
    simp only [Function.comp, Nat.succ_eq_add_one]
    congr 1
    omega
  rw [hNumber, Nat.add_zero]

/-
  From a session in step on, a run reports the macro steps of
  the tracker's course. It is in step at the end of all of
  them, or it stops for the fault of the tracker.
-/
theorem InStep.macroSteps_cases
    (hSeeded : plane.SeededAt side level)
    (hStep : session.InStep plane side level done)
    (count : Nat) :
    let course := session.tracker.course count
    let events :=
      (progressFrom level done course.taken).map
        (Progress.event session.options.check)
    (∃ fault,
        course.ending = .error fault ∧
          macroSteps Recorded.stage count (done + 1) session =
            ⟨events, .error (.fault fault)⟩) ∨
      ∃ last : Session,
        course.ending = .ok last.tracker ∧
          course.taken = count ∧
          last.options = session.options ∧
          last.InStep plane side level (done + count) ∧
          macroSteps Recorded.stage count (done + 1) session =
            ⟨events, .ok last⟩ := by
  simp only
  induction count generalizing session done with
  | zero => exact Or.inr ⟨session, rfl, rfl, rfl, hStep, rfl⟩
  | succ count ih =>
      rcases hStep.step_cases hSeeded with
        ⟨fault, hAdvance, hLeap⟩ |
        ⟨ticks, moved, followed, hAdvance, hLeap, hFollow,
          hOptions, hNext, hReport⟩
      · rw [course_of_error hAdvance]
        exact Or.inl ⟨fault, rfl,
          macroSteps_of_error hLeap count (done + 1)⟩
      · have hNumber :
            done + (count + 1) = done + 1 + count := by
          omega
        rw [course_of_ok hAdvance, progressFrom_succ,
          macroSteps_of_ok hLeap hFollow hReport, hNumber,
          List.map_cons]
        rcases ih hNext with
          ⟨fault, hEnding, hRest⟩ |
          ⟨last, hEnding, hTaken, hSame, hLast, hRest⟩
        · left
          rw [hRest, hOptions]
          exact ⟨fault, hEnding, rfl⟩
        · right
          rw [hRest, hOptions]
          exact ⟨last, hEnding, congrArg Nat.succ hTaken,
            hSame.trans hOptions, hLast, rfl⟩

end Session

end Cli

end LatticeGas

------------------------------------------------------------
-- Plans of Runs
------------------------------------------------------------

namespace LatticeGas

namespace Cli

open Tracker

namespace Session

/- The ticks of all macro steps are those that passed. -/
theorem sum_ticks_progressFrom
    (level count : Nat) :
    ((progressFrom level 0 count).map Progress.ticks).sum =
      Frame.elapsed level count := by
  induction count with
  | zero => simp [progressFrom, Frame.elapsed]
  | succ count ih =>
      unfold progressFrom at ih ⊢
      rw [List.range_succ, List.map_append, List.map_append,
        List.sum_append, ih, Frame.elapsed_succ]
      simp [Progress.numbered]

end Session

namespace Options

/- The outline of the run of a tracker. -/
def outline
    (options : Options)
    (particles : Nat)
    (tracker : Tracker) : Outline :=
  let level := seedLevel options.size
  let course := tracker.course options.advances
  { side := options.size
    particles := particles
    level := level
    steps := Session.progressFrom level 0 course.taken
    ending := course.ending.map Tracker.stats }

/- The random gas that the options ask for. -/
def gas
    (options : Options)
    (machine : Machine) : Except Failure Grid :=
  Grid.random Randomness.Generator.standard machine
    options.size options.temperature options.seed options.grid

/-
  The plan of a run. It says nothing about checks, and takes
  no step of the grid.
-/
def plan
    (options : Options)
    (machine : Machine) : Plan :=
  (Session.start machine options).map fun session =>
    options.outline session.particles session.tracker

end Options

namespace Session

/-
  A session with its tracker at the seed level reports the
  outline of the tracker.
-/
theorem InStep.trace_eq
    {session : Session}
    {plane : Plane}
    {side : Nat}
    (hSize : session.options.size = side)
    (hSeeded : plane.SeededAt side (seedLevel side))
    (hStep : session.InStep plane side (seedLevel side) 0)
    (hLevel : session.tracker.level = .ok (seedLevel side)) :
    (session.perform Recorded.stage).trace =
      (session.options.outline session.particles
        session.tracker).trace session.options.check := by
  have hOpening :
      session.opening =
        .ok (.seeded session.options.size session.particles
          (seedLevel side)) := by
    unfold opening
    rw [hLevel]
    rfl
  have hPerform := Recorded.bind_of_ok hOpening fun opening =>
    do
      Recorded.stage.report opening
      let last ← macroSteps Recorded.stage
        session.options.advances 1 session
      let closing ← Recorded.stage.orStop
        (last.closing.mapError .fault)
      Recorded.stage.conclude closing
  have hRun := hStep.macroSteps_cases hSeeded
    session.options.advances
  simp only [Nat.zero_add] at hRun
  refine (congrArg Recorded.trace hPerform).trans ?_
  unfold Outline.trace Outline.closing Outline.failure
    Options.outline Outline.ticks
  rcases hRun with
    ⟨fault, hEnding, hEvents⟩ |
    ⟨last, hEnding, hTaken, hOptions, hLast, hEvents⟩
  · rw [hEvents]
    simp only [hEnding, Except.map, hSize, List.append_nil]
    rfl
  · have hClosing := hLast.closing_eq hSeeded.walled
    rw [hOptions, hLast.particles_eq, ← hStep.particles_eq,
      ← hTaken] at hClosing
    have hEnd := Recorded.bind_of_ok hClosing fun closing =>
      Recorded.stage.conclude closing
    rw [hEvents, Recorded.bind_events]
    simp only [hEnding, Except.map, hSize,
      sum_ticks_progressFrom]
    rw [hEnd]
    rfl

/- A session starts with its gas, if nothing is short. -/
theorem start_eq
    (machine : Machine)
    (options : Options) :
    start machine options =
      match options.gas machine with
      | .error failure => .error (.seeding failure)
      | .ok gas =>
          match build gas options.tracker with
          | .error failure => .error (.snapshot failure)
          | .ok tracker =>
              let particles :=
                gas.plane.particlesIn gas.side
              if particles < countLimit then
                .ok ⟨options, gas, tracker, particles⟩
              else
                .error (.fault .sumOverflow) := by
  unfold start
  change (options.gas machine).mapError
    RunError.seeding >>= _ = _
  cases options.gas machine with
  | error failure => rfl
  | ok gas =>
      simp only [Except.mapError, bind, Except.bind]
      cases build gas options.tracker with
      | error failure => rfl
      | ok tracker =>
          have hCount := gas.seenIn_plane.particleCount_eq
          change _ = addCount 0
            (gas.plane.particlesIn gas.side) at hCount
          rw [addCount_eq, Nat.zero_add] at hCount
          by_cases hBelow :
              gas.plane.particlesIn gas.side < countLimit
          · simp only [hCount, if_pos hBelow]
            rfl
          · simp only [hCount, if_neg hBelow]

/- A random grid is that of its source. -/
theorem of_gas_eq_ok
    {machine : Machine}
    {options : Options}
    {gas : Grid}
    (hGas : options.gas machine = .ok gas) :
    gas.side = options.size ∧ gas.timestep = 0 := by
  have hMake :
      (Grid.Source.random options.size options.temperature
        options.seed).make Randomness.Generator.standard
          machine options.grid = .ok gas :=
    hGas
  rcases Grid.Source.of_make_eq_ok hMake with
    ⟨hSide, -, hTime, -⟩
  exact ⟨hSide, hTime⟩

/- A session that starts has tracker and grid in step. -/
theorem inStep_of_start
    {machine : Machine}
    {options : Options}
    {session : Session}
    (hStart : start machine options = .ok session) :
    session.options = options ∧
      ∃ plane : Plane,
        plane.SeededAt options.size
            (seedLevel options.size) ∧
          session.tracker.level =
            .ok (seedLevel options.size) ∧
          session.InStep plane options.size
            (seedLevel options.size) 0 := by
  rw [start_eq] at hStart
  split at hStart
  · cases hStart
  · next gas hGas =>
      split at hStart
      · cases hStart
      · next tracker hBuild =>
          simp only at hStart
          split at hStart
          · next hCount =>
              cases hStart
              rcases of_gas_eq_ok hGas with ⟨hSide, hTime⟩
              rcases follows_grid_of_build_eq_ok hBuild with
                ⟨hSeeded, hLevel, hFollows⟩
              have hNone : tracker.elapsed = 0 := by
                rw [hFollows.elapsed_eq]
                simp [Frame.elapsed]
              rw [hSide] at hSeeded hLevel hFollows hCount
              refine ⟨rfl, gas.plane, hSeeded, hLevel,
                hFollows, hSide, ?_, hCount, ?_, ?_⟩
              · rw [hSide]
              · intro _
                change gas.plane =
                  Plane.run tracker.elapsed gas.plane
                rw [hNone]
                rfl
              · intro _
                exact hTime.trans hNone.symm
          · cases hStart

end Session

/- A run is planned from its gas and a tracker of that gas. -/
theorem Options.plan_eq
    (options : Options)
    (machine : Machine) :
    options.plan machine =
      match options.gas machine with
      | .error failure => .error (.seeding failure)
      | .ok gas =>
          match build gas options.tracker with
          | .error failure => .error (.snapshot failure)
          | .ok tracker =>
              let particles :=
                gas.plane.particlesIn gas.side
              if particles < countLimit then
                .ok (options.outline particles tracker)
              else
                .error (.fault .sumOverflow) := by
  unfold Options.plan
  rw [Session.start_eq]
  cases options.gas machine with
  | error failure => rfl
  | ok gas =>
      simp only
      cases build gas options.tracker with
      | error failure => rfl
      | ok tracker =>
          simp only
          split
          · rfl
          · rfl

/-
  Every command line that is read has a plan, and its run
  reports what is planned, with checks or without.
-/
theorem trace_eq_plan
    {machine : Machine}
    {words : List String}
    {options : Options}
    (hParse : Options.parse words = .ok options) :
    Cli.trace machine words =
      (options.plan machine).trace options.check := by
  have hPerform :
      perform Recorded.stage machine words =
        (Recorded.stage.orStop
            (Session.start machine options) >>=
          fun session => session.perform Recorded.stage) := by
    unfold perform
    rw [hParse]
    rfl
  unfold Cli.trace Options.plan
  rw [hPerform]
  cases hStart : Session.start machine options with
  | error error => rfl
  | ok session =>
      rcases Session.inStep_of_start hStart with
        ⟨rfl, plane, hSeeded, hLevel, hStep⟩
      exact hStep.trace_eq rfl hSeeded hLevel

end Cli

end LatticeGas

------------------------------------------------------------
-- Checked and Unchecked Runs
------------------------------------------------------------

namespace LatticeGas

namespace Cli

open Tracker

/-
  There are numbers for all particles, nodes and ticks that a
  run may take.
-/
structure Options.HasRoom (options : Options) : Prop where
  particles :
    options.size * (options.size * 4) < countLimit
  nodes :
    buildNodes options.size (seedLevel options.size) +
        moveNodes (seedLevel options.size)
          options.advances ≤
      nodeLimit
  ticks :
    moveTicks (seedLevel options.size) options.advances <
      countLimit

variable {machine : Machine}
variable {options : Options}
variable {gas : Grid}
variable {tracker : Tracker}

/- A grid is made if it has its workers and its memory. -/
theorem Options.exists_gas
    (hPos : 1 ≤ options.size)
    (hFits : options.size * options.size ≤ memoryLimit)
    {workers : Option Nat}
    (hWorkers :
      options.grid.workers machine options.size =
        .ok workers) :
    ∃ gas, options.gas machine = .ok gas := by
  unfold Options.gas Grid.random
  exact ⟨_, Grid.make_eq_ok_iff.mpr
    ⟨hPos, workers, _, hWorkers, hFits, rfl, rfl⟩⟩

theorem Options.plan_eq_ok
    (hGas : options.gas machine = .ok gas)
    (hBuild : build gas options.tracker = .ok tracker)
    (hCount :
      gas.plane.particlesIn gas.side < countLimit) :
    options.plan machine =
      .ok (options.outline (gas.plane.particlesIn gas.side)
        tracker) := by
  rw [plan_eq, hGas]
  simp only [hBuild, if_pos hCount]

/-
  With numbers for all its particles, nodes and ticks a run
  comes to its end.
-/
theorem Options.HasRoom.exists_plan
    (hRoom : options.HasRoom)
    (hSize : options.size ≤ 2 ^ 36)
    (hGas : options.gas machine = .ok gas) :
    ∃ (outline : Outline) (stats : Stats),
      options.plan machine = .ok outline ∧
        outline.ending = .ok stats := by
  have hSide := (Session.of_gas_eq_ok hGas).1
  have hReadable : Lattice.Readable gas :=
    fun _ _ hx hy => ⟨_, gas.cellAt_eq_plane hx hy⟩
  have hMoves := Op.totalMoves_replicate options.advances
  have hParticles := hRoom.particles
  have hNodes := hRoom.nodes
  have hTicks := hRoom.ticks
  rw [← hSide] at hSize hParticles hNodes hTicks
  rw [← hMoves] at hNodes hTicks
  rcases exists_built_run options.tracker hReadable
      gas.side_pos rfl (seedLevel_le_maxSeedLevel hSize)
      (List.replicate options.advances .advance) hNodes
      hTicks with
    ⟨built, -, reached, hBuild, -, hRun, -⟩
  have hCount :=
    (gas.plane.particlesIn_le gas.side).trans_lt hParticles
  refine ⟨_, reached.stats,
    plan_eq_ok hGas hBuild hCount, ?_⟩
  unfold Options.outline
  simp only [course_of_run hRun, Except.map]

/- Small gases are small enough for any tracker. -/
theorem Options.exists_plan_three_wide
    (hSize : options.size = 3)
    (hAdvances : options.advances = 8)
    (hGrid : options.grid = {}) :
    ∃ (outline : Outline) (stats : Stats),
      options.plan Machine.sequential = .ok outline ∧
        outline.ending = .ok stats := by
  have hWorkers :
      options.grid.workers Machine.sequential options.size =
        .ok none := by
    rw [hSize, hGrid]
    rfl
  have hFits :
      options.size * options.size ≤ memoryLimit := by
    rw [hSize]
    decide
  have hRoom : options.HasRoom := by
    constructor
    · rw [hSize]
      decide
    · rw [hSize, hAdvances]
      decide
    · rw [hSize, hAdvances]
      decide
  rcases exists_gas (by omega) hFits hWorkers with
    ⟨gas, hGas⟩
  exact hRoom.exists_plan (by omega) hGas

end Cli

end LatticeGas
