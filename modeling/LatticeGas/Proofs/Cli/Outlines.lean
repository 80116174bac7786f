import LatticeGas.Cli.Session
import Mathlib.Algebra.Ring.Nat

/-
  This file outlines what a run reports: its gas, its macro
  steps, and the nodes at its end, or the fault that it ends
  in. A run that is checked and one that is not report the
  same outline, and they print it differently.

  Key definitions include:
    * `Cli.Outline`
    * `Cli.Outline.AddsUp`
    * `Cli.Outline.EndsAfter`
    * `Cli.Outline.trace`
    * `Cli.Outline.lines`
    * `Cli.Plan`
    * `Cli.Plan.trace`
    * `Cli.Trace.mapStats`
    * `Cli.Trace.stats`
    * `Cli.Outline.head`

  Key theorems include:
    * `Cli.Outline.lines_trace`
    * `Cli.Outline.trace_mapStats`
    * `Cli.Plan.exists_head`
-/

------------------------------------------------------------
-- Outlines
------------------------------------------------------------

namespace LatticeGas

namespace Cli

/- The report on a macro step with which nothing is wrong. -/
def Progress.event
    (check : Bool)
    (progress : Progress) : Event :=
  if check then .checked progress 0 else .advanced progress

/-
  What there is to report about a run with which nothing is
  wrong: its gas and the level of the first square, its macro
  steps, and the nodes after the last of them. If instead the
  next macro step is a fault, then which one.
-/
structure Outline where
  side : Nat
  particles : Nat
  level : Nat
  steps : List Progress
  ending : Except Fault Stats

namespace Outline

/- The ticks of all macro steps. -/
def ticks (outline : Outline) : Nat :=
  (outline.steps.map Progress.ticks).sum

/- The report on the end, if the run comes to it. -/
def closing
    (outline : Outline)
    (check : Bool) : List Event :=
  match outline.ending with
  | .ok stats =>
      [.finished outline.ticks check outline.particles
        outline.particles stats]
  | .error _ => []

/- The reason for which the run stops early. -/
def failure (outline : Outline) : Option RunError :=
  match outline.ending with
  | .ok _ => none
  | .error fault => some (.fault fault)

/- The reports of the run. -/
def trace
    (outline : Outline)
    (check : Bool) : Trace :=
  { events :=
      .seeded outline.side outline.particles outline.level ::
        (outline.steps.map (Progress.event check) ++
          outline.closing check)
    failure := outline.failure }

end Outline

/- An outline of a run, or the reason for which none starts. -/
abbrev Plan :=
  Except RunError Outline

/- The reports of a run that is planned. -/
def Plan.trace
    (plan : Plan)
    (check : Bool) : Trace :=
  match plan with
  | .ok outline => outline.trace check
  | .error error => ⟨[], some error⟩

end Cli

end LatticeGas

------------------------------------------------------------
-- Lines of Outlines
------------------------------------------------------------

namespace LatticeGas

namespace Cli

namespace Outline

/- The lines of a macro step. -/
def stepLines
    (timing : Timing)
    (check : Bool)
    (progress : Progress) : List String :=
  if check then
    [s!"{progress.text} [MATCH]",
      s!"  HashGas: {timing.tree} ms | " ++
        s!"Reference: {timing.grid} ms | " ++
        "mismatched cells: 0"]
  else
    [s!"{progress.text}, {timing.tree} ms"]

/- The lines on the end, before those about its nodes. -/
def summary
    (outline : Outline)
    (timing : Timing)
    (check : Bool) : List String :=
  let particles := outline.particles
  ["", s!"--- Summary ({outline.ticks} ticks) ---",
      s!"HashGas: {timing.tree} ms total"] ++
    (if check then comparisonLines timing else []) ++
    [s!"Particles: {particles} (seeded {particles})"]

/- The lines that the run prints. -/
def lines
    (outline : Outline)
    (timing : Timing)
    (check : Bool) : List String :=
  let side := outline.side
  let particles := outline.particles
  [s!"Lattice {side}x{side}, {particles} particles, " ++
      s!"seed level {outline.level}"] ++
    outline.steps.flatMap (stepLines timing check) ++
    match outline.ending with
    | .ok stats =>
        outline.summary timing check ++ stats.lines
    | .error _ => []

variable (outline : Outline)
variable (timing : Timing)
variable (check : Bool)

theorem lines_event (progress : Progress) :
    (progress.event check).lines timing =
      stepLines timing check progress := by
  cases check with
  | false => rfl
  | true =>
      simp only [Progress.event, if_true, Event.lines,
        stepLines, verdict, String.append_assoc]
      rfl

theorem lines_closing :
    (outline.closing check).flatMap (Event.lines timing) =
      match outline.ending with
      | .ok stats =>
          outline.summary timing check ++ stats.lines
      | .error _ => [] := by
  unfold closing
  cases outline.ending with
  | error fault => rfl
  | ok stats =>
      simp only [Event.lines, summary, List.flatMap_cons,
        List.flatMap_nil, List.append_assoc,
        List.append_nil, List.cons_append, List.nil_append]

/- A run prints the lines of its outline. -/
theorem lines_trace :
    (outline.trace check).lines timing =
      outline.lines timing check := by
  have hSteps :
      (outline.steps.map (Progress.event check)).flatMap
          (Event.lines timing) =
        outline.steps.flatMap (stepLines timing check) := by
    rw [List.flatMap_map]
    simp only [lines_event]
  unfold Trace.lines trace lines
  rw [List.flatMap_cons, List.flatMap_append, hSteps,
    lines_closing]
  simp only [Event.lines, List.append_assoc]

end Outline

end Cli

end LatticeGas

------------------------------------------------------------
-- Reports on Nodes
------------------------------------------------------------

namespace LatticeGas

namespace Cli

/- A report with other numbers of nodes, if it tells any. -/
def Event.mapStats
    (change : Stats → Stats) : Event → Event
| .finished elapsed compared particles initial stats =>
    .finished elapsed compared particles initial
      (change stats)
| event => event

/- The numbers of nodes that a report tells. -/
def Event.stats? : Event → Option Stats
| .finished _ _ _ _ stats => some stats
| _ => none

/- The same reports with other numbers of nodes. -/
def Trace.mapStats
    (change : Stats → Stats)
    (trace : Trace) : Trace :=
  { trace with
    events := trace.events.map (Event.mapStats change) }

/- All numbers of nodes that are told. -/
def Trace.stats (trace : Trace) : List Stats :=
  trace.events.filterMap Event.stats?

/- The same run with other nodes at its end. -/
def Outline.mapStats
    (change : Stats → Stats)
    (outline : Outline) : Outline :=
  { outline with ending := outline.ending.map change }

/- Numbers that are replaced do not matter. -/
theorem Trace.mapStats_mapStats
    (first second : Stats → Stats)
    (trace : Trace) :
    (trace.mapStats first).mapStats second =
      trace.mapStats (second ∘ first) := by
  have hEvents :
      Event.mapStats second ∘ Event.mapStats first =
        Event.mapStats (second ∘ first) := by
    funext event
    cases event with
    | seeded => rfl
    | advanced => rfl
    | checked => rfl
    | finished => rfl
  unfold mapStats
  rw [List.map_map, hEvents]

theorem mapStats_event
    (change : Stats → Stats)
    (check : Bool)
    (progress : Progress) :
    (progress.event check).mapStats change =
      progress.event check := by
  cases check with
  | false => rfl
  | true => rfl

/- Other nodes at the end are told by the last report. -/
theorem Outline.trace_mapStats
    (change : Stats → Stats)
    (outline : Outline)
    (check : Bool) :
    (outline.mapStats change).trace check =
      (outline.trace check).mapStats change := by
  have hSteps :
      (outline.steps.map (Progress.event check)).map
          (Event.mapStats change) =
        outline.steps.map (Progress.event check) := by
    rw [List.map_map]
    congr 1
    funext progress
    exact mapStats_event change check progress
  rcases outline with
    ⟨side, particles, level, steps, fault | stats⟩
  · simp only [mapStats, trace, closing, Trace.mapStats,
      Except.map, failure, List.map_cons, List.map_append,
      hSteps, List.map_nil, Event.mapStats]
  · simp only [mapStats, trace, closing, Trace.mapStats,
      Except.map, failure, List.map_cons, List.map_append,
      hSteps, List.map_nil, Event.mapStats]
    rfl

end Cli

end LatticeGas

------------------------------------------------------------
-- Lines about Nodes
------------------------------------------------------------

namespace LatticeGas

namespace Cli

namespace Outline

/- The nodes at the end, if the run comes to it. -/
def told (outline : Outline) : List Stats :=
  match outline.ending with
  | .ok stats => [stats]
  | .error _ => []

/- The lines of the run before those about its nodes. -/
def head
    (outline : Outline)
    (timing : Timing)
    (check : Bool) : List String :=
  let side := outline.side
  let particles := outline.particles
  [s!"Lattice {side}x{side}, {particles} particles, " ++
      s!"seed level {outline.level}"] ++
    outline.steps.flatMap (stepLines timing check) ++
    match outline.ending with
    | .ok _ => outline.summary timing check
    | .error _ => []

theorem lines_eq_head
    (outline : Outline)
    (timing : Timing)
    (check : Bool) :
    outline.lines timing check =
      outline.head timing check ++
        outline.told.flatMap Stats.lines := by
  unfold lines head told
  cases outline.ending with
  | error fault =>
      simp only [List.append_nil, List.flatMap_nil]
  | ok stats =>
      simp only [List.append_assoc, List.flatMap_cons,
        List.flatMap_nil, List.append_nil]

/- Other nodes change nothing of what comes before them. -/
theorem head_mapStats
    (change : Stats → Stats)
    (outline : Outline)
    (timing : Timing)
    (check : Bool) :
    (outline.mapStats change).head timing check =
      outline.head timing check := by
  rcases outline with
    ⟨side, particles, level, steps, fault | stats⟩
  · rfl
  · rfl

theorem told_mapStats
    (change : Stats → Stats)
    (outline : Outline) :
    (outline.mapStats change).told =
      outline.told.map change := by
  rcases outline with
    ⟨side, particles, level, steps, fault | stats⟩
  · rfl
  · rfl

theorem stats_trace
    (outline : Outline)
    (check : Bool) :
    (outline.trace check).stats = outline.told := by
  have hSteps :
      (outline.steps.map (Progress.event check)).filterMap
          Event.stats? =
        [] := by
    rw [List.filterMap_eq_nil_iff]
    intro event hEvent
    rcases List.mem_map.mp hEvent with ⟨progress, -, rfl⟩
    cases check with
    | false => rfl
    | true => rfl
  unfold Trace.stats trace closing told
  rw [List.filterMap_cons_none rfl, List.filterMap_append,
    hSteps]
  cases outline.ending with
  | error fault => rfl
  | ok stats => rfl

end Outline

/- The lines about nodes are the last ones of a run. -/
theorem Plan.exists_head
    (plan : Plan)
    (check : Bool)
    (timing : Timing) :
    ∃ head : List String,
      (plan.trace check).lines timing =
          head ++
            (plan.trace check).stats.flatMap Stats.lines ∧
        ∀ change : Stats → Stats,
          ((plan.trace check).mapStats change).lines timing =
            head ++
              ((plan.trace check).stats.map change).flatMap
                Stats.lines := by
  cases plan with
  | error error => exact ⟨[], rfl, fun _ => rfl⟩
  | ok outline =>
      refine ⟨outline.head timing check, ?_, ?_⟩
      · change (outline.trace check).lines timing = _ ++
          (outline.trace check).stats.flatMap Stats.lines
        rw [outline.lines_trace, outline.lines_eq_head,
          outline.stats_trace]
      · intro change
        change ((outline.trace check).mapStats change).lines
            timing = _ ++
          ((outline.trace check).stats.map change).flatMap
            Stats.lines
        rw [← outline.trace_mapStats, Outline.lines_trace,
          Outline.lines_eq_head, outline.head_mapStats,
          outline.told_mapStats, outline.stats_trace]

end Cli

end LatticeGas
