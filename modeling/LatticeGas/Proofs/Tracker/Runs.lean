import LatticeGas.Tracker.Run

/-
  This file defines runs of a tracker through any operations
  in any order, and the record of all macro steps of a run.
  Keeping the record does not change the run.

  Key definitions include:
    * `Tracker.Op`
    * `Tracker.Op.apply`
    * `Tracker.Op.run`
    * `Tracker.Call`
    * `Tracker.Op.calls`
    * `Tracker.Op.runCalls`

  Key theorems include:
    * `Tracker.advanceAtLeast_eq_calls`
    * `Tracker.Op.run_eq_runCalls`
    * `Tracker.Op.count_advance_le_length`
-/

------------------------------------------------------------
-- Operations
------------------------------------------------------------

namespace LatticeGas

namespace Tracker

/- The operations that change a tracker. -/
inductive Op where
  | advance
  | advanceAtLeast (ticks : Nat)
  | grow
  | compact
  deriving DecidableEq

namespace Op

/- The tracker after one operation. -/
def apply : Op → Tracker → Except Fault Tracker
| .advance, tracker => do
    let (_, moved) ← tracker.advance
    return moved
| .advanceAtLeast ticks, tracker => do
    let (_, moved) ← tracker.advanceAtLeast ticks
    return moved
| .grow, tracker => tracker.grow
| .compact, tracker => tracker.compact

/- The tracker after several operations in order. -/
def run : List Op → Tracker → Except Fault Tracker
| [], tracker => .ok tracker
| op :: ops, tracker => do
    let next ← op.apply tracker
    run ops next

end Op

end Tracker

end LatticeGas

------------------------------------------------------------
-- Recorded Macro Steps
------------------------------------------------------------

namespace LatticeGas

namespace Tracker

/-
  The record of a macro step: the tracker before it, the
  tracker when its square was padded, the level of that
  square, the tracker right after the step, and the tracker
  after a compaction if one was due.
-/
structure Call where
  before : Tracker
  padded : Tracker
  level : Nat
  leapt : Tracker
  after : Tracker

/- The number of ticks that a macro step covers. -/
def Call.ticks (call : Call) : Nat :=
  Region.quarter call.level

/- Pad the square, take a macro step and keep its record. -/
def call (tracker : Tracker) : Except Fault Call := do
  let padded ← tracker.grow
  let level ← padded.level
  let leapt ← padded.leap level
  let after ← leapt.compactIfFull
  return {
    before := tracker
    padded := padded
    level := level
    leapt := leapt
    after := after }

theorem ticks_pos_of_call
    (call : Call) :
    0 < call.ticks :=
  sideOfLevel_pos (call.level - 2)

/- The records of the macro steps that cover the ticks. -/
def callsFurther
    (tracker : Tracker)
    (wanted : Nat) : Except Fault (List Call × Tracker) :=
  if wanted = 0 then
    .ok ([], tracker)
  else
    match tracker.call with
    | .error fault => .error fault
    | .ok call =>
        have _hTicks : 0 < call.ticks :=
          ticks_pos_of_call call
        match call.after.callsFurther (wanted - call.ticks)
          with
        | .error fault => .error fault
        | .ok (calls, last) => .ok (call :: calls, last)
termination_by wanted

/- The ticks of a list of macro steps. -/
def totalTicks : List Call → Nat
| [] => 0
| call :: calls => call.ticks + totalTicks calls

theorem advance_eq_call
    (tracker : Tracker) :
    tracker.advance =
      tracker.call.map fun call =>
        (call.ticks, call.after) := by
  unfold advance call
  cases tracker.grow with
  | error fault => rfl
  | ok padded =>
      cases hLevel : padded.level with
      | error fault =>
          simp only [hLevel, bind, Except.bind, Except.map]
      | ok level =>
          cases hLeapt : padded.leap level with
          | error fault =>
              simp only [hLevel, hLeapt, bind, Except.bind,
                Except.map]
          | ok leapt =>
              cases hAfter : leapt.compactIfFull with
              | error fault =>
                  simp only [hLevel, hLeapt, hAfter, bind,
                    Except.bind, Except.map]
              | ok after =>
                  simp only [hLevel, hLeapt, hAfter, bind,
                    Except.bind, Except.map, pure,
                    Except.pure, Call.ticks]

/- Nothing is left to be covered. -/
theorem advanceFurther_zero
    (tracker : Tracker)
    (covered : Nat) :
    tracker.advanceFurther 0 covered =
      .ok (covered, tracker) := by
  rw [advanceFurther, if_pos rfl]

theorem advanceFurther_of_error
    {tracker : Tracker}
    {fault : Fault}
    (hAdvance : tracker.advance = .error fault)
    {wanted : Nat}
    (hWanted : wanted ≠ 0)
    (covered : Nat) :
    tracker.advanceFurther wanted covered =
      .error fault := by
  rw [advanceFurther, if_neg hWanted]
  split
  · next found hFound =>
      rw [hAdvance] at hFound
      exact hFound.symm
  · next ticks moved hFound =>
      rw [hAdvance] at hFound
      cases hFound

/- One macro step is taken before the others. -/
theorem advanceFurther_of_ok
    {tracker moved : Tracker}
    {ticks : Nat}
    (hAdvance : tracker.advance = .ok (ticks, moved))
    {wanted : Nat}
    (hWanted : wanted ≠ 0)
    (covered : Nat) :
    tracker.advanceFurther wanted covered =
      moved.advanceFurther (wanted - ticks)
        (covered + ticks) := by
  rw [advanceFurther, if_neg hWanted]
  split
  · next fault hFound =>
      rw [hAdvance] at hFound
      cases hFound
  · next found last hFound =>
      rw [hAdvance] at hFound
      cases hFound
      rfl

/- What is returned is what the macro steps cover. -/
theorem advanceFurther_eq_calls
    (tracker : Tracker)
    (wanted covered : Nat) :
    tracker.advanceFurther wanted covered =
      (tracker.callsFurther wanted).map fun record =>
        (covered + totalTicks record.1, record.2) := by
  induction wanted using Nat.strongRecOn
    generalizing tracker covered with
  | ind wanted ih =>
      rw [callsFurther]
      by_cases hWanted : wanted = 0
      · subst hWanted
        rw [advanceFurther_zero, if_pos rfl]
        rfl
      · rw [if_neg hWanted]
        have hAdvance := advance_eq_call tracker
        cases hCall : tracker.call with
        | error fault =>
            rw [hCall] at hAdvance
            exact advanceFurther_of_error hAdvance hWanted
              covered
        | ok call =>
            rw [hCall] at hAdvance
            have hPos := ticks_pos_of_call call
            rw [advanceFurther_of_ok hAdvance hWanted,
              ih _ (by omega)]
            simp only
            cases call.after.callsFurther
                (wanted - call.ticks) with
            | error fault => rfl
            | ok record =>
                simp only [Except.map, totalTicks,
                  Nat.add_assoc]

/- The ticks that are returned are those that were taken. -/
theorem advanceAtLeast_eq_calls
    (tracker : Tracker)
    (ticks : Nat) :
    tracker.advanceAtLeast ticks =
      (tracker.callsFurther ticks).map fun record =>
        (totalTicks record.1, record.2) := by
  unfold advanceAtLeast
  rw [advanceFurther_eq_calls]
  simp only [Nat.zero_add]

end Tracker

end LatticeGas

------------------------------------------------------------
-- Recorded Runs
------------------------------------------------------------

namespace LatticeGas

namespace Tracker

namespace Op

/- One operation, with the records of its macro steps. -/
def calls :
    Op → Tracker → Except Fault (List Call × Tracker)
| .advance, tracker =>
    tracker.call.map fun call => ([call], call.after)
| .advanceAtLeast ticks, tracker =>
    tracker.callsFurther ticks
| .grow, tracker =>
    tracker.grow.map fun grown => ([], grown)
| .compact, tracker =>
    tracker.compact.map fun compacted => ([], compacted)

/- Several operations, with the records in order. -/
def runCalls :
    List Op → Tracker → Except Fault (List Call × Tracker)
| [], tracker => .ok ([], tracker)
| op :: ops, tracker => do
    let (first, next) ← op.calls tracker
    let (rest, last) ← runCalls ops next
    return (first ++ rest, last)

/- An operation does the same with and without records. -/
theorem apply_eq_calls
    (op : Op)
    (tracker : Tracker) :
    op.apply tracker =
      (op.calls tracker).map Prod.snd := by
  cases op with
  | advance =>
      simp only [apply, calls]
      rw [advance_eq_call]
      cases tracker.call with
      | error fault => rfl
      | ok call => rfl
  | advanceAtLeast ticks =>
      simp only [apply, calls]
      rw [advanceAtLeast_eq_calls]
      cases tracker.callsFurther ticks with
      | error fault => rfl
      | ok record => rfl
  | grow =>
      simp only [apply, calls]
      cases tracker.grow with
      | error fault => rfl
      | ok grown => rfl
  | compact =>
      simp only [apply, calls]
      cases tracker.compact with
      | error fault => rfl
      | ok compacted => rfl

/- A run does the same with and without records. -/
theorem run_eq_runCalls
    (ops : List Op)
    (tracker : Tracker) :
    run ops tracker =
      (runCalls ops tracker).map Prod.snd := by
  induction ops generalizing tracker with
  | nil => rfl
  | cons op ops ih =>
      rw [run, runCalls, apply_eq_calls]
      cases op.calls tracker with
      | error fault => rfl
      | ok record =>
          change run ops record.2 = _
          rw [ih]
          cases hRest : runCalls ops record.2 with
          | error fault =>
              simp only [bind, Except.bind, hRest]
          | ok rest =>
              simp only [bind, Except.bind, hRest]
              rfl

/- Each operation of a run that ended has ended. -/
theorem runCalls_cons_eq_ok
    {op : Op}
    {ops : List Op}
    {tracker reached : Tracker}
    {calls : List Call}
    (hRun :
      runCalls (op :: ops) tracker = .ok (calls, reached)) :
    ∃ first next rest,
      op.calls tracker = .ok (first, next) ∧
        runCalls ops next = .ok (rest, reached) ∧
          calls = first ++ rest := by
  rw [runCalls] at hRun
  cases hFirst : op.calls tracker with
  | error fault =>
      rw [hFirst] at hRun
      cases hRun
  | ok record =>
      rcases record with ⟨first, next⟩
      simp only [hFirst, bind, Except.bind] at hRun
      cases hRest : runCalls ops next with
      | error fault =>
          rw [hRest] at hRun
          cases hRun
      | ok record =>
          rcases record with ⟨rest, last⟩
          rw [hRest] at hRun
          cases hRun
          exact ⟨first, next, rest, rfl, hRest, rfl⟩

/- Every macro step that was asked for has a record. -/
theorem count_advance_le_length
    {ops : List Op}
    {tracker reached : Tracker}
    {calls : List Call}
    (hRun : runCalls ops tracker = .ok (calls, reached)) :
    ops.count .advance ≤ calls.length := by
  induction ops generalizing tracker calls with
  | nil => exact Nat.zero_le _
  | cons op ops ih =>
      rcases runCalls_cons_eq_ok hRun with
        ⟨first, next, rest, hFirst, hRest, rfl⟩
      have hCount := ih hRest
      rw [List.length_append]
      by_cases hAdvance : op = .advance
      · subst hAdvance
        rw [List.count_cons_self]
        simp only [calls] at hFirst
        cases hCall : tracker.call with
        | error fault =>
            rw [hCall] at hFirst
            cases hFirst
        | ok call =>
            rw [hCall] at hFirst
            cases hFirst
            rw [List.length_singleton]
            omega
      · rw [List.count_cons_of_ne hAdvance]
        omega

end Op

end Tracker

end LatticeGas
