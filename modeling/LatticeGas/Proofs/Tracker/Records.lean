import LatticeGas.Proofs.Tracker.Twins

/-
  This file shows what the records of a run say about it. No
  operation changes the configuration of a tracker, and each
  record is the one that the macro step of its first tracker
  leaves. The ticks of a macro step are a count.

  Key definitions include:
    * `Tracker.Call.Records`
    * `Tracker.Recorded`

  Key theorems include:
    * `Tracker.config_of_grow`
    * `Tracker.config_of_compactIfFull`
    * `Tracker.config_of_build`
    * `Tracker.elapsed_lt_of_leap`
    * `Tracker.records_of_call_eq_ok`
    * `Tracker.recorded_of_runCalls`
-/

------------------------------------------------------------
-- Configurations
------------------------------------------------------------

namespace LatticeGas

namespace Tracker

open Arena

variable {tracker after : Tracker}
variable {level : Nat}

theorem config_of_wrap
    (hWrap : tracker.wrap level = .ok after) :
    after.config = tracker.config := by
  rw [wrap_eq] at hWrap
  rcases answered_of_map hWrap with ⟨made, -, hMade⟩
  rw [← hMade]

theorem config_of_growWithin
    {wraps : Nat}
    (hGrow : growWithin wraps tracker = .ok after) :
    after.config = tracker.config := by
  induction wraps generalizing tracker with
  | zero => cases hGrow
  | succ wraps ih =>
      rw [growWithin] at hGrow
      rcases answered_of_bind hGrow with ⟨level, -, hRest⟩
      by_cases hCentral : tracker.region.Central level
      · rw [if_pos hCentral] at hRest
        cases hRest
        rfl
      · rw [if_neg hCentral] at hRest
        rcases answered_of_bind hRest with
          ⟨wrapped, hWrap, hGrown⟩
        rw [ih hGrown, config_of_wrap hWrap]

theorem config_of_grow
    (hGrow : tracker.grow = .ok after) :
    after.config = tracker.config := by
  rcases answered_of_bind hGrow with ⟨level, -, hRest⟩
  rcases answered_of_bind hRest with ⟨_, -, hGrown⟩
  exact config_of_growWithin hGrown

theorem config_of_compact
    (hCompact : tracker.compact = .ok after) :
    after.config = tracker.config := by
  rw [compact_eq] at hCompact
  rcases answered_of_map hCompact with ⟨made, -, hMade⟩
  rw [← hMade]

theorem config_of_compactIfFull
    (hCompact : tracker.compactIfFull = .ok after) :
    after.config = tracker.config := by
  rw [compactIfFull_eq] at hCompact
  by_cases hFull : tracker.isFull = true
  · rw [if_pos hFull] at hCompact
    exact config_of_compact hCompact
  · rw [if_neg hFull] at hCompact
    cases hCompact
    rfl

theorem config_of_leap
    (hLeap : tracker.leap level = .ok after) :
    after.config = tracker.config := by
  rw [leap_eq] at hLeap
  rcases answered_of_bind hLeap with ⟨made, -, hSum⟩
  rcases answered_of_map hSum with ⟨elapsed, -, hMade⟩
  rw [← hMade]

/- The ticks of a macro step have been counted. -/
theorem elapsed_lt_of_leap
    (hLeap : tracker.leap level = .ok after) :
    after.elapsed < countLimit := by
  rw [leap_eq] at hLeap
  rcases answered_of_bind hLeap with ⟨made, -, hSum⟩
  rcases answered_of_map hSum with ⟨elapsed, hCount, hMade⟩
  rw [addCount_eq] at hCount
  rw [← hMade]
  split at hCount
  · next hBelow =>
      cases hCount
      exact hBelow
  · cases hCount

theorem elapsed_of_compactIfFull
    (hCompact : tracker.compactIfFull = .ok after) :
    after.elapsed = tracker.elapsed := by
  rw [compactIfFull_eq] at hCompact
  by_cases hFull : tracker.isFull = true
  · rw [if_pos hFull, compact_eq] at hCompact
    rcases answered_of_map hCompact with ⟨made, -, hMade⟩
    rw [← hMade]
  · rw [if_neg hFull] at hCompact
    cases hCompact
    rfl

/- A tracker that was built is configured as was asked. -/
theorem config_of_build
    {L : Type}
    [Lattice L]
    {lattice : L}
    {config : Config}
    {built : Tracker}
    (hBuild : build lattice config = .ok built) :
    built.config = config := by
  rcases ofLattice_of_build_eq_ok hBuild with ⟨-, -, hOk⟩
  rw [ofLattice_eq] at hOk
  rcases answered_of_map hOk with ⟨made, -, hMade⟩
  rw [← hMade]

end Tracker

end LatticeGas

------------------------------------------------------------
-- Records
------------------------------------------------------------

namespace LatticeGas

namespace Tracker

open Arena

/-
  The record is that of the macro step of the tracker. Each
  of its parts comes from the one before it.
-/
structure Call.Records
    (call : Call)
    (tracker : Tracker) : Prop where
  before_eq : call.before = tracker
  grow_eq : tracker.grow = .ok call.padded
  level_eq : call.padded.level = .ok call.level
  leap_eq : call.padded.leap call.level = .ok call.leapt
  after_eq : call.leapt.compactIfFull = .ok call.after

/-
  Every record in the list is that of its first tracker, and
  the configuration has not changed from the first tracker to
  the last one.
-/
structure Recorded
    (tracker : Tracker)
    (calls : List Call)
    (last : Tracker) : Prop where
  records : ∀ call ∈ calls, call.Records call.before
  config_before :
    ∀ call ∈ calls, call.before.config = tracker.config
  config_last : last.config = tracker.config

variable {tracker next last : Tracker}
variable {call : Call}
variable {calls first rest : List Call}

theorem records_of_call_eq_ok
    (hCall : tracker.call = .ok call) :
    call.Records tracker := by
  rcases answered_of_bind hCall with
    ⟨padded, hGrow, hRest⟩
  rcases answered_of_bind hRest with ⟨level, hLevel, hRest⟩
  rcases answered_of_bind hRest with ⟨leapt, hLeap, hRest⟩
  rcases answered_of_bind hRest with
    ⟨after, hAfter, hMade⟩
  cases hMade
  exact ⟨rfl, hGrow, hLevel, hLeap, hAfter⟩

/- The configuration is the same right after the step. -/
theorem Call.Records.config_leapt
    (hCall : call.Records tracker) :
    call.leapt.config = tracker.config := by
  rw [config_of_leap hCall.leap_eq,
    config_of_grow hCall.grow_eq]

theorem Call.Records.config_after
    (hCall : call.Records tracker) :
    call.after.config = tracker.config := by
  rw [config_of_compactIfFull hCall.after_eq,
    hCall.config_leapt]

theorem Call.Records.elapsed_lt
    (hCall : call.Records tracker) :
    call.after.elapsed < countLimit := by
  rw [elapsed_of_compactIfFull hCall.after_eq]
  exact elapsed_lt_of_leap hCall.leap_eq

theorem Recorded.nil
    (hConfig : last.config = tracker.config) :
    Recorded tracker [] last where
  records := fun _ hCall => by cases hCall
  config_before := fun _ hCall => by cases hCall
  config_last := hConfig

theorem Recorded.singleton
    (hCall : call.Records tracker) :
    Recorded tracker [call] call.after := by
  have hBefore := hCall.before_eq
  subst hBefore
  constructor
  · intro found hFound
    obtain rfl := List.mem_singleton.mp hFound
    exact hCall
  · intro found hFound
    obtain rfl := List.mem_singleton.mp hFound
    rfl
  · exact hCall.config_after

/- The records of two parts of a run are put together. -/
theorem Recorded.append
    (hFirst : Recorded tracker first next)
    (hRest : Recorded next rest last) :
    Recorded tracker (first ++ rest) last := by
  constructor
  · intro call hCall
    rcases List.mem_append.mp hCall with hOld | hNew
    · exact hFirst.records call hOld
    · exact hRest.records call hNew
  · intro call hCall
    rcases List.mem_append.mp hCall with hOld | hNew
    · exact hFirst.config_before call hOld
    · rw [hRest.config_before call hNew, hFirst.config_last]
  · rw [hRest.config_last, hFirst.config_last]

end Tracker

end LatticeGas

------------------------------------------------------------
-- Recorded Runs
------------------------------------------------------------

namespace LatticeGas

namespace Tracker

open Arena

variable {tracker last : Tracker}
variable {calls : List Call}

/- The macro steps that cover some ticks are recorded. -/
theorem recorded_of_callsFurther
    {wanted : Nat}
    (hCalls :
      tracker.callsFurther wanted = .ok (calls, last)) :
    Recorded tracker calls last := by
  induction wanted using Nat.strongRecOn
    generalizing tracker calls with
  | ind wanted ih =>
      rw [callsFurther] at hCalls
      by_cases hWanted : wanted = 0
      · rw [if_pos hWanted] at hCalls
        cases hCalls
        exact Recorded.nil rfl
      · rw [if_neg hWanted] at hCalls
        cases hCall : tracker.call with
        | error fault =>
            rw [hCall] at hCalls
            cases hCalls
        | ok call =>
            simp only [hCall] at hCalls
            have hRecords := records_of_call_eq_ok hCall
            have hPos := ticks_pos_of_call call
            cases hRest :
                call.after.callsFurther
                  (wanted - call.ticks) with
            | error fault =>
                rw [hRest] at hCalls
                cases hCalls
            | ok record =>
                rw [hRest] at hCalls
                cases hCalls
                exact (Recorded.singleton hRecords).append
                  (ih _ (by omega) hRest)

theorem recorded_of_calls
    {op : Op}
    (hCalls : op.calls tracker = .ok (calls, last)) :
    Recorded tracker calls last := by
  cases op with
  | advance =>
      rcases answered_of_map hCalls with ⟨call, hCall, hEnd⟩
      cases hEnd
      exact Recorded.singleton (records_of_call_eq_ok hCall)
  | advanceAtLeast ticks =>
      exact recorded_of_callsFurther hCalls
  | grow =>
      rcases answered_of_map hCalls with ⟨grown, hGrow, hEnd⟩
      cases hEnd
      exact Recorded.nil (config_of_grow hGrow)
  | compact =>
      rcases answered_of_map hCalls with
        ⟨compacted, hCompact, hEnd⟩
      cases hEnd
      exact Recorded.nil (config_of_compact hCompact)

/- All macro steps of a run are recorded. -/
theorem recorded_of_runCalls
    {ops : List Op}
    (hCalls : Op.runCalls ops tracker = .ok (calls, last)) :
    Recorded tracker calls last := by
  induction ops generalizing tracker calls with
  | nil =>
      cases hCalls
      exact Recorded.nil rfl
  | cons op ops ih =>
      rcases Op.runCalls_cons_eq_ok hCalls with
        ⟨first, next, rest, hFirst, hRest, rfl⟩
      exact (recorded_of_calls hFirst).append (ih hRest)

end Tracker

end LatticeGas
