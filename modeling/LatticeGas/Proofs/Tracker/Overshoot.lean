import LatticeGas.Proofs.Tracker.Progression

/-
  This file shows that a tracker that is asked to cover some
  ticks takes as few macro steps as possible, and by how much
  it can go too far. The first holds of every tracker. The
  second depends on how large a macro step can be, which for
  a tracker that follows the gas is always the same. If it
  does not cover the ticks, then a macro step on the way has
  used up the numbers for nodes.

  Key definitions include:
    * `Tracker.advanceTimes`
    * `Tracker.JustCovers`
    * `Tracker.StopsShort`

  Key theorems include:
    * `Tracker.run_replicate_advance`
    * `Tracker.justCovers_of_advanceAtLeast`
    * `Tracker.stopsShort_of_advanceAtLeast`
    * `Tracker.Follows.overshoot`
    * `Tracker.Follows.exhausted_of_stopsShort`
    * `Tracker.advanceAtLeast_justCovers_of_run`
-/

------------------------------------------------------------
-- Macro Steps in a Row
------------------------------------------------------------

namespace LatticeGas

namespace Tracker

/-
  Take the given number of macro steps. The ticks that they
  cover together come with the tracker.
-/
def advanceTimes :
    Nat → Tracker → Except Fault (Nat × Tracker)
| 0, tracker => .ok (0, tracker)
| steps + 1, tracker => do
    let (ticks, moved) ← tracker.advance
    let (rest, last) ← advanceTimes steps moved
    return (ticks + rest, last)

variable {tracker moved last : Tracker}
variable {steps ticks rest wanted : Nat}

theorem advanceTimes_succ
    (hAdvance : tracker.advance = .ok (ticks, moved))
    (hRest : moved.advanceTimes steps = .ok (rest, last)) :
    tracker.advanceTimes (steps + 1) =
      .ok (ticks + rest, last) := by
  simp only [Tracker.advanceTimes, hAdvance, hRest, bind,
    Except.bind]
  rfl

/- The steps are operations of the tracker in a row. -/
theorem run_replicate_advance
    (hTimes : tracker.advanceTimes steps = .ok (ticks, last)) :
    Op.run (List.replicate steps .advance) tracker =
      .ok last := by
  induction steps generalizing tracker ticks with
  | zero =>
      cases hTimes
      rfl
  | succ steps ih =>
      rcases Arena.answered_of_bind hTimes with
        ⟨⟨first, moved⟩, hAdvance, hRest⟩
      rcases Arena.answered_of_bind hRest with
        ⟨⟨rest, reached⟩, hTimes, hEnd⟩
      cases hEnd
      simp only [List.replicate_succ, Op.run, Op.apply,
        hAdvance, bind, Except.bind, pure, Except.pure]
      exact ih hTimes

end Tracker

end LatticeGas

------------------------------------------------------------
-- As Few Macro Steps as Possible
------------------------------------------------------------

namespace LatticeGas

namespace Tracker

/-
  The macro steps lead to the last tracker and cover the
  wanted ticks, and any smaller number of them does not.
-/
structure JustCovers
    (tracker : Tracker)
    (wanted steps ticks : Nat)
    (last : Tracker) : Prop where
  times_eq : tracker.advanceTimes steps = .ok (ticks, last)
  enough : wanted ≤ ticks
  least :
    ∀ fewer : Nat,
      fewer < steps →
        ∃ short middle,
          tracker.advanceTimes fewer = .ok (short, middle) ∧
            short < wanted

variable {tracker moved last : Tracker}
variable {steps ticks rest wanted : Nat}

/- No step is needed if nothing is wanted. -/
theorem justCovers_zero
    (tracker : Tracker) :
    tracker.JustCovers 0 0 0 tracker where
  times_eq := rfl
  enough := Nat.le_refl 0
  least := fun _ hFewer => absurd hFewer (Nat.not_lt_zero _)

theorem JustCovers.eq_of_zero
    (hCovers : tracker.JustCovers 0 steps ticks last) :
    steps = 0 ∧ ticks = 0 ∧ last = tracker := by
  cases steps with
  | zero =>
      cases hCovers.times_eq
      exact ⟨rfl, rfl, rfl⟩
  | succ steps =>
      rcases hCovers.least 0 (Nat.zero_lt_succ steps) with
        ⟨short, middle, -, hShort⟩
      exact absurd hShort (Nat.not_lt_zero short)

/- One step is needed, and then those for what is left. -/
theorem JustCovers.cons
    (hAdvance : tracker.advance = .ok (ticks, moved))
    (hWanted : wanted ≠ 0)
    (hRest :
      moved.JustCovers (wanted - ticks) steps rest last) :
    tracker.JustCovers wanted (steps + 1) (ticks + rest)
      last := by
  have hEnough := hRest.enough
  refine ⟨advanceTimes_succ hAdvance hRest.times_eq,
    by omega, ?_⟩
  intro fewer hFewer
  cases fewer with
  | zero =>
      exact ⟨0, tracker, rfl, Nat.pos_of_ne_zero hWanted⟩
  | succ fewer =>
      rcases hRest.least fewer (by omega) with
        ⟨short, middle, hTimes, hShort⟩
      exact ⟨ticks + short, middle,
        advanceTimes_succ hAdvance hTimes, by omega⟩

theorem justCovers_of_advanceFurther
    {covered total : Nat}
    (hRun :
      tracker.advanceFurther wanted covered =
        .ok (total, last)) :
    ∃ steps ticks,
      total = covered + ticks ∧
        tracker.JustCovers wanted steps ticks last := by
  -- The induction is on the ticks that are left to cover.
  induction wanted using Nat.strongRecOn
    generalizing tracker covered with
  | ind wanted ih =>
      by_cases hWanted : wanted = 0
      · subst hWanted
        rw [advanceFurther_zero] at hRun
        cases hRun
        exact ⟨0, 0, rfl, justCovers_zero _⟩
      · cases hAdvance : tracker.advance with
        | error fault =>
            rw [advanceFurther_of_error hAdvance hWanted]
              at hRun
            cases hRun
        | ok outcome =>
            rcases outcome with ⟨first, moved⟩
            have hPos := ticks_pos_of_advance hAdvance
            rw [advanceFurther_of_ok hAdvance hWanted]
              at hRun
            rcases ih (wanted - first) (by omega) hRun with
              ⟨steps, rest, hTotal, hRest⟩
            exact ⟨steps + 1, first + rest, by omega,
              hRest.cons hAdvance hWanted⟩

/- Whatever tracker it is, it takes no step too many. -/
theorem justCovers_of_advanceAtLeast
    (hRun :
      tracker.advanceAtLeast wanted = .ok (ticks, last)) :
    ∃ steps, tracker.JustCovers wanted steps ticks last := by
  rcases justCovers_of_advanceFurther hRun with
    ⟨steps, found, hTicks, hCovers⟩
  rw [Nat.zero_add] at hTicks
  subst hTicks
  exact ⟨steps, hCovers⟩

/-
  Some macro steps do not cover the wanted ticks, and the one
  after them is a fault.
-/
def StopsShort
    (tracker : Tracker)
    (wanted : Nat)
    (fault : Fault) : Prop :=
  ∃ steps short middle,
    tracker.advanceTimes steps = .ok (short, middle) ∧
      short < wanted ∧ middle.advance = .error fault

theorem stopsShort_of_advanceFurther
    {covered : Nat}
    {fault : Fault}
    (hRun :
      tracker.advanceFurther wanted covered =
        .error fault) :
    tracker.StopsShort wanted fault := by
  induction wanted using Nat.strongRecOn
    generalizing tracker covered with
  | ind wanted ih =>
      by_cases hWanted : wanted = 0
      · subst hWanted
        rw [advanceFurther_zero] at hRun
        cases hRun
      · cases hAdvance : tracker.advance with
        | error found =>
            rw [advanceFurther_of_error hAdvance hWanted]
              at hRun
            cases hRun
            exact ⟨0, 0, tracker, rfl, by omega, hAdvance⟩
        | ok outcome =>
            rcases outcome with ⟨first, moved⟩
            have hPos := ticks_pos_of_advance hAdvance
            rw [advanceFurther_of_ok hAdvance hWanted]
              at hRun
            rcases ih (wanted - first) (by omega) hRun with
              ⟨steps, short, middle, hTimes, hShort, hEnd⟩
            exact ⟨steps + 1, first + short, middle,
              advanceTimes_succ hAdvance hTimes, by omega,
              hEnd⟩

/- A fault is that of one of the macro steps. -/
theorem stopsShort_of_advanceAtLeast
    {fault : Fault}
    (hRun : tracker.advanceAtLeast wanted = .error fault) :
    tracker.StopsShort wanted fault :=
  stopsShort_of_advanceFurther hRun

end Tracker

end LatticeGas

------------------------------------------------------------
-- Overshooting
------------------------------------------------------------

namespace LatticeGas

/- No macro step covers more than twice the seed's side. -/
theorem Frame.ticks_le
    (level call : Nat) :
    ticks level call ≤ sideOfLevel (level + 1) := by
  have hSide := sideOfLevel_succ level
  unfold ticks
  by_cases hLong : call % 3 = 2
  · rw [if_pos hLong]
  · rw [if_neg hLong]
    omega

namespace Tracker

variable {tracker last : Tracker}
variable {plane : Plane}
variable {side level done steps ticks wanted : Nat}

/- The macro step that was taken is the one that was next. -/
theorem Follows.of_advance_eq_ok
    (hSeeded : plane.SeededAt side level)
    (hFollows : tracker.Follows plane side level done)
    (hAdvance : tracker.advance = .ok (ticks, last)) :
    last.Follows plane side level (done + 1) ∧
      ticks = Frame.ticks level (done + 1) := by
  rw [advance_eq_call] at hAdvance
  rcases Arena.answered_of_map hAdvance with
    ⟨call, hCall, hEnd⟩
  cases hEnd
  have hNumbered :=
    ((hFollows.call hSeeded).of_ok hCall).1
  exact ⟨hNumbered.follows, hNumbered.ticks_eq⟩

/- What the ticks of some macro steps are, by their number. -/
theorem Follows.of_advanceTimes
    (hSeeded : plane.SeededAt side level)
    (hFollows : tracker.Follows plane side level done)
    (hTimes : tracker.advanceTimes steps = .ok (ticks, last)) :
    last.Follows plane side level (done + steps) ∧
      last.elapsed = tracker.elapsed + ticks := by
  induction steps generalizing tracker ticks done with
  | zero =>
      cases hTimes
      exact ⟨hFollows, rfl⟩
  | succ steps ih =>
      rcases Arena.answered_of_bind hTimes with
        ⟨⟨first, moved⟩, hAdvance, hRest⟩
      rcases Arena.answered_of_bind hRest with
        ⟨⟨rest, reached⟩, hTimes, hEnd⟩
      cases hEnd
      rcases hFollows.of_advance_eq_ok hSeeded hAdvance with
        ⟨hMoved, hFirst⟩
      rcases ih hMoved hTimes with ⟨hLast, hTime⟩
      rw [Nat.add_right_comm] at hLast
      refine ⟨hLast, ?_⟩
      rw [hTime, hMoved.elapsed_eq, Frame.elapsed_succ,
        hFollows.elapsed_eq, hFirst, Nat.add_assoc]

/-
  Before the last step the wanted ticks were not covered yet,
  so that step alone bounds by how much they are exceeded.
-/
theorem Follows.overshoot
    (hSeeded : plane.SeededAt side level)
    (hFollows : tracker.Follows plane side level done)
    (hCovers : tracker.JustCovers wanted steps ticks last) :
    ticks < wanted + sideOfLevel (level + 1) := by
  have hSide := sideOfLevel_pos (level + 1)
  rcases hFollows.of_advanceTimes hSeeded
      hCovers.times_eq with ⟨hLast, hTime⟩
  have hElapsed := hLast.elapsed_eq
  cases steps with
  | zero =>
      cases hCovers.times_eq
      omega
  | succ steps =>
      rcases hCovers.least steps (Nat.lt_succ_self steps) with
        ⟨short, middle, hTimes, hShort⟩
      rcases hFollows.of_advanceTimes hSeeded hTimes with
        ⟨hBefore, hMiddle⟩
      have hEarlier := hBefore.elapsed_eq
      have hStep := Frame.ticks_le level (done + steps + 1)
      rw [← Nat.add_assoc, Frame.elapsed_succ] at hElapsed
      omega

/-
  With enough numbers for the ticks, it is those for nodes
  that are used up, by the macro step that is a fault.
-/
theorem Follows.exhausted_of_stopsShort
    (hSeeded : plane.SeededAt side level)
    (hFollows : tracker.Follows plane side level done)
    {fault : Fault}
    (hTicks :
      tracker.elapsed + wanted + sideOfLevel (level + 1) <
        countLimit)
    (hStops : tracker.StopsShort wanted fault) :
    fault = .exhausted ∧
      ∃ steps short middle,
        tracker.advanceTimes steps = .ok (short, middle) ∧
          short < wanted ∧
          middle.advance = .error .exhausted ∧
          nodeLimit <
            middle.arena.size + moveNodes level 1 := by
  rcases hStops with
    ⟨steps, short, middle, hTimes, hShort, hEnd⟩
  rcases hFollows.of_advanceTimes hSeeded hTimes with
    ⟨hMiddle, hTime⟩
  have hCall := hEnd
  rw [advance_eq_call] at hCall
  cases hFound : middle.call with
  | ok call =>
      rw [hFound] at hCall
      cases hCall
  | error found =>
      rw [hFound] at hCall
      cases hCall
      have hStep :=
        Frame.ticks_le level (done + steps + 1)
      have hNodes :=
        callNodes_le_moveNodes level (done + steps + 1)
      cases (hMiddle.call hSeeded).excused_of_error hFound with
      | nodes hFull =>
          exact ⟨rfl, steps, short, middle, hTimes, hShort,
            hEnd, by omega⟩
      | ticks hLate => omega

/- With enough numbers any number of ticks is covered. -/
theorem Follows.exists_advanceAtLeast
    (hSeeded : plane.SeededAt side level)
    (hFollows : tracker.Follows plane side level done)
    (hNodes :
      tracker.arena.size + moveNodes level wanted ≤
        nodeLimit)
    (hTicks :
      tracker.elapsed + moveTicks level wanted <
        countLimit) :
    ∃ ticks last,
      tracker.advanceAtLeast wanted = .ok (ticks, last) := by
  rcases Barring.exists_ok
      (hFollows.callsFurther hSeeded wanted)
      (not_fallsShort hNodes hTicks) with
    ⟨⟨calls, last⟩, hCalls, -⟩
  refine ⟨totalTicks calls, last, ?_⟩
  rw [advanceAtLeast_eq_calls, hCalls]
  rfl

variable {L : Type}
variable [Lattice L]

/-
  After every run a tracker that is asked to cover some ticks
  comes to an end, if there are numbers for so many ticks and
  those of another macro step. It takes macro steps in a row,
  as few as cover them, and returns the sum of the ticks of
  these steps, which is what is added to the ticks that have
  passed before. This sum exceeds what was wanted by less than
  `2 ^ (level + 1)`, where `level` is the rounded logarithm
  of the side of the lattice. If nothing is wanted, then
  nothing is done. Or else a macro step on the way, when the
  ticks are not covered yet, uses up the numbers for nodes,
  and there were fewer of them than it may need.
-/
theorem advanceAtLeast_justCovers_of_run
    {lattice : L}
    {config : Config}
    {built : Tracker}
    (hBuild : build lattice config = .ok built)
    {level : Nat}
    (hLevel : level = Nat.clog 2 (Lattice.side lattice))
    (ops : List Op)
    (wanted : Nat) :
    Barring (built.RunsShort (Lattice.side lattice) ops)
      (fun reached =>
        reached.elapsed + wanted + 2 ^ (level + 1) <
            countLimit →
          Barring
            (fun fault =>
              fault = .exhausted ∧
                ∃ steps short middle,
                  reached.advanceTimes steps =
                      .ok (short, middle) ∧
                    short < wanted ∧
                    middle.advance = .error .exhausted ∧
                    nodeLimit <
                      middle.arena.size + moveNodes level 1)
            (fun (ticks, last) =>
              ∃ steps,
                Op.run (List.replicate steps .advance)
                    reached = .ok last ∧
                  reached.JustCovers wanted steps ticks last ∧
                  (wanted = 0 →
                    steps = 0 ∧ ticks = 0 ∧
                      last = reached) ∧
                  last.elapsed = reached.elapsed + ticks ∧
                  ticks - wanted < 2 ^ (level + 1))
            (reached.advanceAtLeast wanted))
      (Op.run ops built) := by
  rcases follows_of_build_eq_ok hBuild with ⟨hSeeded, -⟩
  rw [← seedLevel_eq_clog] at hLevel
  subst hLevel
  refine (barring_run_of_build_eq_ok hBuild ops).mono ?_
  rintro reached ⟨done, hFollows⟩ hTicks
  cases hEnd : reached.advanceAtLeast wanted with
  | error fault =>
      exact hFollows.exhausted_of_stopsShort hSeeded hTicks
        (stopsShort_of_advanceAtLeast hEnd)
  | ok outcome =>
      rcases outcome with ⟨ticks, last⟩
      rcases justCovers_of_advanceAtLeast hEnd with
        ⟨steps, hCovers⟩
      refine ⟨steps, run_replicate_advance hCovers.times_eq,
        hCovers, ?_, (hFollows.of_advanceTimes hSeeded
          hCovers.times_eq).2, ?_⟩
      · rintro rfl
        exact hCovers.eq_of_zero
      · have hBound := hFollows.overshoot hSeeded hCovers
        have hEnough := hCovers.enough
        rw [sideOfLevel_eq_pow] at hBound
        omega

/- Five ticks are asked for, and fewer than 13 are taken. -/
theorem advanceAtLeast_five_three_wide :
    ∃ built reached steps ticks last,
      build (⟨3, Cell.lone .xPos⟩ : Uniform) {} =
          .ok built ∧
        Op.run [.advance, .grow, .compact] built =
          .ok reached ∧
        reached.advanceAtLeast 5 = .ok (ticks, last) ∧
        reached.JustCovers 5 steps ticks last ∧
        last.elapsed = reached.elapsed + ticks ∧
        ticks < 13 := by
  have hReadable :=
    Lattice.readable_uniform ⟨3, Cell.lone .xPos⟩
  have hLevel : 2 = Nat.clog 2 3 := by decide
  rcases exists_built_run {} hReadable (by decide) rfl
      (by decide) [.advance, .grow, .compact] (by decide)
      (by decide) with
    ⟨built, calls, reached, hBuild, hCalls, hRun, hTicks,
      hSize⟩
  rcases follows_of_build_eq_ok hBuild with ⟨hSeeded, -⟩
  rcases (barring_run_of_build_eq_ok hBuild _).of_ok hRun with
    ⟨done, hFollows⟩
  have hRoom :
      reached.arena.size + moveNodes 2 5 ≤ nodeLimit :=
    (Nat.add_le_add_right hSize _).trans (by decide)
  have hTime : reached.elapsed + moveTicks 2 5 < countLimit :=
    (Nat.add_le_add_right hTicks _).trans_lt (by decide)
  rcases hFollows.exists_advanceAtLeast hSeeded hRoom hTime
    with ⟨ticks, last, hEnd⟩
  have hLater : reached.elapsed + 5 + 2 ^ 3 < countLimit :=
    (Nat.add_le_add_right (Nat.add_le_add_right hTicks _)
      _).trans_lt (by decide)
  rcases ((advanceAtLeast_justCovers_of_run hBuild hLevel _
      5).of_ok hRun hLater).of_ok hEnd with
    ⟨steps, -, hCovers, -, hElapsed, hBound⟩
  exact ⟨built, reached, steps, ticks, last, hBuild, hRun,
    hEnd, hCovers, hElapsed, by omega⟩

/-
  The ticks are not always covered. One macro step of this
  lattice would cover more than the single one that is wanted.
-/
theorem advanceAtLeast_one_exhausted :
    ∃ built,
      build (⟨256, Cell.empty⟩ : Uniform)
          ⟨false, false, none⟩ = .ok built ∧
        built.elapsed + 1 + 2 ^ (Nat.clog 2 256 + 1) <
          countLimit ∧
        built.advanceAtLeast 1 = .error .exhausted := by
  rcases exists_advance_exhausted with
    ⟨built, hBuild, hAdvance⟩
  have hElapsed : built.elapsed = 0 :=
    (follows_of_build_eq_ok hBuild).2.elapsed_eq
  have hLevel : Nat.clog 2 256 = 8 := by decide
  refine ⟨built, hBuild, ?_,
    advanceFurther_of_error hAdvance Nat.one_ne_zero 0⟩
  rw [hElapsed, hLevel]
  decide

end Tracker

end LatticeGas
