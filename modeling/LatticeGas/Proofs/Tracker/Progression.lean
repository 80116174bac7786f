import LatticeGas.Proofs.Tracker.Exhaustion
import Mathlib.Data.Nat.Log

/-
  This file shows how far each macro step of a tracker goes
  and where it leaves the region. This depends only on the
  side of the lattice and on the number of the step, not on
  the cells, the configuration or what is done in between.

  Key theorems include:
    * `Tracker.seedLevel_eq_clog`
    * `Tracker.closed_form_of_call`
-/

------------------------------------------------------------
-- Levels of Lattices
------------------------------------------------------------

namespace LatticeGas

theorem sideOfLevel_eq_pow
    (level : Nat) :
    sideOfLevel level = 2 ^ level :=
  rfl

namespace Tracker

/- The seed level is the logarithm of the side, rounded up. -/
theorem seedLevel_eq_clog
    (side : Nat) :
    seedLevel side = Nat.clog 2 side := by
  apply Nat.le_antisymm
  · rw [seedLevel_le_iff, sideOfLevel_eq_pow]
    exact Nat.le_pow_clog Nat.one_lt_two side
  · apply Nat.clog_le_of_le_pow
    rw [← sideOfLevel_eq_pow]
    exact le_sideOfLevel_seedLevel side

/- Squares of the highest level have a side of `2 ^ 36`. -/
theorem seedLevel_le_maxSeedLevel_iff
    (side : Nat) :
    seedLevel side ≤ maxSeedLevel ↔ side ≤ 2 ^ 36 :=
  seedLevel_le_iff side maxSeedLevel

/- Lattices of at most this side are not refused. -/
theorem seedLevel_le_maxSeedLevel
    {side : Nat}
    (hSize : side ≤ 2 ^ 36) :
    seedLevel side ≤ maxSeedLevel :=
  (seedLevel_le_maxSeedLevel_iff side).mpr hSize

end Tracker

end LatticeGas

------------------------------------------------------------
-- Closed Forms
------------------------------------------------------------

namespace LatticeGas

/-
  How far along both axes the region starts after the given
  number of macro steps, at least one, from a seed level.
-/
theorem Frame.settled_eq
    (level : Nat)
    {call : Nat}
    (hCall : 1 ≤ call) :
    settled level call =
      { level :=
          if call % 3 = 2 then level + 2 else level + 1
        origin :=
          if level % 2 = 0 then
            if call % 3 = 0 then 0 else 2 ^ level
          else
            if call % 3 = 1 then 0
            else if call % 3 = 2 then 2 ^ (level + 1)
            else 2 ^ level } := by
  have hStart : call ≠ 0 := by omega
  simp only [settled, if_neg hStart, sideOfLevel_eq_pow]
  rcases mod_three_cases call with hMod | hMod | hMod
  · by_cases hEven : level % 2 = 0
    · simp [hMod, hEven]
    · simp [hMod, hEven]
  · by_cases hEven : level % 2 = 0
    · simp [hMod, hEven]
    · simp [hMod, hEven]
  · by_cases hEven : level % 2 = 0
    · simp [hMod, hEven]
    · simp [hMod, hEven]

namespace Tracker

variable {L : Type}
variable [Lattice L]

/- The next macro step, or what there is too little of. -/
theorem Follows.advance_closed_form
    {tracker : Tracker}
    {plane : Plane}
    {side level done : Nat}
    (hSeeded : plane.SeededAt side level)
    (hFollows : tracker.Follows plane side level done) :
    Barring
      (fun fault =>
        fault = .exhausted ∧
            nodeLimit <
              tracker.arena.size +
                callNodes level (done + 1) ∨
          fault = .sumOverflow ∧
            countLimit ≤
              2 ^ level * (done + 1 + (done + 1 + 1) / 3))
      (fun record =>
        record.1 =
          if (done + 1) % 3 = 2 then 2 ^ (level + 1)
          else 2 ^ level)
      tracker.advance := by
  rw [advance_eq_call]
  refine Barring.map (Barring.imp (hFollows.call hSeeded) ?_
    fun _ _ hCall => hCall) ?_
  · intro fault hShort
    cases hShort with
    | nodes hNodes => exact Or.inl ⟨rfl, hNodes⟩
    | ticks hTicks =>
        rw [hFollows.elapsed_eq, ← Frame.elapsed_succ]
          at hTicks
        exact Or.inr ⟨rfl, hTicks⟩
  · rintro call ⟨hNumbered, -⟩
    exact hNumbered.ticks_eq

/-
  For a lattice whose side has the rounded logarithm `level`,
  the macro step number `k` covers `2 ^ (level + 1)` ticks if
  `k % 3 = 2`, and `2 ^ level` ticks otherwise. After it the
  ticks, the level and the origin are as stated. Macro steps
  that are taken to cover a number of ticks are counted as
  well, and nodes never lie more than three levels above the
  seed. A run only stops when the numbers for nodes or those
  for ticks are used up. The step that comes next stops so
  only if there are fewer of them left than it may need.
-/
theorem closed_form_of_call
    {lattice : L}
    {config : Config}
    {built : Tracker}
    (hBuild : build lattice config = .ok built)
    {level : Nat}
    (hLevel : level = Nat.clog 2 (Lattice.side lattice))
    (ops : List Op) :
    level + 3 < maxLevel ∧
    Barring (built.RunsShort (Lattice.side lattice) ops)
      (fun (calls, reached) =>
        Op.run ops built = .ok reached ∧
        ops.count .advance ≤ calls.length ∧
        (∀ (k : Nat) (call : Call),
          1 ≤ k → calls[k - 1]? = some call →
            call.before.advance =
                .ok (if k % 3 = 2 then 2 ^ (level + 1)
                    else 2 ^ level, call.after) ∧
              call.after.elapsed =
                2 ^ level * (k + (k + 1) / 3) ∧
              call.after.level =
                .ok (if k % 3 = 2 then level + 2
                  else level + 1) ∧
              call.after.region.originX =
                (if level % 2 = 0 then
                  if k % 3 = 0 then 0 else 2 ^ level
                else
                  if k % 3 = 1 then 0
                  else if k % 3 = 2 then 2 ^ (level + 1)
                  else 2 ^ level) ∧
              call.after.region.originY =
                call.after.region.originX ∧
              call.leapt.arena.LevelsUpTo (level + 3) ∧
              call.after.arena.LevelsUpTo (level + 3)) ∧
        reached.arena.LevelsUpTo (level + 3) ∧
        ∀ k : Nat,
          k = calls.length + 1 →
            Barring
              (fun fault =>
                fault = .exhausted ∧
                    nodeLimit <
                      reached.arena.size +
                        callNodes level k ∨
                  fault = .sumOverflow ∧
                    countLimit ≤
                      2 ^ level * (k + (k + 1) / 3))
              (fun record =>
                record.1 =
                  if k % 3 = 2 then 2 ^ (level + 1)
                  else 2 ^ level)
              reached.advance)
      (Op.runCalls ops built) := by
  rcases of_build_eq_ok hBuild with ⟨-, -, hMax⟩
  rcases continues_of_build_eq_ok hBuild ops with
    ⟨hSeeded, hRuns⟩
  rw [← seedLevel_eq_clog] at hLevel
  rw [← hLevel] at hSeeded hRuns hMax
  have hHeadroom : maxSeedLevel + 3 < maxLevel := by decide
  refine ⟨by omega, hRuns.imp (fun _ hShort => hShort) ?_⟩
  rintro ⟨calls, reached⟩ hCalls hContinues
  refine ⟨?_, Op.count_advance_le_length hCalls, ?_,
    hContinues.follows.levels_le, ?_⟩
  · rw [Op.run_eq_runCalls, hCalls]
    rfl
  · intro k call hk hCall
    obtain ⟨i, rfl⟩ : ∃ i, k = i + 1 := ⟨k - 1, by omega⟩
    have hNumbered := hContinues.numbered i call hCall
    rw [Nat.zero_add] at hNumbered
    have hShows := hNumbered.after_shows
    rw [Frame.settled_eq level (by omega)] at hShows
    have hRegion := hShows.region_eq
    refine ⟨?_, hNumbered.elapsed_eq, hShows.level_eq, ?_, ?_,
      hNumbered.leapt_shows.levels_le, hShows.levels_le⟩
    · rw [hNumbered.advance_eq, hNumbered.ticks_eq]
      rfl
    · rw [hRegion]
      rfl
    · rw [hRegion]
      rfl
  · rintro k rfl
    have hFollows := hContinues.follows
    rw [Nat.zero_add] at hFollows
    exact hFollows.advance_closed_form hSeeded

/- The second macro step of a lattice of side three. -/
theorem second_call_three_wide :
    ∃ built calls reached call,
      build (⟨3, Cell.lone .xPos⟩ : Uniform) {} =
          .ok built ∧
        Op.runCalls [.advance, .grow, .compact, .advance]
            built = .ok (calls, reached) ∧
          calls[1]? = some call ∧
            call.before.advance = .ok (8, call.after) ∧
              call.after.elapsed = 12 ∧
              call.after.level = .ok 4 ∧
              call.after.region.originX = 4 := by
  have hReadable :=
    Lattice.readable_uniform ⟨3, Cell.lone .xPos⟩
  have hLevel : 2 = Nat.clog 2 3 := by decide
  rcases exists_built_run {} hReadable (by decide) rfl
      (by decide) [.advance, .grow, .compact, .advance]
      (by decide) (by decide) with
    ⟨built, calls, reached, hBuild, hCalls, -, -⟩
  rcases (closed_form_of_call hBuild hLevel _).2.of_ok hCalls
    with ⟨-, hCount, hForm, -⟩
  have hSecond : 1 < calls.length := hCount
  have hCall := List.getElem?_eq_getElem hSecond
  rcases hForm 2 calls[1] (by decide) hCall with
    ⟨hAdvance, hElapsed, hAfter, hOrigin, -⟩
  exact ⟨built, calls, reached, calls[1], hBuild, hCalls,
    hCall, hAdvance, hElapsed, hAfter, hOrigin⟩

/-
  A macro step does not always cover the ticks that are due.
  The first one of this lattice would cover 256 of them.
-/
theorem first_call_exhausted :
    ∃ built,
      build (⟨256, Cell.empty⟩ : Uniform)
          ⟨false, false, none⟩ = .ok built ∧
        Nat.clog 2 256 = 8 ∧
        built.advance = .error .exhausted ∧
        ∀ after, built.advance ≠ .ok (2 ^ 8, after) := by
  rcases exists_advance_exhausted with
    ⟨built, hBuild, hAdvance⟩
  refine ⟨built, hBuild, by decide, hAdvance, ?_⟩
  intro after hAfter
  rw [hAdvance] at hAfter
  cases hAfter

end Tracker

end LatticeGas
