import LatticeGas.Proofs.Tracker.Runs
import LatticeGas.Proofs.Tracker.SeedCost

/-
  This file shows that a tracker follows the gas through
  every run. No operation is a fault as long as there are
  numbers for nodes and ticks, and each macro step finds the
  tracker in the frame that the number of the macro steps
  before it determines.

  Key definitions include:
    * `Plane.SeededAt`
    * `Tracker.Follows`
    * `Tracker.Call.Numbered`
    * `Tracker.callNodes`
    * `Tracker.Continues`
    * `Tracker.Completes`
    * `Tracker.RunsShort`

  Key theorems include:
    * `Tracker.Follows.call`
    * `Tracker.Follows.calls`
    * `Tracker.Follows.runCalls`
    * `Tracker.follows_of_build_eq_ok`
    * `Tracker.continues_of_build_eq_ok`
    * `Tracker.exists_built_run`
-/

------------------------------------------------------------
-- Following the Gas
------------------------------------------------------------

namespace LatticeGas

/-
  The plane has walls around a square part at the origin. The
  level is the lowest one of a square that is not smaller,
  and there are levels left above it.
-/
structure Plane.SeededAt
    (plane : Plane)
    (side level : Nat) : Prop where
  walled : plane.WalledOutside side
  fits : side ≤ sideOfLevel level
  tight : sideOfLevel level < 2 * side
  headroom : level + 3 ≤ maxLevel

namespace Tracker

/-
  The tracker has taken the given number of macro steps from
  the plane on. It is in the frame of the last of them or in
  that of the next one, and no node lies more than three
  levels above the seed.
-/
structure Follows
    (tracker : Tracker)
    (plane : Plane)
    (side level done : Nat) : Prop where
  shows :
    tracker.Shows plane side (level + 3)
        (Frame.settled level done) ∨
      tracker.Shows plane side (level + 3)
        (Frame.padded level done)
  elapsed_eq : tracker.elapsed = Frame.elapsed level done

/-
  The record belongs to the macro step that comes after the
  given number of others.
-/
structure Call.Numbered
    (call : Call)
    (plane : Plane)
    (side level done : Nat) : Prop where
  grow_eq : call.before.grow = .ok call.padded
  padded_shows :
    call.padded.Shows plane side (level + 3)
      (Frame.padded level done)
  level_eq : call.level = (Frame.padded level done).level
  advance_eq :
    call.before.advance = .ok (call.ticks, call.after)
  leapt_shows :
    call.leapt.Shows plane side (level + 3)
      (Frame.settled level (done + 1))
  after_shows :
    call.after.Shows plane side (level + 3)
      (Frame.settled level (done + 1))
  elapsed_eq :
    call.after.elapsed = Frame.elapsed level (done + 1)

variable {tracker : Tracker}
variable {plane : Plane}
variable {side level done : Nat}

/- The next macro step is taken in a central frame. -/
theorem central_padded
    (hSeeded : plane.SeededAt side level)
    (done : Nat) :
    (Frame.padded level done).Central side :=
  (Frame.growsTo_padded hSeeded.fits hSeeded.tight
    done).central

theorem Call.Numbered.follows
    {call : Call}
    (hCall : call.Numbered plane side level done) :
    call.after.Follows plane side level (done + 1) :=
  ⟨Or.inl hCall.after_shows, hCall.elapsed_eq⟩

theorem Call.Numbered.ticks_eq
    {call : Call}
    (hCall : call.Numbered plane side level done) :
    call.ticks = Frame.ticks level (done + 1) := by
  unfold Call.ticks
  rw [hCall.level_eq, Frame.quarter_padded]

/- The tracker shows the plane in one of the frames. -/
theorem Follows.exists_shows
    (hFollows : tracker.Follows plane side level done) :
    ∃ frame,
      tracker.Shows plane side (level + 3) frame := by
  rcases hFollows.shows with hSettled | hPadded
  · exact ⟨Frame.settled level done, hSettled⟩
  · exact ⟨Frame.padded level done, hPadded⟩

theorem Follows.levels_le
    (hFollows : tracker.Follows plane side level done) :
    tracker.arena.LevelsUpTo (level + 3) := by
  rcases hFollows.exists_shows with ⟨frame, hShows⟩
  exact hShows.levels_le

end Tracker

end LatticeGas

------------------------------------------------------------
-- Single Operations
------------------------------------------------------------

namespace LatticeGas

namespace Tracker

variable {tracker : Tracker}
variable {plane : Plane}
variable {side level done : Nat}

/-
  How many nodes a macro step takes at most, counted from one:
  those of two wraps, and those of the step of the padded
  square.
-/
def callNodes (level call : Nat) : Nat :=
  2 * (level + 4) +
    Square.stepCost
      (if call % 3 = 2 then level + 1 else level)

/- Growth leads to the frame of the next macro step. -/
theorem Follows.grow
    (hSeeded : plane.SeededAt side level)
    (hFollows : tracker.Follows plane side level done) :
    tracker.Spends (2 * (level + 4)) 0
      (fun after =>
        after.Shows plane side (level + 3)
          (Frame.padded level done))
      tracker.grow := by
  have hTop := Frame.level_padded_le level done
  have hMax := Nat.le_trans hTop hSeeded.headroom
  have hTwo := Frame.level_padded_le_settled level done
  rcases hFollows.shows with hSettled | hPadded
  · have hGrows :=
      Frame.growsTo_padded hSeeded.fits hSeeded.tight done
    exact (hSettled.grow hSeeded.walled hGrows hMax hTop).mono
      (Nat.mul_le_mul (by omega) (by omega))
      fun _ hShows => hShows
  · have hCentral := central_padded hSeeded done
    exact (hPadded.grow hSeeded.walled (.done hCentral) hMax
      hTop).mono
        (Nat.mul_le_mul (by omega) (by omega))
        fun _ hShows => hShows

/- Compaction stays in the frame. -/
theorem Follows.compact
    (hFollows : tracker.Follows plane side level done) :
    tracker.Spends 0 0
      (fun after => after.Follows plane side level done)
      tracker.compact := by
  rcases hFollows.shows with hSettled | hPadded
  · refine hSettled.compact.imp (fun _ hShort => hShort) ?_
    rintro after - ⟨hSize, hTime, hShows⟩
    exact ⟨hSize, hTime, Or.inl hShows,
      hTime.trans hFollows.elapsed_eq⟩
  · refine hPadded.compact.imp (fun _ hShort => hShort) ?_
    rintro after - ⟨hSize, hTime, hShows⟩
    exact ⟨hSize, hTime, Or.inr hShows,
      hTime.trans hFollows.elapsed_eq⟩

/- The square is padded, and moves on by a macro step. -/
theorem Follows.spends_call
    (hSeeded : plane.SeededAt side level)
    (hFollows : tracker.Follows plane side level done) :
    Barring
      (tracker.FallsShort (callNodes level (done + 1))
        (Frame.ticks level (done + 1)))
      (fun call =>
        tracker.grow = .ok call.padded ∧
          call.before = tracker ∧
          call.padded.Shows plane side (level + 3)
            (Frame.padded level done) ∧
          call.level = (Frame.padded level done).level ∧
          call.leapt.Shows plane side (level + 3)
            (Frame.settled level (done + 1)) ∧
          call.after.Shows plane side (level + 3)
            (Frame.settled level (done + 1)) ∧
          call.after.arena.size ≤
            tracker.arena.size + callNodes level (done + 1) ∧
          call.after.elapsed =
            tracker.elapsed + Frame.ticks level (done + 1))
      tracker.call := by
  have hCentral := central_padded hSeeded done
  have hGrow := hFollows.grow hSeeded
  have hNodes :
      callNodes level (done + 1) =
        2 * (level + 4) +
          Square.stepCost
            ((Frame.padded level done).level - 2) := by
    rw [Frame.level_padded_sub]
    rfl
  unfold Tracker.call
  refine Barring.bind (hGrow.imp ?_ fun _ _ hDone => hDone) ?_
  · intro fault hShort
    exact hShort.mono (by omega) (Nat.zero_le _)
  rintro padded hGrown ⟨hSize, hTime, hPadded⟩
  rw [hPadded.level_eq]
  change Barring _ _ (padded.leap _ >>= _)
  have hLeap := hPadded.leap hCentral
  rw [Frame.quarter_padded, Frame.leap_padded] at hLeap
  refine Barring.bind (hLeap.imp ?_ fun _ _ hDone => hDone) ?_
  · intro fault hShort
    exact (Within.fallsShort ⟨hSize, hTime.le⟩ hShort).mono
      (by omega) (by omega)
  rintro leapt - ⟨hLeaptSize, hLeaptTime, hLeapt⟩
  refine Barring.bind (hLeapt.compactIfFull.imp ?_
    fun _ _ hDone => hDone) ?_
  · intro fault hShort
    have hMoved :=
      Within.trans ⟨hSize, hTime.le⟩
        ⟨hLeaptSize, hLeaptTime.le⟩
    exact (hMoved.fallsShort hShort).mono (by omega)
      (by omega)
  rintro after - ⟨hAfterSize, hAfterTime, hAfter⟩
  refine ⟨hGrown, rfl, hPadded, rfl, hLeapt, hAfter, ?_, ?_⟩
  · simp only
    omega
  · simp only
    omega

/- A macro step is the one that comes next. -/
theorem Follows.call
    (hSeeded : plane.SeededAt side level)
    (hFollows : tracker.Follows plane side level done) :
    Barring
      (tracker.FallsShort (callNodes level (done + 1))
        (Frame.ticks level (done + 1)))
      (fun call =>
        call.Numbered plane side level done ∧
          tracker.Within (callNodes level (done + 1))
            (Frame.ticks level (done + 1)) call.after)
      tracker.call := by
  refine (hFollows.spends_call hSeeded).imp
    (fun _ hShort => hShort) ?_
  rintro call hCall ⟨hGrow, rfl, hPadded, hLevel, hLeapt,
    hAfter, hSize, hTime⟩
  refine ⟨⟨hGrow, hPadded, hLevel, ?_, hLeapt, hAfter, ?_⟩,
    hSize, hTime.le⟩
  · rw [advance_eq_call, hCall]
    rfl
  · rw [hTime, hFollows.elapsed_eq, Frame.elapsed_succ]

end Tracker

end LatticeGas

------------------------------------------------------------
-- Runs
------------------------------------------------------------

namespace LatticeGas

namespace Tracker

/-
  The records belong to the macro steps that come after the
  given number of others, and the tracker follows the gas
  after the last of them.
-/
structure Continues
    (plane : Plane)
    (side level done : Nat)
    (calls : List Call)
    (last : Tracker) : Prop where
  numbered :
    ∀ (i : Nat) (call : Call),
      calls[i]? = some call →
        call.Numbered plane side level (done + i)
  follows :
    last.Follows plane side level (done + calls.length)

variable {tracker last : Tracker}
variable {plane : Plane}
variable {side level done : Nat}

theorem Continues.nil
    (hFollows : tracker.Follows plane side level done) :
    Continues plane side level done [] tracker := by
  constructor
  · intro i call hCall
    cases hCall
  · exact hFollows

/- More records go behind those that are there. -/
theorem Continues.append
    {first rest : List Call}
    (hFirst :
      ∀ (i : Nat) (call : Call),
        first[i]? = some call →
          call.Numbered plane side level (done + i))
    (hRest :
      Continues plane side level (done + first.length) rest
        last) :
    Continues plane side level done (first ++ rest) last := by
  constructor
  · intro i call hCall
    rw [List.getElem?_append] at hCall
    by_cases hOld : i < first.length
    · rw [if_pos hOld] at hCall
      exact hFirst i call hCall
    · rw [if_neg hOld] at hCall
      have hNumber :
          done + first.length + (i - first.length) =
            done + i := by
        omega
      rw [← hNumber]
      exact hRest.numbered (i - first.length) call hCall
  · rw [List.length_append, ← Nat.add_assoc]
    exact hRest.follows

/- A single record is the one of the next macro step. -/
theorem numbered_singleton
    {call : Call}
    (hCall : call.Numbered plane side level done)
    (i : Nat)
    (found : Call)
    (hFound : [call][i]? = some found) :
    found.Numbered plane side level (done + i) := by
  cases i with
  | zero =>
      cases hFound
      exact hCall
  | succ i => cases hFound

/-
  What so many moves take at most, each of them growth or a
  macro step.
-/
def moveNodes (level moves : Nat) : Nat :=
  moves * (2 * (level + 4) + Square.stepCost (level + 1))

def moveTicks (level moves : Nat) : Nat :=
  moves * sideOfLevel (level + 1)

theorem callNodes_le_moveNodes
    (level call : Nat) :
    callNodes level call ≤ moveNodes level 1 := by
  have hStep :
      Square.stepCost level ≤ Square.stepCost (level + 1) := by
    rw [Square.stepCost]
    omega
  unfold callNodes moveNodes
  split
  · omega
  · omega

theorem ticks_le_moveTicks
    (level call : Nat) :
    Frame.ticks level call ≤ moveTicks level 1 := by
  have hSide := sideOfLevel_succ level
  unfold Frame.ticks moveTicks
  split
  · omega
  · omega

theorem moveNodes_add
    (level moves more : Nat) :
    moveNodes level (moves + more) =
      moveNodes level moves + moveNodes level more :=
  Nat.add_mul moves more _

theorem moveTicks_add
    (level moves more : Nat) :
    moveTicks level (moves + more) =
      moveTicks level moves + moveTicks level more :=
  Nat.add_mul moves more _

theorem moveNodes_mono
    (level : Nat)
    {moves more : Nat}
    (hMoves : moves ≤ more) :
    moveNodes level moves ≤ moveNodes level more :=
  Nat.mul_le_mul_right _ hMoves

theorem moveTicks_mono
    (level : Nat)
    {moves more : Nat}
    (hMoves : moves ≤ more) :
    moveTicks level moves ≤ moveTicks level more :=
  Nat.mul_le_mul_right _ hMoves

/- How many moves an operation has at most. -/
def Op.moves : Op → Nat
| .advance => 1
| .advanceAtLeast ticks => ticks
| .grow => 1
| .compact => 0

/- How many moves several operations have at most. -/
def Op.totalMoves : List Op → Nat
| [] => 0
| op :: ops => op.moves + totalMoves ops

/-
  The records come after the given number of others, and the
  last tracker takes no more than so many moves do. If there
  are too few numbers for these, they may be missing.
-/
def Completes
    (tracker : Tracker)
    (plane : Plane)
    (side level done moves : Nat) :
    Except Fault (List Call × Tracker) → Prop :=
  Barring
    (tracker.FallsShort (moveNodes level moves)
      (moveTicks level moves))
    fun record =>
      Continues plane side level done record.1 record.2 ∧
        tracker.Within (moveNodes level moves)
          (moveTicks level moves) record.2

/- More records come from the tracker that was reached. -/
theorem Completes.append
    {first : List Call}
    {next : Tracker}
    {moves more : Nat}
    {outcome : Except Fault (List Call × Tracker)}
    (hFirst :
      ∀ (i : Nat) (call : Call),
        first[i]? = some call →
          call.Numbered plane side level (done + i))
    (hNext :
      tracker.Within (moveNodes level moves)
        (moveTicks level moves) next)
    (hRest :
      next.Completes plane side level (done + first.length)
        more outcome) :
    tracker.Completes plane side level done (moves + more)
      (outcome.map fun record =>
        (first ++ record.1, record.2)) := by
  unfold Completes
  rw [moveNodes_add, moveTicks_add]
  refine Barring.map (Barring.imp hRest ?_
    fun _ _ hRecord => hRecord) ?_
  · intro fault hShort
    exact hNext.fallsShort hShort
  · rintro ⟨rest, reached⟩ ⟨hReached, hWithin⟩
    exact ⟨Continues.append hFirst hReached,
      hNext.trans hWithin⟩

theorem Completes.mono
    {moves more : Nat}
    {outcome : Except Fault (List Call × Tracker)}
    (hOutcome :
      tracker.Completes plane side level done moves outcome)
    (hMoves : moves ≤ more) :
    tracker.Completes plane side level done more outcome := by
  have hNodes := moveNodes_mono level hMoves
  have hTicks := moveTicks_mono level hMoves
  exact Barring.imp hOutcome
    (fun _ hShort => hShort.mono hNodes hTicks)
    fun _ _ hRecord =>
      ⟨hRecord.1, hRecord.2.mono hNodes hTicks⟩

/- The next macro step is one move. -/
theorem Follows.call_of_move
    (hSeeded : plane.SeededAt side level)
    (hFollows : tracker.Follows plane side level done) :
    Barring
      (tracker.FallsShort (moveNodes level 1)
        (moveTicks level 1))
      (fun call =>
        call.Numbered plane side level done ∧
          tracker.Within (moveNodes level 1)
            (moveTicks level 1) call.after)
      tracker.call := by
  have hNodes := callNodes_le_moveNodes level (done + 1)
  have hTicks := ticks_le_moveTicks level (done + 1)
  exact (hFollows.call hSeeded).imp
    (fun _ hShort => hShort.mono hNodes hTicks)
    fun _ _ hCall => ⟨hCall.1, hCall.2.mono hNodes hTicks⟩

/- Any number of ticks is covered by macro steps. -/
theorem Follows.callsFurther
    (hSeeded : plane.SeededAt side level)
    (hFollows : tracker.Follows plane side level done)
    (wanted : Nat) :
    tracker.Completes plane side level done wanted
      (tracker.callsFurther wanted) := by
  induction wanted using Nat.strongRecOn
    generalizing tracker done with
  | ind wanted ih =>
      rw [Tracker.callsFurther]
      by_cases hWanted : wanted = 0
      · rw [if_pos hWanted]
        exact ⟨Continues.nil hFollows, by simp, by simp⟩
      · rw [if_neg hWanted]
        rcases (hFollows.call_of_move hSeeded).cases with
          ⟨fault, hCall, hShort⟩ |
          ⟨call, hCall, hNumbered, hWithin⟩
        · rw [hCall]
          exact hShort.mono
            (moveNodes_mono level (by omega))
            (moveTicks_mono level (by omega))
        · have hPos := ticks_pos_of_call call
          have hRest := ih (wanted - call.ticks) (by omega)
            hNumbered.follows
          have hAll := (Completes.append
            (numbered_singleton hNumbered) hWithin
              hRest).mono (by omega : _ ≤ wanted)
          rw [hCall]
          simp only
          cases hRun : call.after.callsFurther
              (wanted - call.ticks) with
          | error fault =>
              rw [hRun] at hAll
              exact hAll
          | ok record =>
              rw [hRun] at hAll
              exact hAll

/- Each operation goes on from the ones before it. -/
theorem Follows.calls
    (hSeeded : plane.SeededAt side level)
    (hFollows : tracker.Follows plane side level done)
    (op : Op) :
    tracker.Completes plane side level done op.moves
      (op.calls tracker) := by
  cases op with
  | advance =>
      refine Barring.map (hFollows.call_of_move hSeeded) ?_
      rintro call ⟨hNumbered, hWithin⟩
      exact ⟨⟨numbered_singleton hNumbered,
        hNumbered.follows⟩, hWithin⟩
  | advanceAtLeast ticks =>
      exact hFollows.callsFurther hSeeded ticks
  | grow =>
      have hAmount :
          2 * (level + 4) ≤ moveNodes level 1 := by
        unfold moveNodes
        omega
      refine Barring.map (Barring.imp
        (hFollows.grow hSeeded)
        (fun _ hShort => hShort.mono hAmount (Nat.zero_le _))
        fun _ _ hGrown => hGrown) ?_
      rintro grown ⟨hSize, hTime, hShows⟩
      exact ⟨Continues.nil ⟨Or.inr hShows,
          hTime.trans hFollows.elapsed_eq⟩,
        Within.mono ⟨hSize, hTime.le⟩ hAmount
          (Nat.zero_le _)⟩
  | compact =>
      refine Barring.map (Barring.imp hFollows.compact
        (fun _ hShort =>
          hShort.mono (Nat.zero_le _) (Nat.zero_le _))
        fun _ _ hDone => hDone) ?_
      rintro compacted ⟨hSize, hTime, hCompacted⟩
      exact ⟨Continues.nil hCompacted,
        Within.mono ⟨hSize, hTime.le⟩ (Nat.zero_le _)
          (Nat.zero_le _)⟩

/- So does every run, and all its steps are numbered. -/
theorem Follows.runCalls
    (hSeeded : plane.SeededAt side level)
    (hFollows : tracker.Follows plane side level done)
    (ops : List Op) :
    tracker.Completes plane side level done
      (Op.totalMoves ops) (Op.runCalls ops tracker) := by
  induction ops generalizing tracker done with
  | nil => exact ⟨Continues.nil hFollows, by simp, by simp⟩
  | cons op ops ih =>
      rcases Barring.cases (hFollows.calls hSeeded op) with
        ⟨fault, hCalls, hShort⟩ |
        ⟨⟨first, next⟩, hCalls, hNext, hWithin⟩
      · unfold Op.runCalls
        rw [hCalls]
        exact hShort.mono
          (moveNodes_mono level (Nat.le_add_right _ _))
          (moveTicks_mono level (Nat.le_add_right _ _))
      · have hAll :=
          Completes.append hNext.numbered hWithin
            (ih hNext.follows)
        unfold Op.runCalls
        rw [hCalls]
        cases hRun : Op.runCalls ops next with
        | error fault =>
            rw [hRun] at hAll
            simp only [bind, Except.bind, hRun]
            exact hAll
        | ok record =>
            rw [hRun] at hAll
            simp only [bind, Except.bind, hRun]
            exact hAll

/-
  The faults that a run may end in, if the tracker is that of
  a lattice with the given side. There are fewer numbers left
  for nodes, or for ticks, than its moves take at most.
-/
def RunsShort
    (tracker : Tracker)
    (side : Nat)
    (ops : List Op) : Fault → Prop :=
  tracker.FallsShort
    (moveNodes (seedLevel side) (Op.totalMoves ops))
    (moveTicks (seedLevel side) (Op.totalMoves ops))

end Tracker

end LatticeGas

------------------------------------------------------------
-- New Trackers
------------------------------------------------------------

namespace LatticeGas

namespace Tracker

variable {L : Type}
variable [Lattice L]
variable {lattice : L}
variable {config : Config}
variable {built : Tracker}

/- The seed level of a lattice suits its plane. -/
theorem seededAt_plane
    (hPos : 0 < Lattice.side lattice)
    (hMax :
      seedLevel (Lattice.side lattice) ≤ maxSeedLevel) :
    (Lattice.plane lattice).SeededAt (Lattice.side lattice)
      (seedLevel (Lattice.side lattice)) := by
  refine ⟨Lattice.walledOutside_plane lattice,
    le_sideOfLevel_seedLevel _,
    sideOfLevel_seedLevel_lt hPos, ?_⟩
  have hLevels : maxSeedLevel + 3 ≤ maxLevel := by decide
  omega

/- A new tracker follows its lattice from the start. -/
theorem follows_of_build_eq_ok
    (hBuild : build lattice config = .ok built) :
    (Lattice.plane lattice).SeededAt (Lattice.side lattice)
        (seedLevel (Lattice.side lattice)) ∧
      built.Follows (Lattice.plane lattice)
        (Lattice.side lattice)
        (seedLevel (Lattice.side lattice)) 0 := by
  rcases of_build_eq_ok hBuild with ⟨-, hPos, hMax⟩
  rcases shows_of_build_eq_ok hBuild
      (Nat.le_add_right _ 3) with ⟨hShows, hTime⟩
  refine ⟨seededAt_plane hPos hMax, Or.inl hShows, ?_⟩
  rw [hTime]
  unfold Frame.elapsed
  simp

/- A run of a new tracker continues its lattice. -/
theorem continues_of_build_eq_ok
    (hBuild : build lattice config = .ok built)
    (ops : List Op) :
    (Lattice.plane lattice).SeededAt (Lattice.side lattice)
        (seedLevel (Lattice.side lattice)) ∧
      Barring (built.RunsShort (Lattice.side lattice) ops)
        (fun record =>
          Continues (Lattice.plane lattice)
            (Lattice.side lattice)
            (seedLevel (Lattice.side lattice)) 0 record.1
            record.2)
        (Op.runCalls ops built) := by
  rcases follows_of_build_eq_ok hBuild with
    ⟨hSeeded, hFollows⟩
  exact ⟨hSeeded, Barring.mono
    (hFollows.runCalls hSeeded ops)
    fun _ hRecord => hRecord.1⟩

/- After the run the tracker still follows its lattice. -/
theorem barring_run_of_build_eq_ok
    (hBuild : build lattice config = .ok built)
    (ops : List Op) :
    Barring (built.RunsShort (Lattice.side lattice) ops)
      (fun reached =>
        ∃ done,
          reached.Follows (Lattice.plane lattice)
            (Lattice.side lattice)
            (seedLevel (Lattice.side lattice)) done)
      (Op.run ops built) := by
  rw [Op.run_eq_runCalls]
  refine (continues_of_build_eq_ok hBuild ops).2.map ?_
  rintro ⟨calls, reached⟩ hContinues
  exact ⟨_, hContinues.follows⟩

/-
  With numbers for all nodes and ticks that its moves take, a
  run of a new tracker comes to its end, and it takes no more
  than these.
-/
theorem exists_built_run
    (config : Config)
    (hReadable : Lattice.Readable lattice)
    (hPos : 0 < Lattice.side lattice)
    {level : Nat}
    (hLevel : seedLevel (Lattice.side lattice) = level)
    (hMax : level ≤ maxSeedLevel)
    (ops : List Op)
    (hNodes :
      buildNodes (Lattice.side lattice) level +
        moveNodes level (Op.totalMoves ops) ≤ nodeLimit)
    (hTicks :
      moveTicks level (Op.totalMoves ops) < countLimit) :
    ∃ built calls reached,
      build lattice config = .ok built ∧
        Op.runCalls ops built = .ok (calls, reached) ∧
        Op.run ops built = .ok reached ∧
        reached.elapsed ≤
          moveTicks level (Op.totalMoves ops) ∧
        reached.arena.size ≤
          buildNodes (Lattice.side lattice) level +
            moveNodes level (Op.totalMoves ops) := by
  rcases exists_built config hReadable hPos hLevel hMax
      (by omega) with ⟨built, hBuild, hSize⟩
  rcases follows_of_build_eq_ok hBuild with
    ⟨hSeeded, hFollows⟩
  rw [hLevel] at hSeeded hFollows
  have hElapsed : built.elapsed = 0 := by
    rw [hFollows.elapsed_eq]
    unfold Frame.elapsed
    simp
  have hNone :=
    not_fallsShort
      (by omega : built.arena.size +
        moveNodes level (Op.totalMoves ops) ≤ nodeLimit)
      (by omega : built.elapsed +
        moveTicks level (Op.totalMoves ops) < countLimit)
  rcases Barring.exists_ok
      (hFollows.runCalls hSeeded ops) hNone with
    ⟨⟨calls, reached⟩, hCalls, -, hWithin⟩
  have hReachedSize := hWithin.size_le
  have hReachedTicks := hWithin.elapsed_le
  simp only at hReachedSize hReachedTicks
  refine ⟨built, calls, reached, hBuild, hCalls, ?_,
    by omega, by omega⟩
  rw [Op.run_eq_runCalls, hCalls]
  rfl

end Tracker

end LatticeGas
