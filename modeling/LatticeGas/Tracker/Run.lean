import LatticeGas.Arena.Advance
import LatticeGas.Arena.Copy
import LatticeGas.Tracker.Basic

/-
  This file defines how a tracker moves through time. Its
  square is padded with walls until one macro step covers the
  region, and then that step is taken.

  Key definitions include:
    * `Tracker.wrap`
    * `Tracker.growWithin`
    * `Tracker.grow`
    * `Tracker.compact`
    * `Tracker.advance`
    * `Tracker.advanceAtLeast`
-/

------------------------------------------------------------
-- Growth
------------------------------------------------------------

namespace LatticeGas

namespace Tracker

/-
  Wrap the square in walls. It becomes the lower corner on
  even levels and the upper corner on odd levels, so that the
  region stays near the middle as the square grows.
-/
def wrap
    (tracker : Tracker)
    (level : Nat) : Except Fault Tracker :=
  match tracker with
  | ⟨arena, root, region, elapsed, config⟩ => do
      let (wall, arena) ← (Building.wall level).run arena
      if level % 2 = 0 then
        let (root, arena) ←
          (Building.node ⟨root, wall, wall, wall⟩).run arena
        return ⟨arena, root, region, elapsed, config⟩
      else
        let (root, arena) ←
          (Building.node ⟨wall, wall, wall, root⟩).run arena
        let region := region.shift (sideOfLevel level)
        return ⟨arena, root, region, elapsed, config⟩

/- Wrap the square until one macro step covers the region. -/
def growWithin :
    (wraps : Nat) → Tracker → Except Fault Tracker
| 0, _ => .error .tooDeep
| wraps + 1, tracker => do
    let level ← tracker.level
    if tracker.region.Central level then
      return tracker
    else
      let wrapped ← tracker.wrap level
      growWithin wraps wrapped

/-
  Pad the square until one macro step covers the region. No
  square can be wrapped more often than there are levels.
-/
def grow (tracker : Tracker) : Except Fault Tracker := do
  let level ← tracker.level
  let region := tracker.region
  require (region.Fits level)
    (.regionEscaped region.originX region.originY
      region.width region.height level)
  growWithin (maxLevel + 1) tracker

end Tracker

end LatticeGas

------------------------------------------------------------
-- Compaction
------------------------------------------------------------

namespace LatticeGas

namespace Tracker

/-
  Keep only the nodes of the square, in a new arena. Steps
  that were remembered are lost.
-/
def compact (tracker : Tracker) : Except Fault Tracker := do
  let config := tracker.config
  let fresh := Arena.new config.intern config.memoize
  let copying :=
    Building.copyTree tracker.arena tracker.root
  let (root, arena) ← copying.run fresh
  return { tracker with root := root, arena := arena }

/- Compact the arena if it has more nodes than allowed. -/
def compactIfFull
    (tracker : Tracker) : Except Fault Tracker :=
  match tracker.config.compactThreshold with
  | none => .ok tracker
  | some limit =>
      if limit < tracker.arena.size then
        tracker.compact
      else
        .ok tracker

end Tracker

end LatticeGas

------------------------------------------------------------
-- Macro Steps
------------------------------------------------------------

namespace LatticeGas

namespace Tracker

/-
  Replace the square by its middle, a quarter of its side in
  ticks later.
-/
def leap
    (tracker : Tracker)
    (level : Nat) : Except Fault Tracker :=
  match tracker with
  | ⟨arena, root, region, elapsed, config⟩ => do
      let ticks := Region.quarter level
      let (root, arena) ←
        (Building.advanceCenter root).run arena
      let elapsed ← addCount elapsed ticks
      return {
        arena := arena
        root := root
        region := region.crop ticks
        elapsed := elapsed
        config := config }

/-
  Pad the square and take one macro step. The number of ticks
  that it covers comes with the tracker.
-/
def advance
    (tracker : Tracker) : Except Fault (Nat × Tracker) := do
  let grown ← tracker.grow
  let level ← grown.level
  let moved ← grown.leap level
  let settled ← moved.compactIfFull
  return (Region.quarter level, settled)

/- Every macro step covers a tick. -/
theorem ticks_pos_of_advance
    {tracker moved : Tracker}
    {ticks : Nat}
    (hAdvance : tracker.advance = .ok (ticks, moved)) :
    0 < ticks := by
  unfold advance at hAdvance
  rcases hGrown : tracker.grow with fault | grown
  · simp [hGrown, bind, Except.bind] at hAdvance
  rcases hLevel : grown.level with fault | level
  · simp [hGrown, hLevel, bind, Except.bind] at hAdvance
  rcases hMoved : grown.leap level with fault | leapt
  · simp [hGrown, hLevel, hMoved, bind, Except.bind]
      at hAdvance
  rcases hSettled : leapt.compactIfFull with fault | settled
  · simp [hGrown, hLevel, hMoved, hSettled, bind,
      Except.bind] at hAdvance
  have hTicks : Region.quarter level = ticks := by
    simp [hGrown, hLevel, hMoved, hSettled, bind,
      Except.bind, pure, Except.pure] at hAdvance
    exact hAdvance.1
  rw [← hTicks]
  exact sideOfLevel_pos (level - 2)

/-
  Take macro steps until they cover the wanted ticks. The
  ticks that they cover are counted on from `covered`.
-/
def advanceFurther
    (tracker : Tracker)
    (wanted covered : Nat) : Except Fault (Nat × Tracker) :=
  if wanted = 0 then
    .ok (covered, tracker)
  else
    match hAdvance : tracker.advance with
    | .error fault => .error fault
    | .ok (ticks, moved) =>
        have _hTicks : 0 < ticks :=
          ticks_pos_of_advance hAdvance
        moved.advanceFurther (wanted - ticks)
          (covered + ticks)
termination_by wanted

/-
  Take as few macro steps as cover the wanted ticks. They may
  cover more, and what they cover comes with the tracker.
-/
def advanceAtLeast
    (tracker : Tracker)
    (ticks : Nat) : Except Fault (Nat × Tracker) :=
  tracker.advanceFurther ticks 0

end Tracker

end LatticeGas
