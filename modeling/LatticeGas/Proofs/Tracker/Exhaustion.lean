import LatticeGas.Proofs.Arena.Closure
import LatticeGas.Proofs.Tracker.Invariant

/-
  This file shows that a tracker which neither shares nodes
  nor remembers steps uses up the numbers for nodes when its
  square is large enough. Then its next macro step is a fault,
  although its lattice is not refused.

  Key definitions include:
    * `Arena.Plain`

  Key theorems include:
    * `Building.Closed.seed`
    * `Tracker.Follows.advance_eq_exhausted`
    * `Tracker.exists_advance_exhausted`
-/

------------------------------------------------------------
-- Plain Arenas
------------------------------------------------------------

namespace LatticeGas

namespace Arena

/- Neither are nodes shared, nor are steps remembered. -/
def Plain (arena : Arena) : Prop :=
  arena.interning = false ∧ arena.memoizing = false

theorem stable_plain : Stable Plain where
  extended _ _ hPlain := hPlain
  pushWall _ _ hPlain := hPlain
  setNext _ _ _ _ hPlain := hPlain

end Arena

namespace Building

open Arena

variable {Holds : {A : Type} → Building A → Prop}
variable {L : Type}
variable [Lattice L]

/- A seed is put together from leaves, nodes and walls. -/
theorem Closed.seed
    (hClosed : Closed Holds)
    (lattice : L)
    (level x y : Nat) :
    Holds (Building.seed lattice level x y) := by
  fun_induction Building.seed lattice level x y with
  | case1 level x y hBeyond => exact hClosed.wall level
  | case2 x y hWithin =>
      exact hClosed.bind (hClosed.lift _) hClosed.leaf
  | case3 x y hWithin level half hSw hSe hNw hNe =>
      refine hClosed.bind hSw fun sw => ?_
      refine hClosed.bind hSe fun se => ?_
      refine hClosed.bind hNw fun nw => ?_
      refine hClosed.bind hNe fun ne => ?_
      exact hClosed.node ⟨sw, se, nw, ne⟩

theorem Closed.wrapping
    (hClosed : Closed Holds)
    (level : Nat)
    (root : NodeId) :
    Holds (wrapping level root) :=
  hClosed.bind (hClosed.wall level) fun _ =>
    hClosed.node _

end Building

end LatticeGas

------------------------------------------------------------
-- Plain Trackers
------------------------------------------------------------

namespace LatticeGas

namespace Tracker

open Arena Building

variable {tracker after : Tracker}

theorem plain_of_wrap
    (hPlain : tracker.arena.Plain)
    {level : Nat}
    (hWrap : tracker.wrap level = .ok after) :
    after.arena.Plain := by
  rw [wrap_eq] at hWrap
  rcases answered_of_map hWrap with
    ⟨⟨root, arena⟩, hMade, rfl⟩
  exact stable_plain.closed_keeps.wrapping level tracker.root
    tracker.arena root arena hPlain hMade

theorem plain_of_growWithin
    (hPlain : tracker.arena.Plain)
    {wraps : Nat}
    (hGrow : growWithin wraps tracker = .ok after) :
    after.arena.Plain := by
  induction wraps generalizing tracker with
  | zero => cases hGrow
  | succ wraps ih =>
      rw [growWithin] at hGrow
      rcases answered_of_bind hGrow with ⟨level, -, hRest⟩
      by_cases hCentral : tracker.region.Central level
      · rw [if_pos hCentral] at hRest
        cases hRest
        exact hPlain
      · rw [if_neg hCentral] at hRest
        rcases answered_of_bind hRest with
          ⟨wrapped, hWrap, hGrown⟩
        exact ih (plain_of_wrap hPlain hWrap) hGrown

theorem plain_of_grow
    (hPlain : tracker.arena.Plain)
    (hGrow : tracker.grow = .ok after) :
    after.arena.Plain := by
  rcases answered_of_bind hGrow with ⟨level, -, hRest⟩
  rcases answered_of_bind hRest with ⟨_, -, hGrown⟩
  exact plain_of_growWithin hPlain hGrown

/- A new tracker has the arena that is asked for. -/
theorem plain_of_build
    {L : Type}
    [Lattice L]
    {lattice : L}
    {threshold : Option Nat}
    {built : Tracker}
    (hBuild :
      build lattice ⟨false, false, threshold⟩ = .ok built) :
    built.arena.Plain := by
  rcases ofLattice_of_build_eq_ok hBuild with ⟨-, -, hOk⟩
  rw [ofLattice_eq] at hOk
  rcases answered_of_map hOk with ⟨⟨root, arena⟩, hMade, rfl⟩
  exact stable_plain.closed_keeps.seed lattice _ 0 0
    (new false false) root arena ⟨rfl, rfl⟩ hMade

variable {plane : Plane}
variable {side top level done : Nat}
variable {frame : Frame}

/- A macro step of the square is a fault if that is so. -/
theorem Shows.leap_eq_exhausted
    (hShows : tracker.Shows plane side top frame)
    (hPlain : tracker.arena.Plain)
    {below : Nat}
    (hLevel : frame.level = below + 2)
    (hCost : nodeLimit < Square.stepCost below) :
    tracker.leap frame.level = .error .exhausted := by
  have hRoot := hShows.denotes_root
  rw [hLevel] at hRoot
  rw [leap_eq, advanceCenter_eq_exhausted hShows.sound
    hPlain.1 hPlain.2 hRoot hCost]
  rfl

/-
  The next macro step of such a tracker uses up all numbers if
  the step of its padded square takes more than there are.
-/
theorem Follows.advance_eq_exhausted
    (hSeeded : plane.SeededAt side level)
    (hFollows : tracker.Follows plane side level done)
    (hPlain : tracker.arena.Plain)
    (hTicks : tracker.elapsed < countLimit)
    {below : Nat}
    (hLevel : (Frame.padded level done).level = below + 2)
    (hCost : nodeLimit < Square.stepCost below) :
    tracker.advance = .error .exhausted := by
  unfold Tracker.advance
  rcases (hFollows.grow hSeeded).cases with
    ⟨fault, hGrow, hShort⟩ |
    ⟨padded, hGrow, -, -, hPadded⟩
  · rw [hGrow]
    cases hShort with
    | nodes hNodes => rfl
    | ticks hLate => omega
  · have hLeap := hPadded.leap_eq_exhausted
      (plain_of_grow hPlain hGrow) hLevel hCost
    simp only [hGrow, hPadded.level_eq, hLeap, bind,
      Except.bind]

/-
  A lattice without gas of side 256 is built, but there are
  not as many numbers as its first macro step takes.
-/
theorem exists_advance_exhausted :
    ∃ built,
      build (⟨256, Cell.empty⟩ : Uniform)
          ⟨false, false, none⟩ = .ok built ∧
        built.advance = .error .exhausted := by
  have hReadable :=
    Lattice.readable_uniform ⟨256, Cell.empty⟩
  rcases exists_built ⟨false, false, none⟩ hReadable
      (by decide) rfl (by decide) (by decide) with
    ⟨built, hBuild, -⟩
  rcases follows_of_build_eq_ok hBuild with
    ⟨hSeeded, hFollows⟩
  have hElapsed : built.elapsed = 0 := hFollows.elapsed_eq
  refine ⟨built, hBuild, hFollows.advance_eq_exhausted hSeeded
    (plain_of_build hBuild) ?_
    (rfl : (Frame.padded 8 0).level = 8 + 2) (by decide)⟩
  rw [hElapsed]
  decide

end Tracker

end LatticeGas
