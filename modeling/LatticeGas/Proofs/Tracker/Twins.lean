import LatticeGas.Proofs.Arena.Twins
import LatticeGas.Proofs.Tracker.Moves
import LatticeGas.Proofs.Tracker.Runs
import Mathlib.Data.List.Forall2

/-
  This file compares two trackers of one lattice that are
  configured differently and go through the same operations.
  The first of them shares nodes. Their squares stay the same,
  and their arenas stay twins, unless the other tracker runs
  out of numbers for nodes because it does not share them.
  If arenas are compacted when they are full, both trackers
  have to share nodes, or one might be full before the other.

  Key definitions include:
    * `Tracker.Config.Alike`
    * `Tracker.Twins`
    * `Tracker.isFull`
    * `Tracker.Call.Twins`
    * `Tracker.Config.Spares`

  Key theorems include:
    * `Tracker.Twins.concur_grow`
    * `Tracker.Twins.concur_call`
    * `Tracker.Twins.concur_runCalls`
    * `Tracker.concur_build`
-/

------------------------------------------------------------
-- Twin Trackers
------------------------------------------------------------

namespace LatticeGas

namespace Tracker

/-
  Two configurations under which arenas are compacted at the
  same moments: never, or both beyond the same number of
  shared nodes.
-/
def Config.Alike (left right : Config) : Prop :=
  left.compactThreshold = right.compactThreshold ∧
    (left.compactThreshold = none ∨
      left.intern = true ∧ right.intern = true)

/-
  Two trackers with the given configurations that show the
  same square in twin arenas, at the same place and time.
-/
structure Twins
    (configLeft configRight : Config)
    (left right : Tracker) : Prop where
  arenas : Arena.Twins left.arena right.arena
  shares_left : left.arena.interning = configLeft.intern
  shares_right : right.arena.interning = configRight.intern
  roots :
    ∃ (level : Nat) (square : Square level),
      left.arena.Denotes left.root square ∧
        right.arena.Denotes right.root square
  region_eq : left.region = right.region
  elapsed_eq : left.elapsed = right.elapsed
  config_left : left.config = configLeft
  config_right : right.config = configRight

variable {left right : Tracker}
variable {configLeft configRight : Config}

theorem Twins.level_eq
    (hTwins : Twins configLeft configRight left right) :
    left.level = right.level := by
  rcases hTwins.roots with ⟨level, square, hLeft, hRight⟩
  unfold Tracker.level
  rw [hLeft.hasLevel.level_eq, hRight.hasLevel.level_eq]

/- The first tracker shares nodes. -/
theorem Twins.intern_left
    (hTwins : Twins configLeft configRight left right) :
    configLeft.intern = true :=
  hTwins.shares_left.symm.trans hTwins.arenas.shares_left

/- Trackers with a new square in grown arenas. -/
theorem twins_of_agree
    {baseLeft baseRight : Arena}
    (hBaseLeft : baseLeft.interning = configLeft.intern)
    (hBaseRight : baseRight.interning = configRight.intern)
    {level : Nat}
    {square : Square level}
    {first second : NodeId × Arena}
    (hAgree :
      Arena.Agree baseLeft baseRight square first second)
    (region : Region)
    (elapsed : Nat) :
    Twins configLeft configRight
      ⟨first.2, first.1, region, elapsed, configLeft⟩
      ⟨second.2, second.1, region, elapsed,
        configRight⟩ := by
  rcases hAgree.gains with ⟨trail, hGainsLeft, -⟩
  exact ⟨hAgree.twins,
    hGainsLeft.interning_eq.trans hBaseLeft,
    hAgree.interning_eq.trans hBaseRight,
    ⟨level, square, hAgree.denotes_left,
      hAgree.denotes_right⟩,
    rfl, rfl, rfl, rfl⟩

end Tracker

end LatticeGas

------------------------------------------------------------
-- Growth
------------------------------------------------------------

namespace LatticeGas

namespace Arena

open Building

/- A square is wrapped in walls alike. -/
theorem Twins.concur_wrapping
    {left right : Arena}
    (hTwins : Twins left right)
    {level : Nat}
    {square : Square level}
    {root root' : NodeId}
    (hRoot : left.Denotes root square)
    (hRoot' : right.Denotes root' square) :
    Concur (Spared right.interning)
      (Agree left right
        (Square.ofQuad (Quad.wrapped level square
          (Square.uniform .wall level))))
      (wrapping level root left)
      (wrapping level root' right) := by
  refine concur_bind (hTwins.concur_wall level) ?_
  rintro ⟨outer, middle⟩ ⟨outer', middle'⟩ hOuter
  rcases hOuter.gains with ⟨trail, hGains, hGains'⟩
  have hIds :=
    (hRoot.of_extends hGains.keeps).wrapped
      hOuter.denotes_left level
  have hIds' :=
    (hRoot'.of_extends hGains'.keeps).wrapped
      hOuter.denotes_right level
  have hNode := hOuter.twins.concur_node hIds hIds'
  rw [hOuter.interning_eq] at hNode
  exact hNode.mono fun _ _ hLast => hOuter.trans hLast

end Arena

end LatticeGas

namespace LatticeGas

namespace Tracker

open Arena Building

variable {left right : Tracker}
variable {configLeft configRight : Config}

theorem Twins.concur_wrap
    (hTwins : Twins configLeft configRight left right)
    {level : Nat}
    {square : Square level}
    (hLeft : left.arena.Denotes left.root square)
    (hRight : right.arena.Denotes right.root square) :
    Concur (Arena.Spared configRight.intern)
      (Twins configLeft configRight)
      (left.wrap level) (right.wrap level) := by
  have hMade := hTwins.arenas.concur_wrapping hLeft hRight
  rw [hTwins.shares_right] at hMade
  rw [wrap_eq, wrap_eq, hTwins.region_eq, hTwins.elapsed_eq,
    hTwins.config_left, hTwins.config_right]
  exact hMade.map fun _ _ hAgree =>
    twins_of_agree hTwins.shares_left hTwins.shares_right
      hAgree (right.region.shift (Frame.margin level))
      right.elapsed

theorem Twins.concur_growWithin
    (hTwins : Twins configLeft configRight left right)
    (wraps : Nat) :
    Concur (Arena.Spared configRight.intern)
      (Twins configLeft configRight)
      (growWithin wraps left) (growWithin wraps right) := by
  induction wraps generalizing left right with
  | zero => exact .error Fault.tooDeep
  | succ wraps ih =>
      rcases hTwins.roots with
        ⟨level, square, hLeft, hRight⟩
      have hLevel : left.level = .ok level :=
        hLeft.hasLevel.level_eq
      have hLevel' : right.level = .ok level :=
        hRight.hasLevel.level_eq
      simp only [Tracker.growWithin, hLevel, hLevel', bind,
        Except.bind, ← hTwins.region_eq]
      by_cases hCentral : left.region.Central level
      · simp only [if_pos hCentral]
        exact .ok hTwins
      · simp only [if_neg hCentral]
        exact (hTwins.concur_wrap hLeft hRight).bind
          fun _ _ hWrapped => ih hWrapped

/- Both squares are padded equally often. -/
theorem Twins.concur_grow
    (hTwins : Twins configLeft configRight left right) :
    Concur (Arena.Spared configRight.intern)
      (Twins configLeft configRight)
      left.grow right.grow := by
  have hLevel := hTwins.level_eq
  unfold Tracker.grow
  rw [← hLevel, ← hTwins.region_eq]
  cases left.level with
  | error fault => exact .error fault
  | ok level =>
      simp only [bind, Except.bind]
      cases require (left.region.Fits level) _ with
      | error fault => exact .error fault
      | ok _ => exact hTwins.concur_growWithin (maxLevel + 1)

end Tracker

end LatticeGas

------------------------------------------------------------
-- Compaction and Macro Steps
------------------------------------------------------------

namespace LatticeGas

namespace Tracker

open Arena Building

variable {left right : Tracker}
variable {configLeft configRight : Config}

/- New arenas are filled with the parts of one square. -/
theorem Twins.concur_compact
    (hTwins : Twins configLeft configRight left right) :
    Concur (Arena.Spared configRight.intern)
      (Twins configLeft configRight)
      left.compact right.compact := by
  rcases hTwins.roots with ⟨level, square, hLeft, hRight⟩
  have hIntern := hTwins.intern_left
  have hFresh := twins_new configLeft.memoize
    configRight.intern configRight.memoize
  rw [compact_eq, compact_eq, hTwins.config_left,
    hTwins.config_right, hTwins.region_eq,
    hTwins.elapsed_eq, hIntern]
  exact (hFresh.concur_copyTree
    hTwins.arenas.traced_left.sound.wellFormed
    hTwins.arenas.traced_right.sound.wellFormed hLeft
    hRight).map fun _ _ hAgree =>
      twins_of_agree hIntern.symm rfl hAgree right.region
        right.elapsed

/- The arena has more nodes than allowed. -/
def isFull (tracker : Tracker) : Bool :=
  match tracker.config.compactThreshold with
  | none => false
  | some limit => decide (limit < tracker.arena.size)

/- A full arena is compacted, and no other one is. -/
theorem compactIfFull_eq
    (tracker : Tracker) :
    tracker.compactIfFull =
      if tracker.isFull then tracker.compact
      else .ok tracker := by
  unfold compactIfFull isFull
  cases tracker.config.compactThreshold with
  | none => rfl
  | some limit => simp

/- Both arenas are full at the same moments. -/
theorem Twins.isFull_eq
    (hAlike : Config.Alike configLeft configRight)
    (hTwins : Twins configLeft configRight left right) :
    left.isFull = right.isFull := by
  rcases hAlike with ⟨hThreshold, hCases⟩
  unfold isFull
  rw [hTwins.config_left, hTwins.config_right, ← hThreshold]
  cases hLimit : configLeft.compactThreshold with
  | none => rfl
  | some limit =>
      rw [hLimit] at hCases
      rcases hCases with hNone | ⟨-, hShareRight⟩
      · cases hNone
      · have hEntries := hTwins.arenas.entries_eq
          (hTwins.shares_right.trans hShareRight)
        have hSize : left.arena.size = right.arena.size :=
          congrArg Array.size hEntries
        simp only [hSize]

theorem Twins.concur_compactIfFull
    (hAlike : Config.Alike configLeft configRight)
    (hTwins : Twins configLeft configRight left right) :
    Concur (Arena.Spared configRight.intern)
      (Twins configLeft configRight)
      left.compactIfFull right.compactIfFull := by
  rw [compactIfFull_eq, compactIfFull_eq,
    hTwins.isFull_eq hAlike]
  by_cases hFull : right.isFull = true
  · rw [if_pos hFull, if_pos hFull]
    exact hTwins.concur_compact
  · rw [if_neg hFull, if_neg hFull]
    exact .ok hTwins

theorem Twins.concur_leap
    (hTwins : Twins configLeft configRight left right)
    (level : Nat) :
    Concur (Arena.Spared configRight.intern)
      (Twins configLeft configRight)
      (left.leap level) (right.leap level) := by
  rcases hTwins.roots with ⟨_, square, hLeft, hRight⟩
  have hStep := hTwins.arenas.concur_advanceCenter hLeft
    hRight
  rw [hTwins.shares_right] at hStep
  rw [leap_eq, leap_eq, hTwins.region_eq, hTwins.elapsed_eq,
    hTwins.config_left, hTwins.config_right]
  refine hStep.bind ?_
  rintro first second ⟨above, middle, hAgree⟩
  -- The sum is the same, and so is its overflow.
  cases addCount right.elapsed (Region.quarter level) with
  | error fault => exact .error fault
  | ok elapsed =>
      exact .ok (twins_of_agree hTwins.shares_left
        hTwins.shares_right hAgree
        (right.region.crop (Region.quarter level)) elapsed)

end Tracker

end LatticeGas

------------------------------------------------------------
-- Runs
------------------------------------------------------------

namespace LatticeGas

namespace Tracker

/- The records of a macro step of two trackers. -/
structure Call.Twins
    (configLeft configRight : Config)
    (left right : Call) : Prop where
  before :
    Tracker.Twins configLeft configRight left.before
      right.before
  padded :
    Tracker.Twins configLeft configRight left.padded
      right.padded
  level_eq : left.level = right.level
  leapt :
    Tracker.Twins configLeft configRight left.leapt
      right.leapt
  after :
    Tracker.Twins configLeft configRight left.after
      right.after

/- The records of a run, and the trackers after it. -/
def RunTwins
    (configLeft configRight : Config)
    (left right : List Call × Tracker) : Prop :=
  List.Forall₂ (Call.Twins configLeft configRight)
      left.1 right.1 ∧
    Twins configLeft configRight left.2 right.2

variable {left right : Tracker}
variable {configLeft configRight : Config}

theorem Twins.concur_call
    (hAlike : Config.Alike configLeft configRight)
    (hTwins : Twins configLeft configRight left right) :
    Concur (Arena.Spared configRight.intern)
      (Call.Twins configLeft configRight)
      left.call right.call := by
  unfold Tracker.call
  refine hTwins.concur_grow.bind ?_
  intro padded padded' hPadded
  rw [← hPadded.level_eq]
  cases padded.level with
  | error fault => exact .error fault
  | ok level =>
      refine (hPadded.concur_leap level).bind ?_
      intro leapt leapt' hLeapt
      refine (hLeapt.concur_compactIfFull hAlike).bind ?_
      intro after after' hAfter
      exact .ok ⟨hTwins, hPadded, rfl, hLeapt, hAfter⟩

theorem Twins.concur_callsFurther
    (hAlike : Config.Alike configLeft configRight)
    (hTwins : Twins configLeft configRight left right)
    (wanted : Nat) :
    Concur (Arena.Spared configRight.intern)
      (RunTwins configLeft configRight)
      (left.callsFurther wanted)
      (right.callsFurther wanted) := by
  induction wanted using Nat.strongRecOn
    generalizing left right with
  | ind wanted ih =>
      rw [Tracker.callsFurther, Tracker.callsFurther]
      by_cases hWanted : wanted = 0
      · rw [if_pos hWanted, if_pos hWanted]
        exact .ok ⟨.nil, hTwins⟩
      · rw [if_neg hWanted, if_neg hWanted]
        have hConcur := hTwins.concur_call hAlike
        generalize left.call = first at hConcur ⊢
        generalize right.call = second at hConcur ⊢
        cases hConcur with
        | error fault => exact .error fault
        | spared first hSpared => exact .spared _ hSpared
        | @ok call call' hCall =>
            -- As many ticks are left to be covered in both.
            have hTicks : call.ticks = call'.ticks := by
              unfold Call.ticks
              rw [hCall.level_eq]
            have hPos := ticks_pos_of_call call
            have hRest := ih (wanted - call.ticks) (by omega)
              hCall.after
            simp only [← hTicks]
            generalize call.after.callsFurther _ = rest
              at hRest ⊢
            generalize call'.after.callsFurther _ = rest'
              at hRest ⊢
            cases hRest with
            | error fault => exact .error fault
            | spared rest hSpared => exact .spared _ hSpared
            | ok hLast =>
                exact .ok ⟨.cons hCall hLast.1, hLast.2⟩

theorem Twins.concur_calls
    (hAlike : Config.Alike configLeft configRight)
    (hTwins : Twins configLeft configRight left right)
    (op : Op) :
    Concur (Arena.Spared configRight.intern)
      (RunTwins configLeft configRight)
      (op.calls left) (op.calls right) := by
  cases op with
  | advance =>
      exact (hTwins.concur_call hAlike).map
        fun _ _ hCall => ⟨.cons hCall .nil, hCall.after⟩
  | advanceAtLeast ticks =>
      exact hTwins.concur_callsFurther hAlike ticks
  | grow =>
      exact hTwins.concur_grow.map
        fun _ _ hGrown => ⟨.nil, hGrown⟩
  | compact =>
      exact hTwins.concur_compact.map
        fun _ _ hCompacted => ⟨.nil, hCompacted⟩

/- Twins stay twins through every run. -/
theorem Twins.concur_runCalls
    (hAlike : Config.Alike configLeft configRight)
    (hTwins : Twins configLeft configRight left right)
    (ops : List Op) :
    Concur (Arena.Spared configRight.intern)
      (RunTwins configLeft configRight)
      (Op.runCalls ops left) (Op.runCalls ops right) := by
  induction ops generalizing left right with
  | nil => exact .ok ⟨.nil, hTwins⟩
  | cons op ops ih =>
      unfold Op.runCalls
      refine (hTwins.concur_calls hAlike op).bind ?_
      intro record record' hRecord
      refine (ih hRecord.2).bind ?_
      intro rest rest' hRest
      exact .ok ⟨List.rel_append hRecord.1 hRest.1, hRest.2⟩

end Tracker

end LatticeGas

------------------------------------------------------------
-- New Trackers
------------------------------------------------------------

namespace LatticeGas

namespace Arena

open Building

variable {L : Type}
variable [Lattice L]

/- A lattice is seeded alike, or is a fault for both. -/
theorem Twins.concur_seed
    (lattice : L)
    {left right : Arena}
    (hTwins : Twins left right)
    {sharing : Bool}
    (hSharing : right.interning = sharing)
    (level x y : Nat) :
    Concur (Spared sharing)
      (fun first second =>
        ∃ square : Square level,
          Agree left right square first second)
      (seed lattice level x y left)
      (seed lattice level x y right) := by
  fun_induction seed lattice level x y
    generalizing left right
  case case1 level x y hBeyond =>
    subst hSharing
    exact (hTwins.concur_wall level).mono
      fun _ _ hAgree => ⟨_, hAgree⟩
  case case2 x y hWithin =>
    subst hSharing
    cases Lattice.cellAt lattice x y with
    | error fault => exact .error fault
    | ok cell =>
        exact (hTwins.concur_leaf cell).mono
          fun _ _ hAgree => ⟨_, hAgree⟩
  case case3 x y hWithin level half ihSw ihSe ihNw ihNe =>
    refine concur_bind (ihSw hTwins hSharing) ?_
    rintro ⟨sw, _⟩ ⟨sw', _⟩ ⟨squareSw, hSw⟩
    have hSharingSw := hSw.interning_eq.trans hSharing
    refine concur_bind (ihSe hSw.twins hSharingSw) ?_
    rintro ⟨se, _⟩ ⟨se', _⟩ ⟨squareSe, hSe⟩
    have hSharingSe := hSe.interning_eq.trans hSharingSw
    refine concur_bind (ihNw hSe.twins hSharingSe) ?_
    rintro ⟨nw, _⟩ ⟨nw', _⟩ ⟨squareNw, hNw⟩
    have hSharingNw := hNw.interning_eq.trans hSharingSe
    refine concur_bind (ihNe hNw.twins hSharingNw) ?_
    rintro ⟨ne, after⟩ ⟨ne', after'⟩ ⟨squareNe, hNe⟩
    have hSharingNe := hNe.interning_eq.trans hSharingNw
    rcases hSe.gains with ⟨_, hGainsSe, hGainsSe'⟩
    rcases hNw.gains with ⟨_, hGainsNw, hGainsNw'⟩
    rcases hNe.gains with ⟨_, hGainsNe, hGainsNe'⟩
    -- Each quadrant stays while the others are seeded.
    have hFromNw := hGainsNw.trans hGainsNe
    have hFromNw' := hGainsNw'.trans hGainsNe'
    have hFromSe := hGainsSe.trans hFromNw
    have hFromSe' := hGainsSe'.trans hFromNw'
    have hIds :
        after.DenotesQuad ⟨sw, se, nw, ne⟩
          ⟨squareSw, squareSe, squareNw, squareNe⟩ :=
      ⟨hSw.denotes_left.of_extends hFromSe.keeps,
        hSe.denotes_left.of_extends hFromNw.keeps,
        hNw.denotes_left.of_extends hGainsNe.keeps,
        hNe.denotes_left⟩
    have hIds' :
        after'.DenotesQuad ⟨sw', se', nw', ne'⟩
          ⟨squareSw, squareSe, squareNw, squareNe⟩ :=
      ⟨hSw.denotes_right.of_extends hFromSe'.keeps,
        hSe.denotes_right.of_extends hFromNw'.keeps,
        hNw.denotes_right.of_extends hGainsNe'.keeps,
        hNe.denotes_right⟩
    subst hSharingNe
    exact (hNe.twins.concur_node hIds hIds').mono
      fun _ _ hNode =>
        ⟨_, hSw.trans (hSe.trans (hNw.trans
          (hNe.trans hNode)))⟩

end Arena

namespace Tracker

variable {L : Type}
variable [Lattice L]

theorem concur_ofLattice
    {configLeft : Config}
    (hIntern : configLeft.intern = true)
    (configRight : Config)
    (lattice : L)
    (level : Nat) :
    Concur (Arena.Spared configRight.intern)
      (Twins configLeft configRight)
      (ofLattice lattice level configLeft)
      (ofLattice lattice level configRight) := by
  have hFresh := Arena.twins_new configLeft.memoize
    configRight.intern configRight.memoize
  rw [ofLattice_eq, ofLattice_eq, hIntern]
  refine (hFresh.concur_seed lattice rfl level 0 0).map ?_
  rintro first second ⟨square, hAgree⟩
  exact twins_of_agree hIntern.symm rfl hAgree _ 0

/-
  A tracker that does not share nodes is spared the failure to
  be built if the numbers for them are used up.
-/
def Config.Spares (config : Config) : Failure → Prop
| .refused _ => False
| .broken fault => Arena.Spared config.intern fault

theorem Config.of_spares
    {config : Config}
    {failure : Failure}
    (hSpares : config.Spares failure) :
    config.intern = false ∧ failure = .broken .exhausted := by
  cases failure with
  | refused error => cases hSpares
  | broken fault =>
      exact ⟨hSpares.1, congrArg Failure.broken hSpares.2⟩

/- Two trackers of one lattice are twins from the start. -/
theorem concur_build
    {configLeft : Config}
    (hIntern : configLeft.intern = true)
    (configRight : Config)
    (lattice : L) :
    Concur configRight.Spares (Twins configLeft configRight)
      (build lattice configLeft)
      (build lattice configRight) := by
  have hConcur := concur_ofLattice hIntern configRight
    lattice (seedLevel (Lattice.side lattice))
  unfold build
  simp only
  split
  · exact .error _
  · split
    · exact .error _
    · generalize ofLattice lattice _ configLeft = left
        at hConcur ⊢
      generalize ofLattice lattice _ configRight = right
        at hConcur ⊢
      cases hConcur with
      | ok hTwins => exact .ok hTwins
      | error fault => exact .error (Failure.broken fault)
      | spared left hSpared => exact .spared _ hSpared

end Tracker

end LatticeGas
