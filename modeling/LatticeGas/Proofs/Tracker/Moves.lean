import LatticeGas.Proofs.Arena.Costs
import LatticeGas.Proofs.Arena.Numbering
import LatticeGas.Proofs.Tracker.Cycle
import LatticeGas.Proofs.Tracker.Seed
import LatticeGas.Proofs.Tracker.Spending

/-
  This file says what it means that a tracker shows a plane
  in a frame, and shows that growth, compaction and macro
  steps preserve this.

  Key definitions include:
    * `Quad.wrapped`
    * `Arena.LevelsUpTo`
    * `Tracker.Shows`

  Key theorems include:
    * `Square.ofPlane_wrap`
    * `Tracker.wrap_eq`
    * `Tracker.Shows.grow`
    * `Tracker.Shows.compact`
    * `Tracker.Shows.leap`
    * `Tracker.Shows.cellAt_eq`
    * `Tracker.Shows.wall_outside`
    * `Tracker.of_build_eq_ok`
    * `Tracker.shows_of_build_eq_ok`
-/

------------------------------------------------------------
-- Wrapped Squares
------------------------------------------------------------

namespace LatticeGas

/-
  The quadrants of a square after a wrap. On even levels it is
  the lower corner, and on odd levels it is the upper corner.
-/
def Quad.wrapped
    {A : Type}
    (level : Nat)
    (inner outer : A) : Quad A :=
  if level % 2 = 0 then
    ⟨inner, outer, outer, outer⟩
  else
    ⟨outer, outer, outer, inner⟩

theorem Arena.Denotes.wrapped
    {arena : Arena}
    {below : Nat}
    {inner outer : NodeId}
    {square walls : Square below}
    (hInner : arena.Denotes inner square)
    (hOuter : arena.Denotes outer walls)
    (level : Nat) :
    arena.DenotesQuad (Quad.wrapped level inner outer)
      (Quad.wrapped level square walls) := by
  unfold Quad.wrapped
  by_cases hEven : level % 2 = 0
  · simp only [if_pos hEven]
    exact ⟨hInner, hOuter, hOuter, hOuter⟩
  · simp only [if_neg hEven]
    exact ⟨hOuter, hOuter, hOuter, hInner⟩

namespace Square

variable {plane : Plane}
variable {side level origin : Nat}

/- A square in the lower corner, with walls above it. -/
theorem ofPlane_wrap_low
    (hWalled : plane.WalledOutside side)
    (hFits : origin + side ≤ sideOfLevel level) :
    ofPlane (level + 1) (plane.shift (-origin) (-origin)) =
      ofQuad
        { sw := ofPlane level
            (plane.shift (-origin) (-origin))
          se := uniform .wall level
          nw := uniform .wall level
          ne := uniform .wall level } := by
  have hEast :
      ∀ dy : Int,
        ofPlane level
            (plane.shift (-origin + sideOfLevel level) dy) =
          uniform .wall level :=
    fun dy => ofPlane_of_beyond hWalled level (by omega)
  have hNorth :
      ∀ dx : Int,
        ofPlane level
            (plane.shift dx (-origin + sideOfLevel level)) =
          uniform .wall level :=
    fun dx => ofPlane_of_beyond hWalled level (by omega)
  simp only [ofPlane, ofQuad, Plane.shift_shift, hEast,
    hNorth]

/- A square in the upper corner, with walls below it. -/
theorem ofPlane_wrap_high
    (hWalled : plane.WalledOutside side) :
    ofPlane (level + 1)
        (plane.shift
          (-(origin + sideOfLevel level : Nat))
          (-(origin + sideOfLevel level : Nat))) =
      ofQuad
        { sw := uniform .wall level
          se := uniform .wall level
          nw := uniform .wall level
          ne := ofPlane level
            (plane.shift (-origin) (-origin)) } := by
  have hBack :
      -((origin + sideOfLevel level : Nat) : Int) +
          sideOfLevel level =
        -origin := by
    omega
  have hWest :
      ∀ dy : Int,
        ofPlane level
            (plane.shift
              (-(origin + sideOfLevel level : Nat)) dy) =
          uniform .wall level :=
    fun dy => ofPlane_of_beyond hWalled level (by omega)
  have hSouth :
      ∀ dx : Int,
        ofPlane level
            (plane.shift dx
              (-(origin + sideOfLevel level : Nat))) =
          uniform .wall level :=
    fun dx => ofPlane_of_beyond hWalled level (by omega)
  simp only [ofPlane, ofQuad, Plane.shift_shift, hBack,
    Int.add_zero, hWest, hSouth]

/- A wrapped square is seen in the wrapped frame. -/
theorem ofPlane_wrap
    {frame : Frame}
    (hWalled : plane.WalledOutside side)
    (hFits : frame.Fits side) :
    ofPlane (frame.level + 1)
        (plane.shift (-frame.wrap.origin)
          (-frame.wrap.origin)) =
      ofQuad (Quad.wrapped frame.level
        (ofPlane frame.level
          (plane.shift (-frame.origin) (-frame.origin)))
        (uniform .wall frame.level)) := by
  unfold Quad.wrapped Frame.wrap
  by_cases hEven : frame.level % 2 = 0
  · simp only [if_pos hEven]
    exact ofPlane_wrap_low hWalled hFits
  · simp only [if_neg hEven]
    exact ofPlane_wrap_high hWalled

/- The macro step of a square moves its corner inwards. -/
theorem advance_ofPlane_of_le
    (plane : Plane)
    (hOrigin : sideOfLevel level ≤ origin) :
    (ofPlane (level + 2)
        (plane.shift (-origin) (-origin))).advance =
      ofPlane (level + 1)
        ((Plane.run (sideOfLevel level) plane).shift
          (-(origin - sideOfLevel level : Nat))
          (-(origin - sideOfLevel level : Nat))) := by
  have hInwards :
      (sideOfLevel level : Int) + -origin =
        -((origin - sideOfLevel level : Nat) : Int) := by
    omega
  rw [advance_ofPlane, Plane.leap_shift, Plane.leap,
    Plane.shift_shift, hInwards]

end Square

end LatticeGas

------------------------------------------------------------
-- Bounded Levels
------------------------------------------------------------

namespace LatticeGas

namespace Arena

/- No node of the arena lies above the given level. -/
def LevelsUpTo
    (arena : Arena)
    (top : Nat) : Prop :=
  ∀ (id : NodeId) (level : Nat),
    arena.HasLevel level id → level ≤ top

variable {before after : Arena}
variable {top smaller : Nat}

theorem LevelsUpTo.of_grows
    (hBefore : before.LevelsUpTo top)
    (hGrows : Grows smaller before after)
    (hSmaller : smaller ≤ top) :
    after.LevelsUpTo top := by
  rintro id level ⟨entry, hEntry, rfl⟩
  rcases hGrows.level_le id entry hEntry with hOld | hNew
  · exact hBefore id entry.level ⟨entry, hOld, rfl⟩
  · exact Nat.le_trans hNew hSmaller

/- An arena without nodes has none above any level. -/
theorem levelsUpTo_new
    (interning memoizing : Bool)
    (top : Nat) :
    (new interning memoizing).LevelsUpTo top := by
  rintro id level ⟨entry, hEntry, -⟩
  simp [new] at hEntry

end Arena

end LatticeGas

------------------------------------------------------------
-- What a Tracker Shows
------------------------------------------------------------

namespace LatticeGas

namespace Tracker

open Arena

/-
  The square of the tracker shows the plane after the ticks
  that have passed. The region starts at the origin of the
  plane, and lies in the square as the frame says. No node
  lies above the top level.
-/
structure Shows
    (tracker : Tracker)
    (plane : Plane)
    (side top : Nat)
    (frame : Frame) : Prop where
  sound : tracker.arena.Sound
  levels_le : tracker.arena.LevelsUpTo top
  region_eq : tracker.region = frame.region side
  fits : frame.Fits side
  denotes_root :
    tracker.arena.Denotes tracker.root
      (Square.ofPlane frame.level
        ((Plane.run tracker.elapsed plane).shift
          (-frame.origin) (-frame.origin)))

variable {tracker : Tracker}
variable {plane : Plane}
variable {side top : Nat}
variable {frame grown : Frame}

theorem Shows.level_eq
    (hShows : tracker.Shows plane side top frame) :
    tracker.level = .ok frame.level :=
  hShows.denotes_root.hasLevel.level_eq

theorem Shows.level_le
    (hShows : tracker.Shows plane side top frame) :
    frame.level ≤ top :=
  hShows.levels_le _ _ hShows.denotes_root.hasLevel

theorem Shows.level_le_max
    (hShows : tracker.Shows plane side top frame) :
    frame.level ≤ maxLevel :=
  hShows.sound.wellFormed.level_le_max
    hShows.denotes_root.hasLevel

/- Reading the square reads the plane behind it. -/
theorem Shows.arena_cellAt_eq
    (hShows : tracker.Shows plane side top frame)
    {x y : Nat}
    (hx : x < sideOfLevel frame.level)
    (hy : y < sideOfLevel frame.level) :
    tracker.arena.cellAt tracker.root x y =
      .ok (Plane.run tracker.elapsed plane
        (-frame.origin + x) (-frame.origin + y)) := by
  rw [hShows.denotes_root.cellAt_eq,
    Square.cellAt_ofPlane _ hx hy, Plane.shift]

/- The region shows the plane from its origin on. -/
theorem Shows.cellAt_eq
    (hShows : tracker.Shows plane side top frame)
    {x y : Nat}
    (hx : x < side)
    (hy : y < side) :
    tracker.cellAt x y =
      .ok (Plane.run tracker.elapsed plane x y) := by
  have hFits : frame.origin + side ≤ sideOfLevel frame.level :=
    hShows.fits
  have hBackX :
      -(frame.origin : Int) + (frame.origin + x : Nat) =
        x := by
    omega
  have hBackY :
      -(frame.origin : Int) + (frame.origin + y : Nat) =
        y := by
    omega
  unfold Tracker.cellAt
  simp only [hShows.region_eq, Frame.region,
    (require_eq_ok_iff _ _).mpr (And.intro hx hy)]
  change tracker.arena.cellAt tracker.root
    (frame.origin + x) (frame.origin + y) = _
  rw [hShows.arena_cellAt_eq (by omega) (by omega),
    hBackX, hBackY]

/- Around the region of a walled plane there are walls. -/
theorem Shows.wall_outside
    (hShows : tracker.Shows plane side top frame)
    (hWalled : plane.WalledOutside side)
    {x y : Nat}
    (hx : x < sideOfLevel frame.level)
    (hy : y < sideOfLevel frame.level)
    (hOutside :
      ¬ (frame.origin ≤ x ∧ x < frame.origin + side ∧
        frame.origin ≤ y ∧ y < frame.origin + side)) :
    tracker.arena.cellAt tracker.root x y = .ok .wall := by
  rw [hShows.arena_cellAt_eq hx hy,
    hWalled.run tracker.elapsed _ _ (by omega)]

end Tracker

end LatticeGas

------------------------------------------------------------
-- Wraps
------------------------------------------------------------

namespace LatticeGas

namespace Building

open Arena

/- Wrap a square in walls of its level. -/
def wrapping
    (level : Nat)
    (root : NodeId) : Building NodeId := do
  let outer ← wall level
  node (Quad.wrapped level root outer)

/- A wrap takes a node, and one for each level of walls. -/
theorem costs_wrapping
    (level : Nat)
    (root : NodeId)
    (arena : Arena) :
    Costs (wrapping level root) arena (level + 2) :=
  ((costs_wall level arena).bind fun outer after _ =>
    costs_node (Quad.wrapped level root outer) after).mono
      (by omega)

theorem ensures_wrapping
    {arena : Arena}
    (hSound : arena.Sound)
    {root : NodeId}
    {level : Nat}
    {square : Square level}
    (hRoot : arena.Denotes root square)
    (hMax : level < maxLevel) :
    Ensures (wrapping level root) arena (level + 1)
      fun id after =>
        after.Denotes id
          (Square.ofQuad (Quad.wrapped level square
            (Square.uniform .wall level))) := by
  have hMakes :=
    makes_wall arena (Nat.le_of_lt hMax) arena hSound
      (Extends.refl arena)
  refine (hMakes.mono (Nat.le_succ level)
    fun _ _ _ hWall => hWall).bind ?_
  intro outer after hAfter hExtends hOuter
  have hIds :=
    (hRoot.of_extends hExtends).wrapped hOuter level
  exact (ensures_node hAfter hIds hMax (Nat.le_refl _)).mono
    (Nat.le_refl _) fun _ _ _ hId => hId.1

end Building

end LatticeGas

------------------------------------------------------------
-- Growth
------------------------------------------------------------

namespace LatticeGas

namespace Tracker

open Arena Building

variable {tracker : Tracker}
variable {plane : Plane}
variable {side top : Nat}
variable {frame grown : Frame}

/- A wrap only changes the square and moves the region. -/
theorem wrap_eq
    (tracker : Tracker)
    (level : Nat) :
    tracker.wrap level =
      (wrapping level tracker.root tracker.arena).map
        fun made =>
          { tracker with
            arena := made.2
            root := made.1
            region :=
              tracker.region.shift
                (Frame.margin level) } := by
  rcases tracker with
    ⟨arena, root, region, elapsed, config⟩
  unfold Tracker.wrap wrapping Quad.wrapped Frame.margin
  cases hWall : Building.wall level arena with
  | error fault =>
      simp only [StateT.run, bind_apply, hWall]
      rfl
  | ok made =>
      simp only [StateT.run, bind_apply, hWall]
      by_cases hEven : level % 2 = 0
      · simp only [if_pos hEven]
        rfl
      · simp only [if_neg hEven]
        rfl

/- The square is left as it is if the region is central. -/
theorem growWithin_of_central
    {level : Nat}
    (hLevel : tracker.level = .ok level)
    (hCentral : tracker.region.Central level)
    (wraps : Nat) :
    growWithin (wraps + 1) tracker = .ok tracker := by
  simp only [Tracker.growWithin, hLevel, bind, Except.bind,
    if_pos hCentral]
  rfl

/- Otherwise growth goes on with the wrapped square. -/
theorem growWithin_of_off
    {level : Nat}
    (hLevel : tracker.level = .ok level)
    (hOff : ¬ tracker.region.Central level)
    (wraps : Nat) :
    growWithin (wraps + 1) tracker =
      tracker.wrap level >>= growWithin wraps := by
  simp only [Tracker.growWithin, hLevel, bind, Except.bind,
    if_neg hOff]

/- A region in the square is not what stops growth. -/
theorem grow_eq_growWithin
    {level : Nat}
    (hLevel : tracker.level = .ok level)
    (hFits : tracker.region.Fits level) :
    tracker.grow = growWithin (maxLevel + 1) tracker := by
  simp only [Tracker.grow, hLevel, bind, Except.bind,
    (require_eq_ok_iff _ _).mpr hFits]

/- Wrapping the square wraps its frame. -/
theorem Shows.wrap
    (hShows : tracker.Shows plane side top frame)
    (hWalled : plane.WalledOutside side)
    (hMax : frame.level < maxLevel)
    (hTop : frame.level + 1 ≤ top) :
    tracker.Spends (frame.level + 2) 0
      (fun after => after.Shows plane side top frame.wrap)
      (tracker.wrap frame.level) := by
  have hMade :=
    (costs_wrapping frame.level tracker.root
      tracker.arena).ensured
        (ensures_wrapping hShows.sound hShows.denotes_root
          hMax)
  rw [← Square.ofPlane_wrap
    (hWalled.run tracker.elapsed) hShows.fits] at hMade
  rw [wrap_eq]
  refine Barring.map (Barring.imp hMade ?_
    fun _ _ hResult => hResult) ?_
  · rintro fault ⟨rfl, hFull⟩
    exact .nodes hFull
  · rintro ⟨root, arena⟩ ⟨hSize, hSound, hGrows, hRoot⟩
    refine ⟨hSize, rfl, hSound,
      hShows.levels_le.of_grows hGrows hTop, ?_,
      hShows.fits.wrap, hRoot⟩
    simp only [hShows.region_eq, Frame.region, Region.shift,
      Frame.origin_wrap]

/- There are enough wraps to reach the central frame. -/
theorem Shows.growWithin
    (hShows : tracker.Shows plane side top frame)
    (hWalled : plane.WalledOutside side)
    (hGrows : Frame.GrowsTo side frame grown)
    (hMax : grown.level ≤ maxLevel)
    (hTop : grown.level ≤ top)
    {wraps : Nat}
    (hWraps : grown.level < frame.level + wraps) :
    tracker.Spends
      ((grown.level - frame.level) * (grown.level + 1)) 0
      (fun after => after.Shows plane side top grown)
      (growWithin wraps tracker) := by
  induction hGrows generalizing tracker wraps with
  | @done frame hCentral =>
      obtain ⟨rest, rfl⟩ : ∃ rest, wraps = rest + 1 :=
        ⟨wraps - 1, by omega⟩
      have hRegion :
          tracker.region.Central frame.level := by
        rw [hShows.region_eq]
        exact hCentral
      rw [growWithin_of_central hShows.level_eq hRegion rest,
        Nat.sub_self, Nat.zero_mul]
      exact spends_self hShows
  | @wrap frame grown hOff hRest ih =>
      have hLevel : frame.level + 1 ≤ grown.level :=
        hRest.level_le
      obtain ⟨rest, rfl⟩ : ∃ rest, wraps = rest + 1 :=
        ⟨wraps - 1, by omega⟩
      have hRegion :
          ¬ tracker.region.Central frame.level := by
        rw [hShows.region_eq]
        exact hOff
      have hWrappedLevel :
          grown.level < frame.wrap.level + rest := by
        change grown.level < frame.level + 1 + rest
        omega
      have hAmount :
          (grown.level - frame.level) * (grown.level + 1) =
            grown.level + 1 +
              (grown.level - frame.wrap.level) *
                (grown.level + 1) := by
        have hMore :
            grown.level - frame.level =
              grown.level - frame.wrap.level + 1 := by
          change _ = grown.level - (frame.level + 1) + 1
          omega
        rw [hMore, Nat.succ_mul, Nat.add_comm]
      have hWrap :=
        (hShows.wrap hWalled (by omega) (by omega)).mono
          (by omega : frame.level + 2 ≤ grown.level + 1)
            fun _ hAfter => hAfter
      rw [growWithin_of_off hShows.level_eq hRegion, hAmount]
      exact hWrap.bind fun wrapped _ hWrapped =>
        ih hWrapped hMax hTop hWrappedLevel

/- Growth leads to the frame in which a step is taken. -/
theorem Shows.grow
    (hShows : tracker.Shows plane side top frame)
    (hWalled : plane.WalledOutside side)
    (hGrows : Frame.GrowsTo side frame grown)
    (hMax : grown.level ≤ maxLevel)
    (hTop : grown.level ≤ top) :
    tracker.Spends
      ((grown.level - frame.level) * (grown.level + 1)) 0
      (fun after => after.Shows plane side top grown)
      tracker.grow := by
  have hFits : tracker.region.Fits frame.level := by
    rw [hShows.region_eq, Frame.fits_region_iff]
    exact hShows.fits
  rw [grow_eq_growWithin hShows.level_eq hFits]
  exact hShows.growWithin hWalled hGrows hMax hTop
    (by omega : grown.level < frame.level + (maxLevel + 1))

end Tracker

end LatticeGas

------------------------------------------------------------
-- Compaction
------------------------------------------------------------

namespace LatticeGas

namespace Tracker

open Arena Building

variable {tracker : Tracker}
variable {plane : Plane}
variable {side top : Nat}
variable {frame : Frame}

/- What is compacted is the square, and nothing moves. -/
theorem compact_eq
    (tracker : Tracker) :
    tracker.compact =
      (copyTree tracker.arena tracker.root
        (new tracker.config.intern
          tracker.config.memoize)).map
        fun made =>
          { tracker with
            root := made.1
            arena := made.2 } := by
  unfold Tracker.compact
  simp only [StateT.run]
  cases copyTree tracker.arena tracker.root
      (new tracker.config.intern tracker.config.memoize) with
  | error fault => rfl
  | ok made => rfl

theorem compact_eq_ok
    {root : NodeId}
    {arena : Arena}
    (hCopy :
      copyTree tracker.arena tracker.root
          (new tracker.config.intern
            tracker.config.memoize) =
        .ok (root, arena)) :
    tracker.compact =
      .ok { tracker with root := root, arena := arena } := by
  rw [compact_eq, hCopy]
  rfl

/-
  A compact tracker shows what it showed before, and it has
  no more nodes. So there are always numbers for these.
-/
theorem Shows.compact
    (hShows : tracker.Shows plane side top frame) :
    tracker.Spends 0 0
      (fun after => after.Shows plane side top frame)
      tracker.compact := by
  have hFresh :=
    sound_new tracker.config.intern tracker.config.memoize
  have hArena := hShows.sound.wellFormed
  rcases exists_tidy_copyTree hArena hShows.denotes_root
      tracker.config.intern tracker.config.memoize with
    ⟨root, arena, hRun, -, hRoot, -, hSize⟩
  rcases (ensures_copyTree hArena hFresh
      hShows.denotes_root).of_run hRun with
    ⟨hSound, hGrows, -⟩
  have hLevels :=
    (levelsUpTo_new _ _ top).of_grows hGrows
      hShows.level_le
  exact spends_of_eq_ok (compact_eq_ok hRun) hSize rfl
    ⟨hSound, hLevels, hShows.region_eq, hShows.fits, hRoot⟩

theorem Shows.compactIfFull
    (hShows : tracker.Shows plane side top frame) :
    tracker.Spends 0 0
      (fun after => after.Shows plane side top frame)
      tracker.compactIfFull := by
  unfold Tracker.compactIfFull
  cases tracker.config.compactThreshold with
  | none => exact spends_self hShows
  | some limit =>
      by_cases hFull : limit < tracker.arena.size
      · simp only [if_pos hFull]
        exact hShows.compact
      · simp only [if_neg hFull]
        exact spends_self hShows

end Tracker

end LatticeGas

------------------------------------------------------------
-- Macro Steps
------------------------------------------------------------

namespace LatticeGas

namespace Tracker

open Arena Building

variable {tracker : Tracker}
variable {plane : Plane}
variable {side top : Nat}
variable {frame : Frame}

/- A macro step makes the new square, and counts its ticks. -/
theorem leap_eq
    (tracker : Tracker)
    (level : Nat) :
    tracker.leap level =
      (advanceCenter tracker.root tracker.arena >>= fun made =>
        (addCount tracker.elapsed (Region.quarter level)).map
          fun elapsed =>
            { tracker with
              arena := made.2
              root := made.1
              region :=
                tracker.region.crop (Region.quarter level)
              elapsed := elapsed }) := by
  rcases tracker with
    ⟨arena, root, region, elapsed, config⟩
  simp only [Tracker.leap, StateT.run]
  cases advanceCenter root arena with
  | error fault => rfl
  | ok made =>
      change (addCount elapsed _ >>= _) = Except.map _ _
      cases addCount elapsed (Region.quarter level) with
      | error fault => rfl
      | ok sum => rfl

/- A macro step shows the plane a quarter side later. -/
theorem Shows.leap
    (hShows : tracker.Shows plane side top frame)
    (hCentral : frame.Central side) :
    tracker.Spends (Square.stepCost (frame.level - 2))
      (Region.quarter frame.level)
      (fun after => after.Shows plane side top frame.leap)
      (tracker.leap frame.level) := by
  rcases frame with ⟨level, origin⟩
  rcases hCentral.exists_level with
    ⟨below, hLevel, hOrigin, -⟩
  simp only at hLevel hOrigin
  subst hLevel
  have hQuarter :
      Region.quarter (below + 2) = sideOfLevel below :=
    rfl
  have hTop : below + 2 ≤ top := hShows.level_le
  have hStep :=
    (costs_advanceCenter hShows.sound
      hShows.denotes_root).ensured
        (ensures_advanceCenter hShows.sound
          hShows.denotes_root)
  simp only [Square.advance_ofPlane_of_le _ hOrigin,
    ← Plane.run_add] at hStep
  rw [leap_eq]
  refine Barring.bind (Barring.imp hStep ?_
    fun _ _ hResult => hResult) ?_
  · rintro fault ⟨rfl, hFull⟩
    exact .nodes hFull
  rintro ⟨next, after⟩ - ⟨hSize, hSound, hGrows, hNext⟩
  refine Barring.map (Barring.imp
    (barring_addCount tracker.elapsed _) ?_
    fun _ _ hSum => hSum) ?_
  · rintro fault ⟨rfl, hLate⟩
    exact .ticks hLate
  · rintro _ rfl
    refine ⟨hSize, rfl, hSound,
      hShows.levels_le.of_grows hGrows (by omega), ?_,
      hCentral.fits_leap, hNext⟩
    simp only [hShows.region_eq]
    rfl

end Tracker

end LatticeGas

------------------------------------------------------------
-- New Trackers
------------------------------------------------------------

namespace LatticeGas

namespace Tracker

open Arena Building

variable {L : Type}
variable [Lattice L]
variable {lattice : L}

/- The arena of a new tracker is the one of its seed. -/
theorem ofLattice_eq
    (lattice : L)
    (level : Nat)
    (config : Config) :
    ofLattice lattice level config =
      (seed lattice level 0 0
        (new config.intern config.memoize)).map
        fun made =>
          let side := Lattice.side lattice
          { arena := made.2
            root := made.1
            region := ⟨0, 0, side, side⟩
            elapsed := 0
            config := config } := by
  unfold ofLattice
  simp only [StateT.run]
  cases seed lattice level 0 0
      (new config.intern config.memoize) with
  | error fault => rfl
  | ok made => rfl

/- A lattice from which a tracker was built is readable. -/
theorem readable_of_ofLattice_eq_ok
    {config : Config}
    {level : Nat}
    {built : Tracker}
    (hBuild : ofLattice lattice level config = .ok built)
    (hLevel : Lattice.side lattice ≤ sideOfLevel level) :
    Lattice.Readable lattice := by
  intro x y hx hy
  rw [ofLattice_eq] at hBuild
  cases hSeed : seed lattice level 0 0
      (new config.intern config.memoize) with
  | error fault =>
      rw [hSeed] at hBuild
      cases hBuild
  | ok outcome =>
      exact readable_of_seed hSeed (by omega) (by omega) hx hy

/- The square of a new tracker shows the lattice. -/
theorem barring_ofLattice
    (config : Config)
    (hReadable : Lattice.Readable lattice)
    {level top : Nat}
    (hLevel : Lattice.side lattice ≤ sideOfLevel level)
    (hMax : level ≤ maxLevel)
    (hTop : level ≤ top) :
    Barring Fault.Exhaustion
      (fun built =>
        built.Shows (Lattice.plane lattice)
            (Lattice.side lattice) top ⟨level, 0⟩ ∧
          built.elapsed = 0)
      (ofLattice lattice level config) := by
  let fresh := Arena.new config.intern config.memoize
  have hFresh : fresh.Sound :=
    sound_new config.intern config.memoize
  rw [ofLattice_eq]
  refine Barring.map (makes_seed hReadable fresh hMax 0 0
    fresh hFresh (Extends.refl fresh)) ?_
  rintro ⟨root, arena⟩ ⟨hSound, hGrows, hRoot⟩
  have hLevels :=
    (levelsUpTo_new config.intern config.memoize
      top).of_grows hGrows hTop
  have hFits :
      Frame.Fits ⟨level, 0⟩ (Lattice.side lattice) := by
    unfold Frame.Fits
    rw [Nat.zero_add]
    exact hLevel
  exact ⟨⟨hSound, hLevels, rfl, hFits, hRoot⟩, rfl⟩

/- What was checked and done when a tracker was built. -/
theorem ofLattice_of_build_eq_ok
    {config : Config}
    {built : Tracker}
    (hBuild : build lattice config = .ok built) :
    0 < Lattice.side lattice ∧
      seedLevel (Lattice.side lattice) ≤ maxSeedLevel ∧
        ofLattice lattice (seedLevel (Lattice.side lattice))
          config = .ok built := by
  unfold build at hBuild
  by_cases hEmpty : Lattice.side lattice = 0
  · rw [if_pos hEmpty] at hBuild
    cases hBuild
  · rw [if_neg hEmpty] at hBuild
    by_cases hLarge :
        maxSeedLevel < seedLevel (Lattice.side lattice)
    · rw [if_pos hLarge] at hBuild
      cases hBuild
    · rw [if_neg hLarge] at hBuild
      refine ⟨by omega, by omega, ?_⟩
      split at hBuild
      · next tracker hOk =>
          cases hBuild
          exact hOk
      · cases hBuild

/- What a lattice is like from which a tracker was built. -/
theorem of_build_eq_ok
    {config : Config}
    {built : Tracker}
    (hBuild : build lattice config = .ok built) :
    Lattice.Readable lattice ∧
      0 < Lattice.side lattice ∧
        seedLevel (Lattice.side lattice) ≤ maxSeedLevel := by
  rcases ofLattice_of_build_eq_ok hBuild with
    ⟨hPos, hMax, hOk⟩
  exact ⟨readable_of_ofLattice_eq_ok hOk
    (le_sideOfLevel_seedLevel _), hPos, hMax⟩

/- A new tracker shows its lattice. -/
theorem shows_of_build_eq_ok
    {config : Config}
    {built : Tracker}
    (hBuild : build lattice config = .ok built)
    {top : Nat}
    (hTop : seedLevel (Lattice.side lattice) ≤ top) :
    built.Shows (Lattice.plane lattice)
        (Lattice.side lattice) top
        ⟨seedLevel (Lattice.side lattice), 0⟩ ∧
      built.elapsed = 0 := by
  rcases ofLattice_of_build_eq_ok hBuild with
    ⟨-, hMax, hOk⟩
  have hLevel := le_sideOfLevel_seedLevel
    (Lattice.side lattice)
  exact (barring_ofLattice config
    (readable_of_ofLattice_eq_ok hOk hLevel) hLevel
    (Nat.le_trans hMax (by decide)) hTop).of_ok hOk

end Tracker

end LatticeGas
