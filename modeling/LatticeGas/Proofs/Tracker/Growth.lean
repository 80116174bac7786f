import LatticeGas.Proofs.Arena.Actions
import LatticeGas.Proofs.Tracker.Moves

/-
  This file shows what growth does to any tracker whose arena
  is well formed, wherever its region lies and whatever shape
  it has. Two wraps are always enough, and after them the old
  square is found in the new one with walls around it.

  Key definitions include:
    * `Tracker.Pads`

  Key theorems include:
    * `Region.central_of_two_wraps`
    * `Tracker.Pads.wrap`
    * `Tracker.barring_pads_central`
    * `Tracker.grow_pads`
-/

------------------------------------------------------------
-- Two Wraps
------------------------------------------------------------

namespace LatticeGas

namespace Region

variable {region : Region}
variable {level : Nat}

/-
  After two wraps every region is central. One of the two
  puts walls below the square, and the other one above it.
-/
theorem central_of_two_wraps
    (hFits : region.Fits level) :
    (region.shift
      (Frame.wrap (Frame.wrap ⟨level, 0⟩)).origin).Central
        (level + 2) := by
  have hQuarter : quarter (level + 2) = sideOfLevel level :=
    rfl
  have hSide := sideOfLevel_succ level
  rcases hFits with ⟨hWidth, hHeight⟩
  unfold Central shift
  rw [hQuarter]
  rcases Nat.mod_two_eq_zero_or_one level with hEven | hOdd
  · rw [Frame.wrap_of_even hEven,
      Frame.wrap_of_odd (by omega)]
    simp only
    omega
  · rw [Frame.wrap_of_odd hOdd,
      Frame.wrap_of_even (by omega)]
    simp only
    omega

end Region

end LatticeGas

------------------------------------------------------------
-- Wraps of Well-Formed Arenas
------------------------------------------------------------

namespace LatticeGas

namespace Building

open Arena

/- Nothing is known of the steps here, but none is taken. -/
theorem barring_wrapping
    {arena : Arena}
    (hArena : arena.WellFormed)
    {root : NodeId}
    {level : Nat}
    {square : Square level}
    (hRoot : arena.Denotes root square)
    (hMax : level < maxLevel) :
    Barring Fault.Exhaustion
      (fun result =>
        Evolves arena result.2 ∧
          result.2.Denotes result.1
            (Square.ofQuad (Quad.wrapped level square
              (Square.uniform .wall level))))
      (wrapping level root arena) := by
  unfold wrapping
  rw [bind_apply]
  refine (barring_wall hArena (Nat.le_of_lt hMax)).bind ?_
  rintro ⟨outer, middle⟩ - ⟨hMiddle, hOuter⟩
  have hIds :=
    (hRoot.of_extends hMiddle.keeps).wrapped hOuter level
  exact (barring_node hMiddle.wellFormed hIds hMax).mono
    fun _ hLast => ⟨hMiddle.trans hLast.1, hLast.2⟩

end Building

end LatticeGas

------------------------------------------------------------
-- Padded Trackers
------------------------------------------------------------

namespace LatticeGas

namespace Tracker

open Arena Building

/-
  A tracker has the square of another one in its own square,
  at the place that the frame tells, and shows the plane
  around it. The region has moved with the square, and all
  the rest is as it was.
-/
structure Pads
    (tracker : Tracker)
    (plane : Plane)
    (frame : Frame)
    (grown : Tracker) : Prop where
  evolves : Evolves tracker.arena grown.arena
  denotes_root :
    grown.arena.Denotes grown.root
      (Square.ofPlane frame.level
        (plane.shift (-frame.origin) (-frame.origin)))
  region_eq :
    grown.region = tracker.region.shift frame.origin
  elapsed_eq : grown.elapsed = tracker.elapsed
  config_eq : grown.config = tracker.config

variable {tracker grown : Tracker}
variable {plane : Plane}
variable {frame : Frame}

theorem Pads.level_eq
    (hPads : tracker.Pads plane frame grown) :
    grown.level = .ok frame.level :=
  hPads.denotes_root.hasLevel.level_eq

/- What is read from the square is read from the plane. -/
theorem Pads.cellAt_eq
    (hPads : tracker.Pads plane frame grown)
    {x y : Nat}
    (hx : x < sideOfLevel frame.level)
    (hy : y < sideOfLevel frame.level) :
    grown.arena.cellAt grown.root x y =
      .ok (plane (x - frame.origin) (y - frame.origin)) := by
  rw [hPads.denotes_root.cellAt_eq,
    Square.cellAt_ofPlane _ hx hy, Plane.shift,
    Int.add_comm, ← Int.sub_eq_add_neg, Int.add_comm,
    ← Int.sub_eq_add_neg]

/- A tracker pads itself, without any walls. -/
theorem pads_self
    {level : Nat}
    {square : Square level}
    (hArena : tracker.arena.WellFormed)
    (hRoot : tracker.arena.Denotes tracker.root square) :
    tracker.Pads square.plane ⟨level, 0⟩ tracker := by
  have hSeen :=
    (square.agreesWith_iff square.plane).mp
      square.agreesWith_plane
  refine ⟨hArena.evolves, ?_, rfl, rfl, rfl⟩
  change tracker.arena.Denotes tracker.root
    (Square.ofPlane level (square.plane.shift 0 0))
  rw [Plane.shift_zero, ← hSeen]
  exact hRoot

/- Another wrap adds walls around what there is. -/
theorem Pads.wrap
    (hPads : tracker.Pads plane frame grown)
    {side : Nat}
    (hWalled : plane.WalledOutside side)
    (hFits : frame.Fits side)
    (hMax : frame.level < maxLevel) :
    Barring (grown.arena.Lacks (frame.level + 2))
      (fun after =>
        after.arena.size ≤
            grown.arena.size + (frame.level + 2) ∧
          tracker.Pads plane frame.wrap after)
      (grown.wrap frame.level) := by
  have hMade :=
    (costs_wrapping frame.level grown.root
      grown.arena).ensured
        (barring_wrapping hPads.evolves.wellFormed
          hPads.denotes_root hMax)
  rw [← Square.ofPlane_wrap hWalled hFits] at hMade
  rw [wrap_eq]
  refine hMade.map ?_
  rintro ⟨root, arena⟩ ⟨hSize, hEvolves, hRoot⟩
  refine ⟨hSize, hPads.evolves.trans hEvolves, hRoot, ?_,
    hPads.elapsed_eq, hPads.config_eq⟩
  simp only [hPads.region_eq, Region.shift,
    Frame.origin_wrap, Nat.add_assoc]

end Tracker

end LatticeGas

------------------------------------------------------------
-- Growth
------------------------------------------------------------

namespace LatticeGas

namespace Tracker

open Arena Building

variable {tracker grown : Tracker}
variable {level : Nat}

/-
  Growth ends with this tracker after so many wraps, however
  many more are allowed. One macro step covers its region.
-/
structure PadsCentral
    (tracker : Tracker)
    (plane : Plane)
    (level wraps offset : Nat)
    (grown : Tracker) : Prop where
  growWithin_eq :
    ∀ spare : Nat,
      growWithin (spare + wraps + 1) tracker = .ok grown
  pads : tracker.Pads plane ⟨level + wraps, offset⟩ grown
  fits :
    Frame.Fits ⟨level + wraps, offset⟩ (sideOfLevel level)
  central : grown.region.Central (level + wraps)

/-
  From a region in the square on, growth comes to its end
  after two wraps at most. For these it needs some numbers,
  and it does not stop for another reason.
-/
theorem barring_pads_central
    (hArena : tracker.arena.WellFormed)
    {square : Square level}
    (hRoot : tracker.arena.Denotes tracker.root square)
    (hMax : level + 2 ≤ maxLevel)
    (hFits : tracker.region.Fits level)
    (spare : Nat) :
    Barring (tracker.arena.Lacks (2 * level + 5))
      (fun grown =>
        ∃ wraps offset,
          wraps ≤ 2 ∧
            tracker.PadsCentral square.plane level wraps
              offset grown)
      (growWithin (spare + 3) tracker) := by
  let start : Frame := ⟨level, 0⟩
  have hWalled :
      square.plane.WalledOutside (sideOfLevel level) :=
    Plane.walledOutside_ofCells _ _
  have hStart : start.Fits (sideOfLevel level) :=
    Nat.le_of_eq (Nat.zero_add _)
  have hMaxOnce : start.wrap.level < maxLevel := hMax
  have hMaxStart : start.level < maxLevel :=
    Nat.lt_of_succ_lt hMaxOnce
  have hSelf := pads_self hArena hRoot
  by_cases hCentral : tracker.region.Central level
  · have hStays :=
      growWithin_of_central hSelf.level_eq hCentral
    exact Barring.of_eq_ok (hStays (spare + 2))
      ⟨0, 0, by omega, hStays, hSelf, hStart, hCentral⟩
  have hGoesOn := growWithin_of_off hSelf.level_eq hCentral
  rw [hGoesOn (spare + 2)]
  refine Barring.bind ((hSelf.wrap hWalled hStart
    hMaxStart).imp ?_ fun _ _ hOnce => hOnce) ?_
  · intro fault hLacks
    exact hLacks.mono (by simp only; omega)
  rintro once hWrapOnce ⟨hSizeOnce, hOnce⟩
  by_cases hCentralOnce : once.region.Central (level + 1)
  · have hStays :=
      growWithin_of_central hOnce.level_eq hCentralOnce
    refine Barring.of_eq_ok (hStays (spare + 1))
      ⟨1, start.wrap.origin, by omega, ?_, hOnce,
        hStart.wrap, hCentralOnce⟩
    intro more
    rw [hGoesOn (more + 1), hWrapOnce]
    exact hStays more
  have hGoesOnOnce :=
    growWithin_of_off hOnce.level_eq hCentralOnce
  rw [hGoesOnOnce (spare + 1)]
  refine Barring.bind ((hOnce.wrap hWalled hStart.wrap
    hMaxOnce).imp ?_ fun _ _ hTwice => hTwice) ?_
  · intro fault hLacks
    have hBoth : 2 * level + 5 = level + 2 + (level + 3) := by
      omega
    rw [hBoth]
    exact hLacks.behind hSizeOnce
  rintro twice hWrapTwice ⟨-, hTwice⟩
  have hCentralTwice :
      twice.region.Central (level + 2) := by
    rw [hTwice.region_eq]
    exact Region.central_of_two_wraps hFits
  have hStays :=
    growWithin_of_central hTwice.level_eq hCentralTwice
  refine Barring.of_eq_ok (hStays spare)
    ⟨2, start.wrap.wrap.origin, by omega, ?_, hTwice,
      hStart.wrap.wrap, hCentralTwice⟩
  intro more
  rw [hGoesOn (more + 2), hWrapOnce]
  change growWithin (more + 2) once = _
  rw [hGoesOnOnce (more + 1), hWrapTwice]
  exact hStays more

/- Whether a tracker is steppable is told by its region. -/
theorem isSteppable_eq
    (hLevel : tracker.level = .ok level) :
    tracker.isSteppable =
      .ok (decide (tracker.region.Central level)) := by
  simp only [isSteppable, hLevel, bind, Except.bind, pure,
    Except.pure]

/-
  Growth of any tracker whose region lies in its square comes
  to its end after two wraps at most, and then one macro step
  covers the region. The corner of the old square has moved
  by some offset, and with it the region. Every cell of the
  old square is found there, and all cells that are new are
  walls. A tracker that was steppable is left as it is. Only
  an arena with too few numbers left for the nodes of two
  wraps may stop growth.
-/
theorem grow_pads
    (hArena : tracker.arena.WellFormed)
    (hLevel : tracker.level = .ok level)
    (hMax : level + 2 ≤ maxLevel)
    (hFits : tracker.region.Fits level) :
    Barring (tracker.arena.Lacks (2 * level + 5))
      (fun grown =>
        ∃ wraps offset,
          wraps ≤ 2 ∧
            growWithin (wraps + 1) tracker = .ok grown ∧
            grown.level = .ok (level + wraps) ∧
            grown.isSteppable = .ok true ∧
            grown.region = tracker.region.shift offset ∧
            grown.elapsed = tracker.elapsed ∧
            grown.config = tracker.config ∧
            Evolves tracker.arena grown.arena ∧
            (∀ x y : Nat,
              x < sideOfLevel level →
                y < sideOfLevel level →
                  (x + offset < sideOfLevel (level + wraps) ∧
                      y + offset <
                        sideOfLevel (level + wraps)) ∧
                    ∃ cell : Cell,
                      tracker.arena.cellAt tracker.root x y =
                          .ok cell ∧
                        grown.arena.cellAt grown.root
                            (x + offset) (y + offset) =
                          .ok cell) ∧
            (∀ x y : Nat,
              x < sideOfLevel (level + wraps) →
                y < sideOfLevel (level + wraps) →
                  ¬ (offset ≤ x ∧
                    x < offset + sideOfLevel level ∧
                    offset ≤ y ∧
                    y < offset + sideOfLevel level) →
                    grown.arena.cellAt grown.root x y =
                      .ok .wall) ∧
            (tracker.isSteppable = .ok true →
              grown = tracker))
      tracker.grow := by
  rcases hArena.exists_denotes
      (hasLevel_of_level_eq hLevel) with ⟨square, hRoot⟩
  have hWalled :
      square.plane.WalledOutside (sideOfLevel level) :=
    Plane.walledOutside_ofCells _ _
  rw [grow_eq_growWithin hLevel hFits]
  refine (barring_pads_central hArena hRoot hMax hFits
    (maxLevel - 2)).mono ?_
  rintro grown ⟨wraps, offset, hWraps, hGrown⟩
  have hPads := hGrown.pads
  have hOnce : growWithin (wraps + 1) tracker = .ok grown := by
    simpa using hGrown.growWithin_eq 0
  have hRoom : offset + sideOfLevel level ≤
      sideOfLevel (level + wraps) :=
    hGrown.fits
  refine ⟨wraps, offset, hWraps, hOnce, hPads.level_eq, ?_,
    hPads.region_eq, hPads.elapsed_eq, hPads.config_eq,
    hPads.evolves, ?_, ?_, ?_⟩
  · rw [isSteppable_eq hPads.level_eq,
      decide_eq_true hGrown.central]
  · intro x y hx hy
    refine ⟨⟨by omega, by omega⟩, square.cellAt x y,
      hRoot.cellAt_eq x y, ?_⟩
    rw [hPads.cellAt_eq (by simp only; omega)
        (by simp only; omega),
      square.agreesWith_plane x y hx hy]
    simp only [Int.natCast_add, Int.add_sub_cancel]
  · intro x y hx hy hOutside
    rw [hPads.cellAt_eq hx hy, hWalled]
    simp only
    omega
  · intro hSteppable
    rw [isSteppable_eq hLevel] at hSteppable
    have hSelf := growWithin_of_central hLevel
      (of_decide_eq_true (Except.ok.inj hSteppable)) wraps
    exact Except.ok.inj (hOnce.symm.trans hSelf)

/- A tracker of a flat region in the upper half of a square. -/
def slab : Tracker :=
  { arena :=
      { entries :=
          #[.leaf (.lone .xPos), .leaf .empty,
            .node 1 ⟨0, 1, 1, 0⟩]
        steps := #[none, none, none]
        index := ∅
        walls := #[]
        interning := false
        memoizing := false }
    root := 2
    region := ⟨0, 1, 2, 1⟩
    elapsed := 5
    config := { intern := false, memoize := false } }

/- Its square moves up by two, and keeps its cells there. -/
theorem grow_pads_slab :
    slab.isSteppable = .ok false ∧
      ∃ grown,
        slab.grow = .ok grown ∧
          grown.isSteppable = .ok true ∧
          grown.level = .ok 3 ∧
          grown.region = ⟨2, 3, 2, 1⟩ ∧
          grown.arena.cellAt grown.root 3 3 =
            .ok (.lone .xPos) ∧
          grown.arena.cellAt grown.root 3 4 = .ok .wall := by
  have hRun :
      Action.run
          [.leaf (.lone .xPos), .leaf .empty,
            .node ⟨0, 1, 1, 0⟩]
          (new false false) =
        .ok ([some 0, some 1, some 2], slab.arena) :=
    rfl
  have hArena := (Action.evolves_of_run hRun).wellFormed
  have hMax : 1 + 2 ≤ maxLevel := by decide
  have hFits : slab.region.Fits 1 := by decide
  have hEnd :
      ∃ grown,
        slab.grow = .ok grown ∧ grown.level = .ok 3 ∧
          grown.region = ⟨2, 3, 2, 1⟩ :=
    ⟨_, rfl, rfl, rfl⟩
  rcases hEnd with ⟨grown, hGrow, hThree, hMoved⟩
  rcases (grow_pads hArena rfl hMax hFits).of_ok hGrow with
    ⟨wraps, offset, -, -, hLevel, hSteppable, hRegion, -, -,
      -, hCells, hWalls, -⟩
  have hWraps : 3 = 1 + wraps :=
    Except.ok.inj (hThree.symm.trans hLevel)
  have hOffset : 2 = 0 + offset :=
    congrArg Region.originX (hMoved.symm.trans hRegion)
  obtain rfl : wraps = 2 := by omega
  obtain rfl : offset = 2 := by omega
  rcases hCells 1 1 (by decide) (by decide) with
    ⟨-, cell, hOld, hNew⟩
  have hLone : cell = .lone .xPos :=
    Except.ok.inj (hOld.symm.trans rfl)
  rw [hLone] at hNew
  exact ⟨rfl, grown, hGrow, hSteppable, hThree, hMoved, hNew,
    hWalls 3 4 (by decide) (by decide) (by decide)⟩

end Tracker

end LatticeGas
