import LatticeGas.Proofs.Arena.Closure
import LatticeGas.Proofs.Arena.Costs
import LatticeGas.Proofs.Tracker.Moves
import Mathlib.Algebra.Order.BigOperators.Group.Finset

/-
  This file counts the nodes that the square of a lattice
  takes when no nodes are shared: one for each of its parts
  that begins in the lattice, and one for each level of walls.
  A seed comes to its end if there are numbers for so many,
  and without sharing it does so only then.

  Key definitions include:
    * `Tracker.blocks`
    * `Tracker.seedNodes`

  Key theorems include:
    * `Tracker.blocks_succ`
    * `Building.weighs_seed`
    * `Building.takes_seed`
    * `Tracker.build_cases`
-/

------------------------------------------------------------
-- Parts That Begin in a Lattice
------------------------------------------------------------

namespace LatticeGas

namespace Tracker

/-
  A square of the level `high` begins at `x`. Of its parts of
  the level `low` that lie side by side, so many begin before
  the side.
-/
def blocks (side low high x : Nat) : Nat :=
  min (2 ^ (high - low)) ((side - x + 2 ^ low - 1) / 2 ^ low)

/- So many parts of all levels begin before it on both axes. -/
def seedNodes (side level x y : Nat) : Nat :=
  ∑ low ∈ Finset.range (level + 1),
    blocks side low level x * blocks side low level y

variable {side low high x y level : Nat}

/- No part begins before the side if the square does not. -/
theorem blocks_of_beyond
    (low high : Nat)
    (hBeyond : side ≤ x) :
    blocks side low high x = 0 := by
  have hPos := Nat.two_pow_pos low
  unfold blocks
  rw [Nat.sub_eq_zero_of_le hBeyond, Nat.zero_add,
    Nat.div_eq_of_lt (by omega), Nat.min_zero]

/- The square itself is a single part. -/
theorem blocks_self
    (level : Nat)
    (hWithin : x < side) :
    blocks side level level x = 1 := by
  have hPos := Nat.two_pow_pos level
  have hOne :
      1 ≤ (side - x + 2 ^ level - 1) / 2 ^ level :=
    (Nat.one_le_div_iff hPos).mpr (by omega)
  unfold blocks
  rw [Nat.sub_self, Nat.pow_zero]
  omega

/- Smaller parts are those of both halves. -/
theorem blocks_succ
    (hLow : low ≤ high)
    (side x : Nat) :
    blocks side low (high + 1) x =
      blocks side low high x +
        blocks side low high (x + 2 ^ high) := by
  have hPos := Nat.two_pow_pos low
  have hTwice :
      2 ^ (high + 1 - low) =
        2 ^ (high - low) + 2 ^ (high - low) := by
    rw [Nat.succ_sub hLow, Nat.pow_succ, Nat.mul_two]
  have hWhole : 2 ^ low * 2 ^ (high - low) = 2 ^ high := by
    rw [← Nat.pow_add, Nat.add_sub_cancel' hLow]
  unfold blocks
  rw [hTwice, ← Nat.sub_sub, ← hWhole]
  generalize 2 ^ low = size at hPos ⊢
  generalize 2 ^ (high - low) = half
  generalize side - x = rest
  by_cases hEnough : size * half ≤ rest
  · have hSplit :
        rest - size * half + size - 1 =
          rest + size - 1 - size * half := by
      omega
    rw [hSplit, Nat.sub_mul_div]
    omega
  · have hFew : (rest + size - 1) / size ≤ half := by
      rw [← Nat.lt_succ_iff, Nat.div_lt_iff_lt_mul hPos,
        Nat.succ_mul, Nat.mul_comm]
      omega
    have hNone :
        (rest - size * half + size - 1) / size = 0 :=
      Nat.div_eq_of_lt (by omega)
    rw [hNone]
    omega

theorem seedNodes_of_beyond
    (level : Nat)
    (hBeyond : side ≤ x ∨ side ≤ y) :
    seedNodes side level x y = 0 := by
  apply Finset.sum_eq_zero
  intro low _
  rcases hBeyond with hEast | hNorth
  · rw [blocks_of_beyond low level hEast, Nat.zero_mul]
  · rw [blocks_of_beyond low level hNorth, Nat.mul_zero]

theorem seedNodes_zero
    (hWithin : ¬ (side ≤ x ∨ side ≤ y)) :
    seedNodes side 0 x y = 1 := by
  unfold seedNodes
  rw [Finset.sum_range_one, blocks_self 0 (by omega),
    blocks_self 0 (by omega)]

/- The parts are those of the quadrants, and the square. -/
theorem seedNodes_succ
    (hWithin : ¬ (side ≤ x ∨ side ≤ y)) :
    seedNodes side (level + 1) x y =
      seedNodes side level x y +
        (seedNodes side level (x + 2 ^ level) y +
          (seedNodes side level x (y + 2 ^ level) +
            (seedNodes side level (x + 2 ^ level)
              (y + 2 ^ level) + 1))) := by
  unfold seedNodes
  rw [Finset.sum_range_succ, blocks_self _ (by omega),
    blocks_self _ (by omega), ← Nat.add_assoc,
    ← Nat.add_assoc, ← Nat.add_assoc,
    ← Finset.sum_add_distrib, ← Finset.sum_add_distrib,
    ← Finset.sum_add_distrib]
  congr 1
  refine Finset.sum_congr rfl fun low hLow => ?_
  have hBelow : low ≤ level :=
    Nat.le_of_lt_succ (Finset.mem_range.mp hLow)
  rw [blocks_succ hBelow, blocks_succ hBelow]
  generalize blocks side low level x = w
  generalize blocks side low level (x + 2 ^ level) = e
  generalize blocks side low level y = s
  generalize blocks side low level (y + 2 ^ level) = n
  rw [Nat.add_mul, Nat.mul_add, Nat.mul_add]
  omega

/- A larger lattice has no fewer parts. -/
theorem seedNodes_mono
    {larger : Nat}
    (hSide : side ≤ larger)
    (level x y : Nat) :
    seedNodes side level x y ≤ seedNodes larger level x y := by
  have hBlocks :
      ∀ low x : Nat,
        blocks side low level x ≤ blocks larger low level x :=
    fun low x => by
      have hCount :=
        Nat.div_le_div_right (c := 2 ^ low)
          (by omega : side - x + 2 ^ low - 1 ≤
            larger - x + 2 ^ low - 1)
      unfold blocks
      omega
  exact Finset.sum_le_sum fun low _ =>
    Nat.mul_le_mul (hBlocks low x) (hBlocks low y)

end Tracker

end LatticeGas

------------------------------------------------------------
-- At Most So Many Nodes
------------------------------------------------------------

namespace LatticeGas

namespace Arena

/-
  How many nodes there are, together with the walls below the
  top that are still to be made.
-/
def reserve
    (top : Nat)
    (arena : Arena) : Nat :=
  arena.size + (top - arena.walls.size)

end Arena

namespace Building

open Arena Tracker

variable {arena after : Arena}
variable {id : NodeId}
variable {level top : Nat}

theorem counts_reserve (top : Nat) : Counts (reserve top) := by
  intro arena entry
  have hSize := size_extended arena entry
  have hWalls := walls_extended arena entry
  unfold reserve
  rw [hWalls]
  omega

/- A node that is made is no remembered wall. -/
theorem walls_of_node
    {ids : Quad NodeId}
    (hRun : node ids arena = .ok (id, after)) :
    after.walls = arena.walls := by
  rcases answered_of_bind hRun with ⟨level, -, hPush⟩
  exact walls_push hPush

/-
  A wall that is remembered was so before, or is the one that
  was built.
-/
theorem walls_size_of_wallOr
    {build : Building NodeId}
    (hBuild :
      arena.walls.size ≤ level →
        ∀ built middle,
          build arena = .ok (built, middle) →
            middle.walls.size = level)
    (hRun : wallOr level build arena = .ok (id, after)) :
    after.walls.size = max arena.walls.size (level + 1) := by
  unfold wallOr at hRun
  cases hFound : arena.walls[level]? with
  | some found =>
      rw [hFound] at hRun
      cases hRun
      have hLevel : level < arena.walls.size :=
        (Array.getElem?_eq_some_iff.mp hFound).choose
      omega
  | none =>
      rw [hFound] at hRun
      rcases bind_eq_ok hRun with
        ⟨built, middle, hMade, hKept⟩
      cases hKept
      have hSize := Array.getElem?_eq_none_iff.mp hFound
      have hMiddle := hBuild hSize id middle hMade
      change (middle.walls.push id).size = _
      rw [Array.size_push, hMiddle]
      omega

/- The walls up to the level are remembered in the end. -/
theorem walls_size_of_wallUpTo
    (hRun : wallUpTo level arena = .ok (id, after)) :
    after.walls.size = max arena.walls.size (level + 1) := by
  induction level generalizing id after with
  | zero =>
      refine walls_size_of_wallOr ?_ hRun
      intro hSize built middle hMade
      rw [walls_push hMade]
      omega
  | succ level ih =>
      refine walls_size_of_wallOr ?_ hRun
      intro hSize built last hMade
      rcases bind_eq_ok hMade with
        ⟨quadrant, middle, hBelow, hNode⟩
      rw [walls_of_node hNode, ih hBelow]
      omega

/- Walls are reserved, so that they add nothing. -/
theorem weighs_wallUpTo
    (hTop : level < top)
    (arena : Arena) :
    Weighs (reserve top) (wallUpTo level) arena 0 := by
  refine Barring.imp (costs_wallUpTo level arena) ?_ ?_
  · intro fault hFault hExhausted
    have hLacks := hFault hExhausted
    unfold reserve
    omega
  · rintro ⟨id, after⟩ hRun hSize
    have hWalls := walls_size_of_wallUpTo hRun
    unfold reserve
    simp only at hSize ⊢
    omega

theorem weighs_wall
    (hTop : level < top)
    (arena : Arena) :
    Weighs (reserve top) (wall level) arena 0 :=
  weighs_wallUpTo
    (Nat.lt_of_le_of_lt (Nat.min_le_left level _) hTop) arena

variable {L : Type}
variable [Lattice L]
variable {lattice : L}

theorem weighs_seed
    (hReadable : Lattice.Readable lattice)
    (hTop : level < top)
    (x y : Nat)
    (arena : Arena) :
    Weighs (reserve top) (seed lattice level x y) arena
      (seedNodes (Lattice.side lattice) level x y) := by
  fun_induction seed lattice level x y generalizing arena with
  | case1 level x y hBeyond =>
      rw [seedNodes_of_beyond level hBeyond]
      exact weighs_wall hTop arena
  | case2 x y hWithin =>
      rw [seedNodes_zero hWithin]
      have hCell :=
        hReadable.cellAt_eq
          (by omega : x < Lattice.side lattice)
          (by omega : y < Lattice.side lattice)
      refine weighs_bind_lift
        (Barring.of_eq_ok hCell trivial) ?_
      intro cell _
      exact weighs_leaf (counts_reserve top) cell arena
  | case3 x y hWithin level half hSw hSe hNw hNe =>
      have hBelow : level < top := Nat.lt_of_succ_lt hTop
      rw [seedNodes_succ hWithin]
      refine (hSw hBelow arena).bind ?_
      intro sw _ _
      refine (hSe hBelow _).bind ?_
      intro se _ _
      refine (hNw hBelow _).bind ?_
      intro nw _ _
      refine (hNe hBelow _).bind ?_
      intro ne last _
      exact weighs_node (counts_reserve top) _ last

end Building

end LatticeGas

------------------------------------------------------------
-- At Least So Many Nodes
------------------------------------------------------------

namespace LatticeGas

namespace Building

open Arena Tracker

variable {arena after : Arena}
variable {id : NodeId}

/-
  At least so many nodes are added to an arena that does not
  share them, whenever the computation comes to its end.
-/
def Takes
    (build : Building NodeId)
    (amount : Nat) : Prop :=
  ∀ (arena : Arena) (id : NodeId) (after : Arena),
    arena.interning = false →
      build arena = .ok (id, after) →
        after.interning = false ∧
          arena.size + amount ≤ after.size

/- Without sharing, whatever is asked for is added. -/
theorem takes_of_push
    {entry : Entry}
    (hPlain : arena.interning = false)
    (hPush : arena.push entry = .ok (id, after)) :
    after.interning = false ∧
      arena.size + 1 ≤ after.size := by
  cases pushed_of_push_eq_ok hPush with
  | found _ hShares _ =>
      rw [hPlain] at hShares
      cases hShares
  | added =>
      exact ⟨hPlain, Nat.le_of_eq
        (size_extended arena entry).symm⟩

theorem takes_leaf
    (cell : Cell) :
    Takes (leaf cell) 1 :=
  fun _ _ _ hPlain hRun => takes_of_push hPlain hRun

theorem takes_node
    (ids : Quad NodeId) :
    Takes (node ids) 1 := by
  intro arena id after hPlain hRun
  rcases answered_of_bind hRun with ⟨level, -, hPush⟩
  exact takes_of_push hPlain hPush

/- No node is ever taken away. -/
theorem stable_size
    (least : Nat) :
    Stable fun arena =>
      arena.interning = false ∧ least ≤ arena.size where
  extended arena entry hArena := by
    rw [size_extended]
    exact ⟨hArena.1, Nat.le_succ_of_le hArena.2⟩
  pushWall _ _ hArena := hArena
  setNext _ _ _ _ hArena := hArena

theorem takes_wall
    (level : Nat) :
    Takes (wall level) 0 :=
  fun arena id after hPlain hRun =>
    (stable_size arena.size).closed_keeps.wall level arena id
      after ⟨hPlain, Nat.le_refl _⟩ hRun

theorem Takes.bind
    {build : Building NodeId}
    {next : NodeId → Building NodeId}
    {amount rest : Nat}
    (hBuild : Takes build amount)
    (hNext : ∀ id, Takes (next id) rest) :
    Takes (build >>= next) (amount + rest) := by
  intro arena id after hPlain hRun
  rcases bind_eq_ok hRun with ⟨first, middle, hFirst, hRest⟩
  rcases hBuild arena first middle hPlain hFirst with
    ⟨hMiddle, hSize⟩
  rcases hNext first middle id after hMiddle hRest with
    ⟨hAfter, hMore⟩
  exact ⟨hAfter, by omega⟩

variable {L : Type}
variable [Lattice L]

/- A seed takes a node for each part in the lattice. -/
theorem takes_seed
    (lattice : L)
    (level x y : Nat) :
    Takes (seed lattice level x y)
      (seedNodes (Lattice.side lattice) level x y) := by
  fun_induction seed lattice level x y with
  | case1 level x y hBeyond =>
      rw [seedNodes_of_beyond level hBeyond]
      exact takes_wall level
  | case2 x y hWithin =>
      rw [seedNodes_zero hWithin]
      intro arena id after hPlain hRun
      rcases bind_eq_ok hRun with ⟨cell, _, hRead, hLeaf⟩
      rcases lift_eq_ok hRead with ⟨-, rfl⟩
      exact takes_leaf cell _ id after hPlain hLeaf
  | case3 x y hWithin level half hSw hSe hNw hNe =>
      rw [seedNodes_succ hWithin]
      refine hSw.bind fun sw => ?_
      refine hSe.bind fun se => ?_
      refine hNw.bind fun nw => ?_
      refine hNe.bind fun ne => ?_
      exact takes_node ⟨sw, se, nw, ne⟩

end Building

end LatticeGas

------------------------------------------------------------
-- New Trackers
------------------------------------------------------------

namespace LatticeGas

namespace Tracker

open Arena Building

variable {L : Type}
variable [Lattice L]
variable {lattice : L}

/- How many nodes a new tracker of a level has at most. -/
def buildNodes (side level : Nat) : Nat :=
  seedNodes side level 0 0 + (level + 1)

/-
  A tracker is made if there are numbers for its nodes, and it
  takes no more than those.
-/
theorem ofLattice_takes
    (config : Config)
    (hReadable : Lattice.Readable lattice)
    {level : Nat}
    (hLevel : Lattice.side lattice ≤ sideOfLevel level)
    (hMax : level ≤ maxLevel) :
    Barring
      (fun fault =>
        fault = .exhausted ∧
          nodeLimit < buildNodes (Lattice.side lattice) level)
      (fun built =>
        built.arena.size ≤
          buildNodes (Lattice.side lattice) level)
      (ofLattice lattice level config) := by
  have hShows := barring_ofLattice config hReadable hLevel
    hMax (Nat.le_refl level)
  have hWeighs :=
    weighs_seed hReadable (Nat.lt_add_one level) 0 0
      (new config.intern config.memoize)
  have hReserve :
      reserve (level + 1)
          (new config.intern config.memoize) =
        level + 1 :=
    Nat.zero_add (level + 1)
  have hSizes :
      Barring
        (fun fault =>
          fault.Exhaustion →
            nodeLimit <
              buildNodes (Lattice.side lattice) level)
        (fun built =>
          built.arena.size ≤
            buildNodes (Lattice.side lattice) level)
        (ofLattice lattice level config) := by
    rw [ofLattice_eq]
    unfold buildNodes
    refine Barring.map (Barring.imp hWeighs ?_
      fun _ _ hWeight => hWeight) ?_
    · intro fault hFault hExhausted
      have hLacks := hFault hExhausted
      omega
    · rintro ⟨root, arena⟩ hWeight
      simp only at hWeight
      unfold reserve at hWeight hReserve
      simp only
      omega
  refine (hShows.both hSizes).imp ?_ fun _ _ hBoth => hBoth.2
  rintro fault ⟨rfl, hLacks⟩
  exact ⟨rfl, hLacks rfl⟩

/-
  A lattice that is not refused is built, unless the numbers
  for nodes are used up.
-/
theorem build_cases
    (config : Config)
    (hReadable : Lattice.Readable lattice)
    (hPos : 0 < Lattice.side lattice)
    {level : Nat}
    (hLevel : seedLevel (Lattice.side lattice) = level)
    (hMax : level ≤ maxSeedLevel) :
    (build lattice config = .error (.broken .exhausted) ∧
        nodeLimit <
          buildNodes (Lattice.side lattice) level) ∨
      ∃ built,
        build lattice config = .ok built ∧
          built.arena.size ≤
            buildNodes (Lattice.side lattice) level := by
  subst hLevel
  have hTakes := ofLattice_takes config hReadable
    (le_sideOfLevel_seedLevel (Lattice.side lattice))
    (Nat.le_trans hMax (by decide))
  unfold build
  rw [if_neg (Nat.pos_iff_ne_zero.mp hPos),
    if_neg (Nat.not_lt.mpr hMax)]
  cases hBuild : ofLattice lattice
      (seedLevel (Lattice.side lattice)) config with
  | ok built =>
      exact Or.inr ⟨built, rfl, hTakes.of_ok hBuild⟩
  | error fault =>
      rcases hTakes.excused_of_error hBuild with
        ⟨rfl, hLacks⟩
      exact Or.inl ⟨rfl, hLacks⟩

/- With numbers for all its nodes a lattice is built. -/
theorem exists_built
    (config : Config)
    (hReadable : Lattice.Readable lattice)
    (hPos : 0 < Lattice.side lattice)
    {level : Nat}
    (hLevel : seedLevel (Lattice.side lattice) = level)
    (hMax : level ≤ maxSeedLevel)
    (hRoom :
      buildNodes (Lattice.side lattice) level ≤ nodeLimit) :
    ∃ built,
      build lattice config = .ok built ∧
        built.arena.size ≤
          buildNodes (Lattice.side lattice) level := by
  rcases build_cases config hReadable hPos hLevel hMax with
    ⟨-, hLacks⟩ | hBuilt
  · exact absurd hLacks (Nat.not_lt.mpr hRoom)
  · exact hBuilt

end Tracker

end LatticeGas
