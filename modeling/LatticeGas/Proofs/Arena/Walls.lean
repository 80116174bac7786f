import LatticeGas.Proofs.Arena.Actions
import LatticeGas.Proofs.Arena.Twins
import Mathlib.Data.List.Basic

/-
  This file shows what it takes to have a square of walls.
  Walls that are not remembered are built in the order of
  their levels, except for those that are found where nodes
  are shared. They are remembered from then on, whatever is
  done to the arena, so that none of them is built again. If
  there are numbers for all of them, nothing stops this.

  Key definitions include:
    * `Piece.wall`
    * `Arena.wallsLeft`
    * `Arena.AddsWalls`
    * `Arena.RemembersWall`

  Key theorems include:
    * `Building.appendsSome_of_wallUpTo`
    * `Building.added_walls`
    * `Arena.stable_walls`
    * `Arena.remembersWall_of_walls`
    * `Arena.wall_of_run`
-/

------------------------------------------------------------
-- Walls That Are Built
------------------------------------------------------------

namespace LatticeGas

/- The square of walls of a level. -/
def Piece.wall (level : Nat) : Piece :=
  ⟨level, Square.uniform .wall level⟩

namespace Arena

/-
  The levels up to the given one whose squares of walls are
  not remembered, the lowest first.
-/
def wallsLeft
    (arena : Arena)
    (level : Nat) : List Nat :=
  List.range' arena.walls.size (level + 1 - arena.walls.size)

variable {arena : Arena}
variable {level : Nat}

theorem wallsLeft_of_lt
    (hLevel : level < arena.walls.size) :
    arena.wallsLeft level = [] := by
  have hNone : level + 1 - arena.walls.size = 0 := by omega
  rw [wallsLeft, hNone, List.range'_zero]

theorem wallsLeft_succ
    (hLevel : arena.walls.size ≤ level + 1) :
    arena.wallsLeft (level + 1) =
      arena.wallsLeft level ++ [level + 1] := by
  have hCount :
      level + 1 + 1 - arena.walls.size =
        level + 1 - arena.walls.size + 1 := by
    omega
  have hLast :
      arena.walls.size + (level + 1 - arena.walls.size) =
        level + 1 := by
    omega
  rw [wallsLeft, hCount, List.range'_1_concat, hLast]
  rfl

theorem mem_wallsLeft_iff
    {below : Nat} :
    below ∈ arena.wallsLeft level ↔
      arena.walls.size ≤ below ∧ below ≤ level := by
  rw [wallsLeft, List.mem_range'_1]
  omega

end Arena

namespace Building

open Arena

variable {all : Prop}
variable {arena after : Arena}
variable {id : NodeId}
variable {level : Nat}

/-
  A remembered wall is found. Otherwise the wall is appended
  behind those below its level, and is remembered then.
-/
theorem appendsSome_of_wallOr
    {build : Building NodeId}
    (hBuild :
      arena.walls.size ≤ level →
        ∀ built middle,
          build arena = .ok (built, middle) →
            middle.walls.size = level ∧
              AppendsSome all arena middle
                ((arena.wallsLeft level).map Piece.wall))
    (hRun : wallOr level build arena = .ok (id, after)) :
    after.walls[level]? = some id ∧
      AppendsSome all arena after
        ((arena.wallsLeft level).map Piece.wall) := by
  unfold wallOr at hRun
  cases hFound : arena.walls[level]? with
  | some found =>
      rw [hFound] at hRun
      cases hRun
      have hLevel : level < arena.walls.size :=
        (Array.getElem?_eq_some_iff.mp hFound).choose
      rw [wallsLeft_of_lt hLevel]
      exact ⟨hFound, appendsSome_of_entries_eq rfl rfl⟩
  | none =>
      rw [hFound] at hRun
      rcases bind_eq_ok hRun with
        ⟨built, middle, hMade, hKept⟩
      cases hKept
      rcases hBuild (Array.getElem?_eq_none_iff.mp hFound)
        id middle hMade with ⟨rfl, hSome⟩
      constructor
      · exact Array.getElem?_push_size
      · rw [← List.append_nil (List.map _ _)]
        exact hSome.trans
          (appendsSome_of_entries_eq rfl rfl)

/- The walls that are missing are appended in order. -/
theorem appendsSome_of_wallUpTo
    (hArena : arena.WellFormed)
    (hPlain : all → arena.interning = false)
    (hMax : level ≤ maxLevel)
    (hRun : wallUpTo level arena = .ok (id, after)) :
    after.walls[level]? = some id ∧
      AppendsSome all arena after
        ((arena.wallsLeft level).map Piece.wall) := by
  induction level generalizing id after with
  | zero =>
      refine appendsSome_of_wallOr ?_ hRun
      intro hSize built middle hBuilt
      rcases leaves_leaf hArena .wall built middle hBuilt with
        ⟨-, -, hWalls⟩
      have hNone : arena.walls.size = 0 := by omega
      have hSome := appendsSome_push hArena
        (names_leaf arena .wall) hBuilt hPlain
      rw [hWalls, wallsLeft, hNone]
      exact ⟨rfl, hSome⟩
  | succ level ih =>
      refine appendsSome_of_wallOr ?_ hRun
      intro hSize built last hBuilt
      rcases bind_eq_ok hBuilt with
        ⟨quadrant, middle, hBelow, hNode⟩
      rcases leaves_wallUpTo hArena level quadrant middle
        hBelow with ⟨hMiddle, hWall, hWalls⟩
      have hQuad :
          middle.DenotesQuad (Quad.all quadrant)
            (Quad.all (Square.uniform .wall level)) :=
        ⟨hWall, hWall, hWall, hWall⟩
      rcases leaves_node hMiddle.wellFormed _ built last hNode
        with ⟨-, -, hSame⟩
      have hSome := (ih (by omega) hBelow).2
      have hPush := node_eq_push hQuad (by omega)
      rw [hNode] at hPush
      have hLast := appendsSome_push hMiddle.wellFormed
        (hQuad.names (by omega)) hPush.symm
        fun hFull => hMiddle.interning_eq.trans
          (hPlain hFull)
      rw [wallsLeft_succ hSize, List.map_append, hSame,
        hWalls]
      exact ⟨by omega, hSome.trans hLast⟩

end Building

end LatticeGas

------------------------------------------------------------
-- Walls That Are Remembered
------------------------------------------------------------

namespace LatticeGas

namespace Arena

open Building

variable {arena : Arena}
variable {id : NodeId}
variable {level : Nat}

/-
  Whatever is done next, this node is found as the wall of the
  level, and nothing is added for it.
-/
def RemembersWall
    (arena : Arena)
    (level : Nat)
    (id : NodeId) : Prop :=
  ∀ (actions : List Action) (answers : List (Option NodeId))
    (later : Arena),
    Action.run actions arena = .ok (answers, later) →
      Building.wall level later = .ok (id, later)

/- No wall that is remembered is ever replaced. -/
theorem stable_walls
    (level : Nat)
    (id : NodeId) :
    Stable fun arena => arena.walls[level]? = some id where
  extended _ _ hWall := hWall
  pushWall := by
    intro arena other hWall
    have hLevel : level < arena.walls.size :=
      (Array.getElem?_eq_some_iff.mp hWall).choose
    change (arena.walls.push other)[level]? = some id
    rw [Array.getElem?_push_lt hLevel,
      ← Array.getElem?_eq_getElem hLevel, hWall]
  setNext _ _ _ _ hWall := hWall

theorem wall_eq_of_walls
    (hMax : level ≤ maxLevel)
    (hWall : arena.walls[level]? = some id) :
    Building.wall level arena = .ok (id, arena) := by
  have hFound :
      ∀ build : Building NodeId,
        wallOr level build arena = .ok (id, arena) := by
    intro build
    simp only [wallOr, hWall]
  rw [wall_of_le hMax]
  cases level with
  | zero => exact hFound _
  | succ level => exact hFound _

theorem remembersWall_of_walls
    (hMax : level ≤ maxLevel)
    (hWall : arena.walls[level]? = some id) :
    arena.RemembersWall level id := by
  intro actions answers later hRun
  have hLater :=
    Action.holds_run (stable_walls level id).closed_keeps
      actions arena answers later hWall hRun
  exact wall_eq_of_walls hMax hLater

end Arena

end LatticeGas

------------------------------------------------------------
-- Walls of Arenas That Are Reached
------------------------------------------------------------

namespace LatticeGas

namespace Arena

/- The nodes that have been added are walls, level by level. -/
structure AddsWalls
    (before after : Arena)
    (levels : List Nat) : Prop where
  size_eq : after.size = before.size + levels.length
  denotes :
    ∀ place level : Nat,
      levels[place]? = some level →
        after.Denotes (before.size + place)
          (Square.uniform .wall level)

variable {before arena after : Arena}

/- A square that was missing is one that has been added. -/
theorem AddsWalls.mem_of_denotes
    {levels : List Nat}
    (hAdds : AddsWalls before after levels)
    (hBefore : before.WellFormed)
    (hExtends : Extends before after)
    {level : Nat}
    (hMissing : ¬ before.Holds (Piece.wall level))
    {id : NodeId}
    (hWall :
      after.Denotes id (Square.uniform .wall level)) :
    level ∈ levels := by
  have hNew : before.size ≤ id := by
    by_contra hOld
    have hEntry :=
      Array.getElem?_eq_getElem (Nat.lt_of_not_le hOld)
    rcases hBefore.exists_denotes ⟨_, hEntry, rfl⟩ with
      ⟨square, hSquare⟩
    have hKept := hSquare.of_extends hExtends
    have hPiece :
        Piece.mk _ square = Piece.wall level :=
      hKept.piece_eq hWall
    exact hMissing (hPiece ▸ hSquare.holds)
  have hPlace : id - before.size < levels.length := by
    have hSize := hWall.hasLevel.lt_size
    rw [hAdds.size_eq] at hSize
    exact Nat.sub_lt_left_of_lt_add hNew hSize
  have hFound := List.getElem?_eq_getElem hPlace
  have hAdded := hAdds.denotes _ _ hFound
  rw [Nat.add_sub_cancel' hNew] at hAdded
  rw [hWall.hasLevel.unique hAdded.hasLevel]
  exact List.getElem_mem hPlace

end Arena

namespace Building

open Arena

variable {arena : Arena}
variable {level : Nat}

/- The walls that were left are added, or else are found. -/
theorem added_walls
    (hArena : arena.WellFormed)
    (hMax : level ≤ maxLevel) :
    Barring (arena.Lacks (level + 1 - arena.walls.size))
      (fun (id, after) =>
        ∃ added : List Nat,
          Evolves arena after ∧
          (∀ below, below ≤ level → ∃ kept,
            after.walls[below]? = some kept) ∧
          after.walls[level]? = some id ∧
          AddsWalls arena after added ∧
          added.Sublist (arena.wallsLeft level) ∧
          (arena.interning = false →
            added = arena.wallsLeft level) ∧
          (arena.interning = true →
            ∀ below ∈ added,
              ¬ arena.Holds (Piece.wall below)))
      (wall level arena) := by
  refine ((costs_wall level arena).both
    (barring_wall hArena hMax)).imp ?_ ?_
  · rintro fault ⟨hLacks, rfl⟩
    exact ⟨rfl, hLacks rfl⟩
  rintro ⟨id, after⟩ hRun -
  rw [wall_of_le hMax] at hRun
  rcases leaves_wallUpTo hArena level id after hRun with
    ⟨hEvolves, -, hWalls⟩
  rcases appendsSome_of_wallUpTo hArena (fun h => h) hMax
    hRun with ⟨hWall, hSome⟩
  rcases hSome.exists_part with
    ⟨part, hPart, hAppends, hAll, hNew⟩
  rcases List.sublist_map_iff.mp hPart with
    ⟨added, hAdded, rfl⟩
  have hSize := hAppends.size_eq hArena
  rw [List.length_map] at hSize
  refine ⟨added, hEvolves, ?_, hWall, ⟨hSize, ?_⟩, hAdded,
    ?_, ?_⟩
  · intro below hBelow
    have hRoom : below < after.walls.size := by omega
    exact ⟨_, Array.getElem?_eq_getElem hRoom⟩
  · intro place below hPlace
    have hPiece :
        (added.map Piece.wall)[place]? =
          some (Piece.wall below) := by
      rw [List.getElem?_map, hPlace, Option.map_some]
    exact hAppends.denotes hArena hPiece
  · intro hPlain
    have hLength := congrArg List.length (hAll hPlain)
    rw [List.length_map, List.length_map] at hLength
    exact hAdded.eq_of_length hLength
  · intro hShares below hBelow
    exact hNew hShares _ (List.mem_map_of_mem hBelow)

/- Past the highest level, only the fault may differ. -/
theorem no_wall_of_deep
    (hArena : arena.WellFormed)
    (hDeep : maxLevel < level) :
    wall level arena = .error .tooDeep ∨
      wall level arena = .error .exhausted ∧
        nodeLimit <
          arena.size +
            (maxLevel + 1 - arena.walls.size) := by
  rw [wall_of_deep hArena hDeep, bind_apply]
  rcases (added_walls hArena (Nat.le_refl maxLevel)).cases
    with ⟨fault, hWall, rfl, hShort⟩ | ⟨result, hWall, -⟩
  · rw [hWall]
    exact .inr ⟨rfl, hShort⟩
  · rw [hWall]
    exact .inl rfl

end Building

namespace Arena

variable {arena : Arena}
variable {interning memoizing : Bool}
variable {actions : List Action}
variable {answers : List (Option NodeId)}

/-
  Whatever was done to an arena, the square of walls of any
  level up to the highest is made, if there are numbers for
  the walls that were not remembered. The nodes that are added
  for it are walls of levels that were not remembered, level
  by level: all of these if nodes are not shared, and those
  that were not there yet if they are. From then on, all walls
  up to the level are found by their numbers, and nothing is
  added for them. There are no walls above the highest level,
  so that asking for one is a fault: the level is too deep, or
  the numbers do not even reach for the walls below it.
-/
theorem wall_of_run
    (hRun :
      Action.run actions (new interning memoizing) =
        .ok (answers, arena))
    (level : Nat) :
    (level ≤ maxLevel →
      Building.wall level arena = .error .exhausted ∧
          nodeLimit <
            arena.size + (level + 1 - arena.walls.size) ∨
      ∃ (id : NodeId) (after : Arena) (added : List Nat),
        Building.wall level arena = .ok (id, after) ∧
          after.level id = .ok level ∧
          after.Denotes id (Square.uniform .wall level) ∧
          Extends arena after ∧
          after.size ≤
            arena.size + (level + 1 - arena.walls.size) ∧
          AddsWalls arena after added ∧
          added.Sublist (arena.wallsLeft level) ∧
          (interning = false →
            added = arena.wallsLeft level) ∧
          (interning = true →
            ∀ below, below ∈ added ↔
              below ≤ level ∧
                ¬ arena.Holds (Piece.wall below)) ∧
          ∀ below, below ≤ level →
            ∃ kept : NodeId,
              after.Denotes kept
                  (Square.uniform .wall below) ∧
                after.RemembersWall below kept ∧
                  (below = level → kept = id)) ∧
      (maxLevel < level →
        Building.wall level arena = .error .tooDeep ∨
          Building.wall level arena = .error .exhausted ∧
            nodeLimit <
              arena.size +
                (maxLevel + 1 - arena.walls.size)) := by
  have hReached := Action.evolves_of_run hRun
  have hArena := hReached.wellFormed
  have hFlag : arena.interning = interning :=
    hReached.interning_eq
  refine ⟨fun hMax => ?_, Building.no_wall_of_deep hArena⟩
  rcases (Building.added_walls hArena hMax).cases with
    ⟨fault, hWall, rfl, hLacks⟩ |
    ⟨⟨id, after⟩, hWall, added, hAfter, hWalls, hKept, hAdds,
      hAdded, hAll, hNew⟩
  · exact .inl ⟨hWall, hLacks⟩
  have hDenotes := hAfter.wellFormed.denotes_wall level id
    hKept
  have hLength := hAdded.length_le
  rw [wallsLeft, List.length_range'] at hLength
  rw [hFlag] at hAll hNew
  refine .inr ⟨id, after, added, hWall,
    hDenotes.hasLevel.level_eq, hDenotes, hAfter.keeps, ?_,
    hAdds, hAdded, hAll, ?_, ?_⟩
  · rw [hAdds.size_eq]
    exact Nat.add_le_add_left hLength _
  · intro hShares below
    constructor
    · intro hBelow
      have hLeft := mem_wallsLeft_iff.mp (hAdded.subset hBelow)
      exact ⟨hLeft.2, hNew hShares below hBelow⟩
    · rintro ⟨hBelow, hMissing⟩
      rcases hWalls below hBelow with ⟨kept, hFound⟩
      exact hAdds.mem_of_denotes hArena hAfter.keeps hMissing
        (hAfter.wellFormed.denotes_wall below kept hFound)
  · intro below hBelow
    rcases hWalls below hBelow with ⟨kept, hFound⟩
    refine ⟨kept,
      hAfter.wellFormed.denotes_wall below kept hFound,
      remembersWall_of_walls (Nat.le_trans hBelow hMax)
        hFound, ?_⟩
    rintro rfl
    rw [hKept] at hFound
    exact (Option.some.inj hFound).symm

/-
  A wall of one cell is there already, but is not remembered.
  It is found for the next larger wall, where nodes are shared.
-/
theorem wall_of_run_shared_cell :
    ∃ arena id after,
      Action.run [.leaf .wall] (new true true) =
          .ok ([some 0], arena) ∧
        arena.walls.size = 0 ∧ arena.size = 1 ∧
        Building.wall 1 arena = .ok (id, after) ∧
        after.Denotes id (Square.uniform .wall 1) ∧
        after.size = 2 ∧
        (∃ kept, after.RemembersWall 0 kept) ∧
        Building.wall 41 arena = .error .tooDeep := by
  let arena := (new true true).extended (.leaf .wall)
  have hRun :
      Action.run [.leaf .wall] (new true true) =
        .ok ([some 0], arena) := by
    have hPush :
        (new true true).push (.leaf .wall) =
          (new true true).append (.leaf .wall) := by
      simp [push, new]
    have hLeaf :
        Building.leaf .wall (new true true) =
          .ok (0, arena) :=
      hPush
    exact Action.run_cons_eq_ok
      (Action.giving_eq_ok hLeaf) rfl
  have hRoom :
      ¬ nodeLimit <
        arena.size + (1 + 1 - arena.walls.size) := by
    decide
  have hRoomAbove :
      ¬ nodeLimit <
        arena.size + (maxLevel + 1 - arena.walls.size) := by
    decide
  have hDeep : Building.wall 41 arena = .error .tooDeep :=
    ((wall_of_run hRun 41).2 (by decide)).resolve_right
      fun hFull => hRoomAbove hFull.2
  rcases ((wall_of_run hRun 1).1 (by decide)).resolve_left
      fun hFull => hRoom hFull.2 with
    ⟨id, after, added, hWall, -, hDenotes, -, -, hAdds,
      hAdded, -, hShared, hLater⟩
  have hCell : arena.Holds (Piece.wall 0) := ⟨0, rfl⟩
  have hOnce : 0 ∉ added := fun hZero =>
    ((hShared rfl 0).mp hZero).2 hCell
  have hMissing : ¬ arena.Holds (Piece.wall 1) := by
    rintro ⟨other, hOther⟩
    have hOnly : other = 0 :=
      Nat.lt_one_iff.mp hOther.hasLevel.lt_size
    subst hOnly
    cases hOther
  have hLarger : 1 ∈ added :=
    (hShared rfl 1).mpr ⟨Nat.le_refl 1, hMissing⟩
  have hLevels : added = [1] := by
    rcases List.sublist_cons_iff.mp hAdded with
      hRest | ⟨rest, rfl, -⟩
    · rcases List.sublist_singleton.mp hRest with rfl | hOne
      · cases hLarger
      · exact hOne
    · exact absurd List.mem_cons_self hOnce
  rcases hLater 0 (by decide) with ⟨kept, -, hKept, -⟩
  refine ⟨arena, id, after, hRun, rfl, rfl, hWall, hDenotes,
    ?_, ⟨kept, hKept⟩, hDeep⟩
  rw [hAdds.size_eq, hLevels]
  rfl

end Arena

end LatticeGas
