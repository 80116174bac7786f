import LatticeGas.Proofs.Arena.Closure

/-
  This file shows that whatever adds nodes to a well-formed
  arena, or plants steps in it, leaves one in which all nodes
  are as they were. Nothing is known about the nodes that are
  given, nor about the steps that are remembered.

  Key definitions include:
    * `Arena.Evolves`
    * `Building.Leaves`
    * `Building.Preserves`

  Key theorems include:
    * `Building.leaves_wallUpTo`
    * `Building.barring_node`
    * `Building.barring_wall`
    * `Building.preserves_storeNext`
    * `Building.closed_preserves`
-/

------------------------------------------------------------
-- Arenas That Evolve
------------------------------------------------------------

namespace LatticeGas

namespace Arena

/- All nodes stay, and the arena is well formed after it. -/
structure Evolves (before after : Arena) : Prop where
  keeps : Extends before after
  interning_eq : after.interning = before.interning
  wellFormed : after.WellFormed

variable {arena before after : Arena}

theorem WellFormed.evolves
    (hArena : arena.WellFormed) :
    Evolves arena arena :=
  ⟨Extends.refl arena, rfl, hArena⟩

theorem Evolves.trans
    {first second third : Arena}
    (hFirst : Evolves first second)
    (hSecond : Evolves second third) :
    Evolves first third :=
  ⟨hFirst.keeps.trans hSecond.keeps,
    hSecond.interning_eq.trans hFirst.interning_eq,
    hSecond.wellFormed⟩

/- An accepted entry is found or added. -/
theorem evolves_of_push_eq
    (hArena : arena.WellFormed)
    {entry : Entry}
    (hAccepts : arena.Accepts entry)
    {id : NodeId}
    (hPush : arena.push entry = .ok (id, after)) :
    Evolves arena after ∧
      after.entries[id]? = some entry ∧
        after.walls = arena.walls := by
  have hInterning : after.interning = arena.interning := by
    cases pushed_of_push_eq_ok hPush with
    | found => rfl
    | added => rfl
  exact ⟨⟨(grows_push hPush).keeps, hInterning,
      wellFormed_push hPush hArena hAccepts⟩,
    entries_push hPush hArena, walls_push hPush⟩

end Arena

end LatticeGas

------------------------------------------------------------
-- What a Computation Leaves
------------------------------------------------------------

namespace LatticeGas

namespace Building

open Arena

/-
  If the computation comes to an end, the arena has evolved,
  and the outcome is as wanted. It may also end in a fault.
-/
def Leaves
    {A : Type}
    (build : Building A)
    (arena : Arena)
    (goal : A → Arena → Prop) : Prop :=
  ∀ (value : A) (after : Arena),
    build arena = .ok (value, after) →
      Evolves arena after ∧ goal value after

/- The computation lets every well-formed arena evolve. -/
def Preserves
    {A : Type}
    (build : Building A) : Prop :=
  ∀ arena : Arena,
    arena.WellFormed →
      Leaves build arena fun _ _ => True

variable {A B : Type}
variable {arena after : Arena}
variable {goal : A → Arena → Prop}
variable {goal' : B → Arena → Prop}

/- One computation after another. -/
theorem Leaves.bind
    {build : Building A}
    {next : A → Building B}
    (hBuild : Leaves build arena goal)
    (hNext :
      ∀ value after,
        Evolves arena after → goal value after →
          Leaves (next value) after goal') :
    Leaves (build >>= next) arena goal' := by
  intro result last hRun
  rcases bind_eq_ok hRun with
    ⟨value, middle, hFirst, hSecond⟩
  rcases hBuild value middle hFirst with ⟨hMiddle, hGoal⟩
  rcases hNext value middle hMiddle hGoal result last
    hSecond with ⟨hLast, hResult⟩
  exact ⟨hMiddle.trans hLast, hResult⟩

theorem Preserves.bind
    {build : Building A}
    {next : A → Building B}
    (hBuild : Preserves build)
    (hNext : ∀ value, Preserves (next value)) :
    Preserves (build >>= next) :=
  fun arena hArena =>
    (hBuild arena hArena).bind fun value after hMiddle _ =>
      hNext value after hMiddle.wellFormed

/- An arena that is not changed has evolved. -/
theorem preserves_of_unchanged
    {build : Building A}
    (hSame :
      ∀ arena value after,
        build arena = .ok (value, after) → after = arena) :
    Preserves build := by
  intro arena hArena value after hRun
  obtain rfl := hSame arena value after hRun
  exact ⟨hArena.evolves, trivial⟩

end Building

end LatticeGas

------------------------------------------------------------
-- Leaves, Nodes and Walls
------------------------------------------------------------

namespace LatticeGas

namespace Building

open Arena

variable {arena : Arena}
variable {level : Nat}

theorem leaves_leaf
    (hArena : arena.WellFormed)
    (cell : Cell) :
    Leaves (leaf cell) arena fun id after =>
      after.Denotes id (.leaf cell) ∧
        after.walls = arena.walls := by
  intro id after hRun
  have hAccepts : arena.Accepts (.leaf cell) := trivial
  rcases evolves_of_push_eq hArena hAccepts hRun with
    ⟨hEvolves, hEntry, hWalls⟩
  exact ⟨hEvolves,
    (denotes_leaf_iff after id cell).mpr hEntry, hWalls⟩

/- A node is only made above quadrants that have a level. -/
theorem leaves_node
    (hArena : arena.WellFormed)
    (ids : Quad NodeId) :
    Leaves (node ids) arena fun id after =>
      (∀ {level : Nat} {squares : Quad (Square level)},
        arena.DenotesQuad ids squares →
          after.Denotes id (Square.ofQuad squares)) ∧
        after.walls = arena.walls := by
  intro id after hRun
  rcases answered_of_bind hRun with ⟨above, hAbove, hPush⟩
  rcases hArena.exists_denotesQuad hAbove with
    ⟨below, squares, rfl, hMax, hIds⟩
  rcases evolves_of_push_eq hArena (hIds.accepts_node hMax)
    hPush with ⟨hEvolves, hEntry, hWalls⟩
  refine ⟨hEvolves, ?_, hWalls⟩
  intro level squares' hIds'
  obtain rfl : below = level :=
    hIds.sw.hasLevel.unique hIds'.sw.hasLevel
  rw [denotes_succ_iff, Square.quadrants_ofQuad]
  exact ⟨ids, hEntry, hIds'.of_extends hEvolves.keeps⟩

theorem preserves_leaf
    (cell : Cell) :
    Preserves (leaf cell) :=
  fun _ hArena id after hRun =>
    ⟨(leaves_leaf hArena cell id after hRun).1, trivial⟩

theorem preserves_node
    (ids : Quad NodeId) :
    Preserves (node ids) :=
  fun _ hArena id after hRun =>
    ⟨(leaves_node hArena ids id after hRun).1, trivial⟩

/-
  A wall that is built when it is missing takes the place of
  its level, if all walls below are remembered by then.
-/
theorem leaves_wallOr
    (hArena : arena.WellFormed)
    {build : Building NodeId}
    (hBuild :
      arena.walls.size ≤ level →
        Leaves build arena fun id after =>
          after.Denotes id (Square.uniform .wall level) ∧
            after.walls.size = level) :
    Leaves (wallOr level build) arena fun id after =>
      after.Denotes id (Square.uniform .wall level) ∧
        after.walls.size =
          max arena.walls.size (level + 1) := by
  intro id after hRun
  unfold wallOr at hRun
  cases hFound : arena.walls[level]? with
  | some found =>
      rw [hFound] at hRun
      cases hRun
      have hLevel : level < arena.walls.size :=
        (Array.getElem?_eq_some_iff.mp hFound).choose
      exact ⟨hArena.evolves,
        hArena.denotes_wall level id hFound, by omega⟩
  | none =>
      rw [hFound] at hRun
      have hSize : arena.walls.size ≤ level :=
        Array.getElem?_eq_none_iff.mp hFound
      rcases bind_eq_ok hRun with
        ⟨built, middle, hMade, hKept⟩
      rcases hBuild hSize built middle hMade with
        ⟨hMiddle, hWall, hWalls⟩
      cases hKept
      subst hWalls
      have hPushed :=
        wellFormed_pushWall hMiddle.wellFormed hWall
      have hKeeps := extends_pushWall middle id
      refine ⟨hMiddle.trans ⟨hKeeps, rfl, hPushed⟩,
        hWall.of_extends hKeeps, ?_⟩
      change (middle.walls.push id).size = _
      rw [Array.size_push]
      omega

/- After it the walls up to the level are remembered. -/
theorem leaves_wallUpTo
    (hArena : arena.WellFormed)
    (level : Nat) :
    Leaves (wallUpTo level) arena fun id after =>
      after.Denotes id (Square.uniform .wall level) ∧
        after.walls.size =
          max arena.walls.size (level + 1) := by
  induction level with
  | zero =>
      apply leaves_wallOr hArena
      intro hSize id after hRun
      rcases leaves_leaf hArena .wall id after hRun with
        ⟨hEvolves, hWall, hWalls⟩
      exact ⟨hEvolves, hWall, by rw [hWalls]; omega⟩
  | succ level ih =>
      apply leaves_wallOr hArena
      intro hSize
      apply ih.bind
      rintro quadrant middle hMiddle ⟨hWall, hWalls⟩ id last
        hRun
      rcases leaves_node hMiddle.wellFormed _ id last hRun
        with ⟨hLast, hNode, hSame⟩
      have hQuad :
          middle.DenotesQuad (Quad.all quadrant)
            (Quad.all (Square.uniform .wall level)) :=
        ⟨hWall, hWall, hWall, hWall⟩
      exact ⟨hLast, hNode hQuad, by rw [hSame, hWalls]; omega⟩

theorem preserves_wall
    (level : Nat) :
    Preserves (wall level) :=
  fun _ hArena id after hRun =>
    ⟨(leaves_wallUpTo hArena _ id after hRun).1, trivial⟩

end Building

end LatticeGas

------------------------------------------------------------
-- Walls and Nodes That Are Made While There Is Room
------------------------------------------------------------

namespace LatticeGas

namespace Building

open Arena

variable {arena : Arena}
variable {level : Nat}

/-
  If nothing but exhaustion stops the computation, then what
  it leaves it does come to, barring exhaustion.
-/
theorem Leaves.barring
    {A : Type}
    {build : Building A}
    {goal : A → Arena → Prop}
    (hLeaves : Leaves build arena goal)
    (hFault :
      ∀ fault, build arena = .error fault →
        fault.Exhaustion) :
    Barring Fault.Exhaustion
      (fun result =>
        Evolves arena result.2 ∧ goal result.1 result.2)
      (build arena) := by
  cases hRun : build arena with
  | error fault => exact hFault fault hRun
  | ok result => exact hLeaves result.1 result.2 hRun

/- The node above four squares is made. -/
theorem barring_node
    (hArena : arena.WellFormed)
    {ids : Quad NodeId}
    {squares : Quad (Square level)}
    (hIds : arena.DenotesQuad ids squares)
    (hMax : level < maxLevel) :
    Barring Fault.Exhaustion
      (fun result =>
        Evolves arena result.2 ∧
          result.2.Denotes result.1 (Square.ofQuad squares))
      (node ids arena) := by
  have hFault :
      ∀ fault, node ids arena = .error fault →
        fault.Exhaustion := by
    intro fault hRun
    rw [node_eq_push hIds hMax] at hRun
    exact (size_eq_of_push_eq_error hRun).1
  exact ((leaves_node hArena ids).barring hFault).mono
    fun _ hResult => ⟨hResult.1, hResult.2.1 hIds⟩

theorem wallOr_eq_error
    {build : Building NodeId}
    {fault : Fault}
    (hRun : wallOr level build arena = .error fault) :
    build arena = .error fault := by
  unfold wallOr at hRun
  cases hFound : arena.walls[level]? with
  | some id =>
      rw [hFound] at hRun
      cases hRun
  | none =>
      rw [hFound] at hRun
      cases hBuild : build arena with
      | error other =>
          rw [bind_apply, hBuild] at hRun
          exact hRun
      | ok result =>
          rw [bind_apply, hBuild] at hRun
          cases hRun

theorem exhaustion_of_wallUpTo
    (hArena : arena.WellFormed)
    (hMax : level ≤ maxLevel)
    {fault : Fault}
    (hRun : wallUpTo level arena = .error fault) :
    fault.Exhaustion := by
  induction level with
  | zero =>
      exact (size_eq_of_push_eq_error
        (wallOr_eq_error hRun)).1
  | succ level ih =>
      have hBuild := wallOr_eq_error hRun
      rw [bind_apply] at hBuild
      cases hBelow : wallUpTo level arena with
      | error other =>
          rw [hBelow] at hBuild
          cases hBuild
          exact ih (by omega) hBelow
      | ok result =>
          rw [hBelow] at hBuild
          rcases leaves_wallUpTo hArena level _ _ hBelow with
            ⟨hMiddle, hWall, -⟩
          have hQuad :
              result.2.DenotesQuad (Quad.all result.1)
                (Quad.all (Square.uniform .wall level)) :=
            ⟨hWall, hWall, hWall, hWall⟩
          exact (barring_node hMiddle.wellFormed hQuad
            hMax).excused_of_error hBuild

/- The square without gas of a level is made. -/
theorem barring_wall
    (hArena : arena.WellFormed)
    (hMax : level ≤ maxLevel) :
    Barring Fault.Exhaustion
      (fun result =>
        Evolves arena result.2 ∧
          result.2.Denotes result.1
            (Square.uniform .wall level))
      (wall level arena) := by
  rw [wall_of_le hMax]
  exact ((leaves_wallUpTo hArena level).barring
    fun _ => exhaustion_of_wallUpTo hArena hMax).mono
      fun _ hResult => ⟨hResult.1, hResult.2.1⟩

/-
  Past the highest level all walls are built, and the node
  above the last of them is too deep.
-/
theorem wall_of_deep
    (hArena : arena.WellFormed)
    (hDeep : maxLevel < level) :
    wall level arena =
      (wall maxLevel >>= fun _ => throw .tooDeep :
        Building NodeId) arena := by
  have hNone : arena.walls[maxLevel + 1]? = none := by
    cases hWall : arena.walls[maxLevel + 1]? with
    | none => rfl
    | some id =>
        have hFound := hArena.denotes_wall _ id hWall
        have hLevel := hArena.level_le_max hFound.hasLevel
        omega
  have hAbove :
      wall level arena =
        ((wallUpTo maxLevel >>= fun quadrant =>
          node (Quad.all quadrant)) >>= keepWall) arena := by
    unfold wall
    rw [Nat.min_eq_right hDeep]
    change wallOr (maxLevel + 1) _ arena = _
    unfold wallOr
    rw [hNone]
    rfl
  rw [hAbove, wall_of_le (Nat.le_refl maxLevel), bind_apply,
    bind_apply, bind_apply]
  cases hRun : wallUpTo maxLevel arena with
  | error fault => rfl
  | ok result =>
      have hWall :=
        (leaves_wallUpTo hArena maxLevel _ _ hRun).2.1
      have hQuad :
          result.2.DenotesQuad (Quad.all result.1)
            (Quad.all (Square.uniform .wall maxLevel)) :=
        ⟨hWall, hWall, hWall, hWall⟩
      have hNode :=
        node_of_tooDeep hQuad (Nat.lt_irrefl maxLevel)
      change (node (Quad.all result.1) result.2 >>= _) = _
      rw [hNode]
      rfl

end Building

end LatticeGas

------------------------------------------------------------
-- Everything That Adds Nodes
------------------------------------------------------------

namespace LatticeGas

namespace Building

open Arena

/- Any number may be planted as the step of any node. -/
theorem preserves_storeNext
    (id next : NodeId) :
    Preserves (storeNext id next) := by
  intro arena hArena value after hRun
  unfold storeNext at hRun
  split at hRun
  · split at hRun
    · cases hRun
      exact ⟨⟨extends_setNext arena id next, rfl,
        wellFormed_setNext hArena id next⟩, trivial⟩
    · cases hRun
  · cases hRun
    exact ⟨hArena.evolves, trivial⟩

/- So macro steps and copies let an arena evolve, too. -/
theorem closed_preserves : Closed Preserves where
  unchanged := preserves_of_unchanged
  bind := Preserves.bind
  leaf := preserves_leaf
  node := preserves_node
  wall := preserves_wall
  storeNext := preserves_storeNext

end Building

end LatticeGas
