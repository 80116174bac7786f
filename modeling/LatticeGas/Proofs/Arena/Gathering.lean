import LatticeGas.Proofs.Arena.Accounts

/-
  This file says what it means that a computation gathers a
  trail, how this is put together from its parts, and what
  the single additions of a leaf, a node and a wall gather.

  Key definitions include:
    * `Building.Gathers`
    * `Building.Lays`
    * `Square.wallTrail`

  Key theorems include:
    * `Building.Gathers.bind`
    * `Building.gathers_push`
    * `Building.lays_wall`
-/

------------------------------------------------------------
-- What a Computation Gathers
------------------------------------------------------------

namespace LatticeGas

namespace Building

open Arena

/-
  The computation comes to an end without a fault, unless the
  trail does not fit. All of the trail has been added to the
  arena, which is traced after it, and the outcome is as
  wanted.
-/
def Gathers
    {A : Type}
    (build : Building A)
    (arena : Arena)
    (trail : List Piece)
    (goal : A → Arena → Prop) : Prop :=
  gaining.Yields build arena trail goal

/-
  From an arena on, however it has grown in the meantime, the
  computation gathers the trail and ends with a node that
  stands for the square.
-/
def Lays
    (build : Building NodeId)
    (arena : Arena)
    (trail : List Piece)
    {level : Nat}
    (square : Square level) : Prop :=
  ∀ later : Arena,
    later.Traced → Extends arena later →
      Gathers build later trail fun id after =>
        after.Denotes id square

variable {A B : Type}
variable {arena : Arena}
variable {trail rest : List Piece}
variable {goal : A → Arena → Prop}
variable {goal' : B → Arena → Prop}

theorem Gathers.pure
    {value : A}
    (hTraced : arena.Traced)
    (hGoal : goal value arena) :
    Gathers (Pure.pure value) arena [] goal :=
  gaining.pure hTraced hGoal

/- What is wanted of the outcome may be weakened. -/
theorem Gathers.mono
    {build : Building A}
    {weaker : A → Arena → Prop}
    (hBuild : Gathers build arena trail goal)
    (hGoal :
      ∀ value after,
        goal value after → weaker value after) :
    Gathers build arena trail weaker :=
  Barring.mono hBuild fun _ hResult =>
    ⟨hResult.1, hResult.2.1, hGoal _ _ hResult.2.2⟩

/- One computation after another, and so are their trails. -/
theorem Gathers.bind
    {build : Building A}
    {next : A → Building B}
    (hBuild : Gathers build arena trail goal)
    (hNext :
      ∀ value after,
        after.Traced → Gains arena after trail →
          goal value after →
            Gathers (next value) after rest goal') :
    Gathers (build >>= next) arena (trail ++ rest)
      goal' :=
  gaining.bind hBuild hNext

/- A check that does not need the arena. -/
theorem Gathers.bind_lift
    {outcome : Except Fault A}
    {next : A → Building B}
    {answer : A}
    (hAnswer : outcome = .ok answer)
    (hNext : Gathers (next answer) arena rest goal') :
    Gathers ((liftM outcome : Building A) >>= next) arena
      rest goal' :=
  gaining.bind_lift hAnswer hNext

end Building

end LatticeGas

------------------------------------------------------------
-- Leaves, Nodes and Walls
------------------------------------------------------------

namespace LatticeGas

namespace Square

/- The squares of walls up to a level, the smallest first. -/
def wallTrail : Nat → List Piece
| 0 => [⟨0, uniform .wall 0⟩]
| level + 1 =>
    wallTrail level ++
      [⟨level + 1, uniform .wall (level + 1)⟩]

/- Small squares of walls are parts of the large ones. -/
theorem mem_parts_of_mem_wallTrail
    {level : Nat}
    {piece : Piece}
    (hPiece : piece ∈ wallTrail level) :
    piece ∈ (uniform .wall level).parts := by
  induction level with
  | zero => exact hPiece
  | succ level ih =>
      rw [wallTrail, List.mem_append] at hPiece
      simp only [uniform, Quad.all, ofQuad, parts,
        List.mem_append]
      rcases hPiece with hBelow | hTop
      · exact Or.inl (ih hBelow)
      · exact Or.inr (Or.inr (Or.inr (Or.inr hTop)))

end Square

namespace Building

open Arena

variable {arena : Arena}
variable {level top : Nat}

/- An addition has the piece that it names as its trail. -/
theorem gathers_push
    {build : Building NodeId}
    {entry : Entry}
    {piece : Piece}
    (hRun : build arena = arena.push entry)
    (hTraced : arena.Traced)
    (hNames : arena.Names entry piece) :
    Gathers build arena [piece] fun id after =>
      after.Denotes id piece.square ∧
        after.walls = arena.walls := by
  refine Barring.imp
    (gaining.yields_push hRun hTraced hNames)
    (fun _ hFault => hFault) ?_
  rintro ⟨id, after⟩ hOutcome ⟨hAfter, hGains, hSquare⟩
  rw [hRun] at hOutcome
  exact ⟨hAfter, hGains, hSquare, walls_push hOutcome⟩

theorem gathers_leaf
    (hTraced : arena.Traced)
    (cell : Cell) :
    Gathers (leaf cell) arena [⟨0, .leaf cell⟩]
      fun id after =>
        after.Denotes id (.leaf cell) ∧
          after.walls = arena.walls :=
  gathers_push rfl hTraced (names_leaf arena cell)

theorem lays_leaf
    (arena : Arena)
    (cell : Cell) :
    Lays (leaf cell) arena [⟨0, .leaf cell⟩] (.leaf cell) :=
  fun _ hTraced _ =>
    (gathers_leaf hTraced cell).mono
      fun _ _ hGoal => hGoal.1

theorem gathers_node
    (hTraced : arena.Traced)
    {ids : Quad NodeId}
    {squares : Quad (Square level)}
    (hQuad : arena.DenotesQuad ids squares)
    (hMax : level < maxLevel) :
    Gathers (node ids) arena
      [⟨level + 1, Square.ofQuad squares⟩] fun id after =>
        after.Denotes id (Square.ofQuad squares) ∧
          after.walls = arena.walls :=
  gathers_push (node_eq_push hQuad hMax) hTraced
    (hQuad.names hMax)

/- A wall of the next level is remembered. -/
theorem gathers_keepWall
    (hTraced : arena.Traced)
    {id : NodeId}
    (hSize : arena.walls.size = level)
    (hWall :
      arena.Denotes id (Square.uniform .wall level)) :
    Gathers (keepWall id) arena [] fun found after =>
      after.Denotes found (Square.uniform .wall level) ∧
        after.walls.size = level + 1 := by
  subst hSize
  exact ⟨hTraced.pushWall hWall, gains_of_entries_eq rfl rfl,
    hWall.of_extends (extends_pushWall arena id),
    Array.size_push id⟩

/-
  With a remembered wall all smaller walls are there. Else
  they have been gathered by the time when it is built.
-/
theorem gathers_wallOr
    (hTraced : arena.Traced)
    {build : Building NodeId}
    (hBuild :
      arena.walls.size ≤ level →
        Gathers build arena (Square.wallTrail level)
          fun id after =>
            after.Denotes id (Square.uniform .wall level) ∧
              after.walls.size = level) :
    Gathers (wallOr level build) arena
      (Square.wallTrail level) fun id after =>
        after.Denotes id (Square.uniform .wall level) ∧
          after.walls.size =
            max arena.walls.size (level + 1) := by
  cases hFound : arena.walls[level]? with
  | some id =>
      have hLevel : level < arena.walls.size :=
        (Array.getElem?_eq_some_iff.mp hFound).choose
      have hWall :=
        hTraced.sound.wellFormed.denotes_wall level id hFound
      have hRun :
          wallOr level build arena = .ok (id, arena) := by
        simp only [wallOr, hFound]
      have hHeld :
          ∀ piece ∈ Square.wallTrail level,
            arena.Holds piece :=
        fun piece hPiece => hWall.holds_parts piece
          (Square.mem_parts_of_mem_wallTrail hPiece)
      have hWalls :
          arena.walls.size =
            max arena.walls.size (level + 1) := by
        omega
      exact Barring.of_eq_ok hRun
        ⟨hTraced, gains_of_holds hHeld, hWall, hWalls⟩
  | none =>
      have hSize : arena.walls.size ≤ level :=
        Array.getElem?_eq_none_iff.mp hFound
      have hRun :
          wallOr level build arena =
            (build >>= keepWall) arena := by
        simp only [wallOr, hFound]
      have hMax :
          max arena.walls.size (level + 1) = level + 1 := by
        omega
      rw [hMax, ← List.append_nil (Square.wallTrail level)]
      refine Account.Yields.of_run_eq hRun
        ((hBuild hSize).bind ?_)
      rintro id after hAfter - ⟨hWall, hWalls⟩
      exact gathers_keepWall hAfter hWalls hWall

/- All walls up to the wanted one are gathered. -/
theorem gathers_wallUpTo
    (hTraced : arena.Traced)
    (hMax : level ≤ maxLevel) :
    Gathers (wallUpTo level) arena (Square.wallTrail level)
      fun id after =>
        after.Denotes id (Square.uniform .wall level) ∧
          after.walls.size =
            max arena.walls.size (level + 1) := by
  induction level with
  | zero =>
      apply gathers_wallOr hTraced
      intro hSize
      refine (gathers_leaf hTraced .wall).mono ?_
      rintro id after ⟨hWall, hWalls⟩
      exact ⟨hWall, by rw [hWalls]; omega⟩
  | succ level ih =>
      apply gathers_wallOr hTraced
      intro hSize
      apply (ih (by omega)).bind
      rintro quadrant after hAfter - ⟨hWall, hWalls⟩
      refine (gathers_node hAfter
        (⟨hWall, hWall, hWall, hWall⟩ :
          after.DenotesQuad (Quad.all quadrant)
            (Quad.all (Square.uniform .wall level)))
        (by omega)).mono ?_
      rintro id last ⟨hId, hLast⟩
      exact ⟨hId, by rw [hLast, hWalls]; omega⟩

theorem lays_wall
    (arena : Arena)
    (hMax : level ≤ maxLevel) :
    Lays (wall level) arena (Square.wallTrail level)
      (Square.uniform .wall level) := by
  intro later hTraced hLater
  rw [wall_of_le hMax]
  exact (gathers_wallUpTo hTraced hMax).mono
    fun _ _ hGoal => hGoal.1

end Building

end LatticeGas
