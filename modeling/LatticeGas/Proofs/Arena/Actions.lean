import LatticeGas.Proofs.Arena.Costs
import LatticeGas.Proofs.Square.View

/-
  This file defines everything that can be done to an arena,
  steps that are planted included, and shows what is true of
  every arena that is reached in this way. If equal nodes are
  shared in it, its nodes are its squares.

  Key definitions include:
    * `Arena.Action`
    * `Arena.Action.build`
    * `Arena.Action.run`
    * `Arena.SameSquare`

  Key theorems include:
    * `Arena.Action.holds_run`
    * `Arena.Action.preserves_build`
    * `Arena.Action.evolves_of_run`
    * `Arena.fits_together_of_run`
    * `Arena.id_eq_iff_of_run`
-/

------------------------------------------------------------
-- Actions
------------------------------------------------------------

namespace LatticeGas

namespace Arena

/-
  What can be done to an arena. Nodes and planted steps are
  given by their numbers, copies may come from any arena, and
  nothing is known about them.
-/
inductive Action where
  | leaf (cell : Cell)
  | node (children : Quad NodeId)
  | wall (level : Nat)
  | advance (id : NodeId)
  | store (id next : NodeId)
  | copy (source : Arena) (root : NodeId)

namespace Action

/- A computation with the node that it gives as an answer. -/
def giving
    (build : Building NodeId) : Building (Option NodeId) := do
  let id ← build
  return some id

/- What an action does, and the node it gives, if it does. -/
def build : Action → Building (Option NodeId)
| .leaf cell => giving (Building.leaf cell)
| .node children => giving (Building.node children)
| .wall level => giving (Building.wall level)
| .advance id => giving (Building.advanceCenter id)
| .copy source root =>
    giving (Building.copyTree source root)
| .store id next => do
    Building.storeNext id next
    return none

/- Several actions in order, none of which ends in a fault. -/
def run
    (actions : List Action) :
    Building (List (Option NodeId)) :=
  actions.mapM build

end Action

end Arena

end LatticeGas

------------------------------------------------------------
-- What Actions Preserve
------------------------------------------------------------

namespace LatticeGas

namespace Arena

namespace Action

open Building

variable {Holds : {A : Type} → Building A → Prop}

theorem holds_giving
    (hClosed : Closed Holds)
    {build : Building NodeId}
    (hBuild : Holds build) :
    Holds (giving build) :=
  hClosed.bind hBuild fun id => hClosed.pure (some id)

/- What is true of all that adds nodes is so of an action. -/
theorem holds_build
    (hClosed : Closed Holds)
    (action : Action) :
    Holds action.build := by
  have hGiving :
      ∀ {build : Building NodeId},
        Holds build → Holds (giving build) :=
    holds_giving hClosed
  cases action with
  | leaf cell => exact hGiving (hClosed.leaf cell)
  | node children => exact hGiving (hClosed.node children)
  | wall level => exact hGiving (hClosed.wall level)
  | advance id => exact hGiving (hClosed.advanceCenter id)
  | store id next =>
      exact hClosed.bind (hClosed.storeNext id next)
        fun _ => hClosed.pure none
  | copy source root =>
      exact hGiving (hClosed.copyTree source root)

/- And it is so of several actions in order. -/
theorem holds_run
    (hClosed : Closed Holds)
    (actions : List Action) :
    Holds (run actions) := by
  unfold run
  induction actions with
  | nil => exact hClosed.pure []
  | cons action actions ih =>
      rw [List.mapM_cons]
      refine hClosed.bind (holds_build hClosed action)
        fun answer => ?_
      exact hClosed.bind ih fun answers => hClosed.pure _

theorem preserves_build
    (action : Action) :
    Preserves action.build :=
  holds_build closed_preserves action

theorem preserves_run
    (actions : List Action) :
    Preserves (run actions) :=
  holds_run closed_preserves actions

/- An arena that is reached by actions is well formed. -/
theorem evolves_of_run
    {interning memoizing : Bool}
    {actions : List Action}
    {answers : List (Option NodeId)}
    {arena : Arena}
    (hRun :
      run actions (new interning memoizing) =
        .ok (answers, arena)) :
    Evolves (new interning memoizing) arena :=
  (preserves_run actions _ (wellFormed_new _ _) answers arena
    hRun).1

end Action

end Arena

end LatticeGas

------------------------------------------------------------
-- Arenas That Are Reached
------------------------------------------------------------

namespace LatticeGas

namespace Arena

variable {arena before after : Arena}
variable {interning memoizing : Bool}
variable {actions : List Action}
variable {answers : List (Option NodeId)}

/- Quadrants are there, and lie one level below their node. -/
theorem WellFormed.node_level
    (hArena : arena.WellFormed)
    {id : NodeId}
    {level : Nat}
    {children : Quad NodeId}
    (hNode :
      arena.entries[id]? = some (.node level children)) :
    1 ≤ level ∧ level ≤ maxLevel ∧
      ∀ child ∈ children.toList,
        child < id ∧ arena.level child = .ok (level - 1) := by
  rcases hArena.accepts_entry id _ hNode with
    ⟨below, rfl, hMax, hChildren⟩
  refine ⟨by omega, by omega, ?_⟩
  intro child hChild
  exact ⟨hArena.child_lt id _ children hNode child hChild,
    (hChildren child hChild).level_eq⟩

/- An arena that does not share nodes has an empty index. -/
theorem WellFormed.isEmpty_index
    (hArena : arena.WellFormed)
    (hInterning : arena.interning = false) :
    arena.index.isEmpty = true := by
  apply Std.HashMap.isEmpty_iff_forall_not_mem.mpr
  intro entry hMem
  have hFound := Std.HashMap.getElem?_eq_some_getElem hMem
  have hShares := ((hArena.index_iff entry _).mp hFound).1
  rw [hInterning] at hShares
  cases hShares

theorem Extends.entry_eq
    (hExtends : Extends before after)
    {id : NodeId}
    (hId : id < before.size) :
    after.entry id = before.entry id := by
  have hEntry := Array.getElem?_eq_getElem hId
  simp only [entry, hEntry, hExtends id _ hEntry]

/-
  The parts of an arena fit together, whatever was done to it
  before. There is room for a step of each node. A node has a
  level from one on, and its quadrants come before it and lie
  one level below. The index finds each entry by its number
  if nodes are shared, and is empty otherwise. The remembered
  walls are walls of their levels. And whatever is done next,
  the nodes that are there stay as they are.
-/
theorem fits_together_of_run
    (hRun :
      Action.run actions (new interning memoizing) =
        .ok (answers, arena)) :
    arena.steps.size = arena.entries.size ∧
      (∀ (id : NodeId) (level : Nat) (children : Quad NodeId),
        arena.entry id = .ok (.node level children) →
          1 ≤ level ∧ level ≤ maxLevel ∧
            ∀ child ∈ children.toList,
              child < id ∧
                arena.level child = .ok (level - 1)) ∧
      (interning = true →
        ∀ (entry : Entry) (id : NodeId),
          arena.index[entry]? = some id ↔
            arena.entry id = .ok entry) ∧
      (interning = false → arena.index.isEmpty = true) ∧
      (∀ (level : Nat) (id : NodeId),
        arena.walls[level]? = some id →
          arena.Denotes id (Square.uniform .wall level)) ∧
      ∀ (action : Action) (answer : Option NodeId)
        (after : Arena),
        action.build arena = .ok (answer, after) →
          ∀ id : NodeId, id < arena.size →
            after.entry id = arena.entry id := by
  have hReached := Action.evolves_of_run hRun
  have hArena := hReached.wellFormed
  have hFlag : arena.interning = interning :=
    hReached.interning_eq
  refine ⟨hArena.size_steps, ?_, ?_, ?_,
    hArena.denotes_wall, ?_⟩
  · intro id level children hNode
    exact hArena.node_level (entry_eq_ok_iff.mp hNode)
  · intro hInterning entry id
    rw [hArena.index_iff, entry_eq_ok_iff, hFlag]
    exact and_iff_right hInterning
  · intro hInterning
    exact hArena.isEmpty_index (hFlag.trans hInterning)
  · intro action answer after hAction id hId
    have hEvolves :=
      (action.preserves_build arena hArena answer after
        hAction).1
    exact hEvolves.keeps.entry_eq hId

/- A planted step is believed, and still all parts fit. -/
theorem fits_together_of_run_planted :
    ∃ arena,
      Action.run
          [.leaf .empty, .node (Quad.all 0),
            .node (Quad.all 1), .store 2 0, .advance 2,
            .wall 1]
          (new false true) =
        .ok ([some 0, some 1, some 2, none, some 0, some 4],
          arena) ∧
        arena.steps.size = arena.entries.size ∧
        arena.level 1 = .ok 1 ∧
        arena.index.isEmpty = true ∧
        arena.Denotes 4 (Square.uniform .wall 1) ∧
        ∀ answer after,
          (Action.advance 2).build arena =
              .ok (answer, after) →
            after.entry 2 = arena.entry 2 := by
  have hPlanted :
      ∃ arena,
        Action.run
            [.leaf .empty, .node (Quad.all 0),
              .node (Quad.all 1), .store 2 0, .advance 2,
              .wall 1]
            (new false true) =
          .ok ([some 0, some 1, some 2, none, some 0, some 4],
            arena) ∧
          arena.entry 2 = .ok (.node 2 (Quad.all 1)) ∧
          arena.walls[1]? = some 4 ∧ 2 < arena.size :=
    ⟨_, rfl, rfl, rfl, by decide⟩
  rcases hPlanted with ⟨arena, hRun, hNode, hWall, hSize⟩
  rcases fits_together_of_run hRun with
    ⟨hSteps, hNodes, -, hIndex, hWalls, hLater⟩
  have hChild :=
    (hNodes 2 2 (Quad.all 1) hNode).2.2 1 (by decide)
  exact ⟨arena, hRun, hSteps, hChild.2, hIndex rfl,
    hWalls 1 4 hWall, fun answer after hNext =>
      hLater _ answer after hNext 2 hSize⟩

end Arena

end LatticeGas

------------------------------------------------------------
-- Walls from Different Actions
------------------------------------------------------------

namespace LatticeGas

namespace Arena

namespace Action

open Building

variable {arena middle after : Arena}
variable {actions : List Action}
variable {answers : List (Option NodeId)}

/- What gives a node gives it as an answer. -/
theorem giving_eq_ok
    {build : Building NodeId}
    {id : NodeId}
    (hBuild : build arena = .ok (id, after)) :
    giving build arena = .ok (some id, after) :=
  bind_eq_of_run_eq hBuild

/- One action after another. -/
theorem run_cons_eq_ok
    {action : Action}
    {answer : Option NodeId}
    (hFirst : action.build arena = .ok (answer, middle))
    (hRest : run actions middle = .ok (answers, after)) :
    run (action :: actions) arena =
      .ok (answer :: answers, after) := by
  unfold run at hRest ⊢
  rw [List.mapM_cons, bind_eq_of_run_eq hFirst,
    bind_eq_of_run_eq hRest]
  rfl

/-
  A square of walls comes as a wall, as a node above smaller
  ones, and as the step of a larger one.
-/
theorem exists_run_walls
    (interning memoizing : Bool) :
    ∃ q w s n a arena,
      run
          [.wall 0, .wall 1, .wall 2, .node (Quad.all q),
            .advance s]
          (new interning memoizing) =
        .ok ([some q, some w, some s, some n, some a],
          arena) ∧
        arena.Denotes w (Square.uniform .wall 1) ∧
        arena.Denotes s (Square.uniform .wall 2) ∧
        arena.Denotes n (Square.uniform .wall 1) ∧
        arena.Denotes a (Square.uniform .wall 1) := by
  have hRoom : 12 ≤ nodeLimit := by decide
  have hNew := sound_new interning memoizing
  have hEmpty : (new interning memoizing).size = 0 := rfl
  rcases (costs_wall 0 _).exists_ok
      (makes_wall _ (by decide) _ hNew (Extends.refl _))
      (by omega) with
    ⟨q, first, hQ, hFirst, -, hQuadrant, hSizeFirst⟩
  rcases (costs_wall 1 _).exists_ok
      (makes_wall _ (by decide) _ hFirst (Extends.refl _))
      (by omega) with
    ⟨w, second, hW, hSecond, hSecondGrows, hWall,
      hSizeSecond⟩
  rcases (costs_wall 2 _).exists_ok
      (makes_wall _ (by decide) _ hSecond (Extends.refl _))
      (by omega) with
    ⟨s, third, hS, hThird, hThirdGrows, hLarger,
      hSizeThird⟩
  have hQuadrant := hQuadrant.of_extends
    (hSecondGrows.keeps.trans hThirdGrows.keeps)
  have hQuad :
      third.DenotesQuad (Quad.all q)
        (Quad.all (Square.uniform .wall 0)) :=
    ⟨hQuadrant, hQuadrant, hQuadrant, hQuadrant⟩
  rcases (costs_node _ _).exists_ok
      (ensures_node hThird hQuad (by decide)
        (Nat.le_refl _))
      (by omega) with
    ⟨n, fourth, hN, hFourth, hFourthGrows, ⟨hNode, -⟩,
      hSizeFourth⟩
  have hLarger := hLarger.of_extends hFourthGrows.keeps
  have hCost : Square.stepCost 0 = 5 := rfl
  rcases (costs_advanceCenter hFourth hLarger).exists_ok
      (ensures_advanceCenter hFourth hLarger)
      (by omega) with
    ⟨a, arena, hA, -, hGrows, hStep, -⟩
  rw [Square.advance_uniform_wall] at hStep
  refine ⟨q, w, s, n, a, arena, ?_, ?_,
    hLarger.of_extends hGrows.keeps,
    hNode.of_extends hGrows.keeps, hStep⟩
  · refine run_cons_eq_ok (giving_eq_ok hQ) ?_
    refine run_cons_eq_ok (giving_eq_ok hW) ?_
    refine run_cons_eq_ok (giving_eq_ok hS) ?_
    refine run_cons_eq_ok (giving_eq_ok hN) ?_
    exact run_cons_eq_ok (giving_eq_ok hA) rfl
  · exact hWall.of_extends (hThirdGrows.keeps.trans
      (hFourthGrows.keeps.trans hGrows.keeps))

end Action

end Arena

end LatticeGas

------------------------------------------------------------
-- Shared Squares
------------------------------------------------------------

namespace LatticeGas

namespace Arena

variable {arena : Arena}
variable {memoizing : Bool}
variable {actions : List Action}
variable {answers : List (Option NodeId)}
variable {i j : NodeId}

/- Two nodes have one level and the same cells. -/
def SameSquare
    (arena : Arena)
    (i j : NodeId) : Prop :=
  ∃ level,
    arena.level i = .ok level ∧
      arena.level j = .ok level ∧
        ∀ x y : Nat,
          x < sideOfLevel level → y < sideOfLevel level →
            ∃ cell,
              arena.cellAt i x y = .ok cell ∧
                arena.cellAt j x y = .ok cell

theorem Denotes.sameSquare
    {level : Nat}
    {square : Square level}
    (hi : arena.Denotes i square)
    (hj : arena.Denotes j square) :
    arena.SameSquare i j :=
  ⟨level, hi.hasLevel.level_eq, hj.hasLevel.level_eq,
    fun x y _ _ =>
      ⟨square.cellAt x y, hi.cellAt_eq x y,
        hj.cellAt_eq x y⟩⟩

/- Nodes with one level and the same cells have one square. -/
theorem WellFormed.exists_square
    (hArena : arena.WellFormed)
    (hSame : arena.SameSquare i j) :
    ∃ (level : Nat) (square : Square level),
      arena.Denotes i square ∧ arena.Denotes j square := by
  rcases hSame with ⟨level, hLevel, hLevel', hCells⟩
  rcases hArena.exists_denotes (hasLevel_of_level_eq hLevel)
    with ⟨left, hLeft⟩
  rcases hArena.exists_denotes (hasLevel_of_level_eq hLevel')
    with ⟨right, hRight⟩
  have hEqual : left = right := by
    apply Square.eq_of_cellAt_eq
    intro x y hx hy
    rcases hCells x y hx hy with ⟨cell, hCell, hCell'⟩
    rw [hLeft.cellAt_eq] at hCell
    rw [hRight.cellAt_eq] at hCell'
    rw [Except.ok.inj hCell, Except.ok.inj hCell']
  exact ⟨level, left, hLeft, hEqual ▸ hRight⟩

/-
  Whatever was done to an arena that shares nodes, two of its
  numbers are the same if and only if they have one level and
  the same cells. So it does not matter which actions gave
  the numbers, or in which order.
-/
theorem id_eq_iff_of_run
    (hRun :
      Action.run actions (new true memoizing) =
        .ok (answers, arena))
    (hi : i < arena.size)
    (hj : j < arena.size) :
    i = j ↔ arena.SameSquare i j := by
  have hReached := Action.evolves_of_run hRun
  have hArena := hReached.wellFormed
  have hShares : arena.interning = true :=
    hReached.interning_eq
  constructor
  · rintro rfl
    have hEntry := Array.getElem?_eq_getElem hi
    rcases hArena.exists_denotes ⟨_, hEntry, rfl⟩ with
      ⟨square, hSquare⟩
    exact hSquare.sameSquare hSquare
  · intro hSame
    rcases hArena.exists_square hSame with
      ⟨level, square, hLeft, hRight⟩
    exact hArena.id_eq hShares hLeft hRight

/- The square of four walls has one number in all. -/
theorem id_eq_iff_of_run_walls :
    ∃ q w s n a arena,
      Action.run
          [.wall 0, .wall 1, .wall 2, .node (Quad.all q),
            .advance s]
          (new true true) =
        .ok ([some q, some w, some s, some n, some a],
          arena) ∧
        w = n ∧ n = a ∧ w ≠ s := by
  rcases Action.exists_run_walls true true with
    ⟨q, w, s, n, a, arena, hRun, hWall, hLarger, hNode,
      hStep⟩
  have hw := hWall.hasLevel.lt_size
  have hs := hLarger.hasLevel.lt_size
  have hn := hNode.hasLevel.lt_size
  have ha := hStep.hasLevel.lt_size
  have hFirst : w = n :=
    (id_eq_iff_of_run hRun hw hn).mpr
      (hWall.sameSquare hNode)
  have hSecond : n = a :=
    (id_eq_iff_of_run hRun hn ha).mpr
      (hNode.sameSquare hStep)
  refine ⟨q, w, s, n, a, arena, hRun, hFirst, hSecond, ?_⟩
  rintro rfl
  have hLevel := hWall.hasLevel.unique hLarger.hasLevel
  contradiction

end Arena

end LatticeGas
