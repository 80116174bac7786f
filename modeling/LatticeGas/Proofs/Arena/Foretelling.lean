import LatticeGas.Proofs.Arena.Costs

/-
  This file says what a square foretells of every plane that
  it is part of, and shows that the macro step of a node is
  what the square of the node foretells. It comes to its end
  whenever there are numbers left for the nodes that it may
  take, and not always without them.

  Key definitions include:
    * `Square.Foretells`

  Key theorems include:
    * `Square.foretells_iff`
    * `Building.advanceCenter_foretells`
-/

------------------------------------------------------------
-- Foretelling
------------------------------------------------------------

namespace LatticeGas

/-
  The second square is the middle of the first one, a quarter
  of its side in ticks later, whatever surrounds the first.
-/
def Square.Foretells
    {level : Nat}
    (square : Square (level + 2))
    (centre : Square (level + 1)) : Prop :=
  ∀ plane : Plane, square.AgreesWith plane →
    ∀ x y : Nat,
      x < sideOfLevel (level + 1) →
        y < sideOfLevel (level + 1) →
          centre.cellAt x y =
            Plane.run (sideOfLevel level) plane
              (x + sideOfLevel level)
              (y + sideOfLevel level)

theorem Square.foretells_advance
    {level : Nat}
    (square : Square (level + 2)) :
    square.Foretells square.advance := by
  intro plane hAgrees x y hx hy
  have hCell := hAgrees.advance x y hx hy
  rw [hCell, Plane.leap, Plane.shift,
    Int.add_comm (sideOfLevel level : Int) x,
    Int.add_comm (sideOfLevel level : Int) y]

/- The macro step is the only square that is foretold. -/
theorem Square.foretells_iff
    {level : Nat}
    (square : Square (level + 2))
    (centre : Square (level + 1)) :
    square.Foretells centre ↔ centre = square.advance := by
  constructor
  · intro hForetells
    let ticks := sideOfLevel level
    let later := square.plane.leap ticks
    have hAgrees := square.agreesWith_plane
    have hCentre : centre.AgreesWith later := by
      intro x y hx hy
      have hCell := hForetells square.plane hAgrees x y hx hy
      rw [hCell, Int.add_comm (x : Int),
        Int.add_comm (y : Int)]
      rfl
    have hStep : square.advance.AgreesWith later :=
      hAgrees.advance
    rw [agreesWith_iff] at hCentre hStep
    rw [hCentre, hStep]
  · intro hCentre
    subst hCentre
    exact square.foretells_advance

end LatticeGas

------------------------------------------------------------
-- What the Macro Step Foretells
------------------------------------------------------------

namespace LatticeGas

namespace Building

open Arena

/-
  The macro step of a node gives a node one level below, from
  which the middle of every plane around the node's square is
  read as it is after the ticks. All squares stay, and all
  remembered steps are right. It ends without a fault if
  there are numbers for all nodes that it may take.
-/
theorem advanceCenter_foretells
    {arena : Arena}
    (hOwn : arena.OwnSteps)
    {id : NodeId}
    {level : Nat}
    {square : Square (level + 2)}
    (hSquare : arena.Denotes id square) :
    Barring (arena.Lacks (Square.stepCost level))
      (fun (next, after) =>
        after.level next = .ok (level + 1) ∧
        (∀ plane : Plane, square.AgreesWith plane →
          ∀ x y : Nat,
            x < sideOfLevel (level + 1) →
              y < sideOfLevel (level + 1) →
                after.cellAt next x y =
                  .ok (Plane.run (sideOfLevel level) plane
                    (x + sideOfLevel level)
                    (y + sideOfLevel level))) ∧
        after.OwnSteps ∧ after.WellFormed ∧
        (∀ (old : NodeId) (below : Nat)
          (kept : Square below),
          arena.Denotes old kept →
            after.Denotes old kept) ∧
        (∀ node step : NodeId,
          after.steps[node]? = some (some step) →
            ∃ (below : Nat) (whole : Square (below + 2))
              (centre : Square (below + 1)),
              after.Denotes node whole ∧
                after.Denotes step centre ∧
                  whole.Foretells centre))
      (advanceCenter id arena) := by
  refine ((costs_advanceCenter hOwn.sound hSquare).ensured
    (ensures_advanceCenter hOwn.sound hSquare)).imp
      (fun _ hLacks => hLacks) ?_
  rintro ⟨next, after⟩ hRun ⟨-, hSound, hGrows, hNext⟩
  refine ⟨hNext.hasLevel.level_eq, ?_, hOwn.advanced hRun,
    hSound.wellFormed, ?_, ?_⟩
  · intro plane hAgrees x y hx hy
    rw [hNext.cellAt_eq,
      square.foretells_advance plane hAgrees x y hx hy]
  · intro old below kept hKept
    exact hKept.of_extends hGrows.keeps
  · intro node step hStep
    rcases hSound.steps_exact node step hStep with
      ⟨below, whole, hWhole, hCentre⟩
    exact ⟨below, whole, whole.advance, hWhole, hCentre,
      whole.foretells_advance⟩

end Building

namespace Arena

/-
  An arena that remembers steps and does not share nodes. Its
  last node is a square of level two in which a particle
  moves along the first axis in every cell.
-/
def steadyFlow : Arena :=
  let cell := Entry.leaf (Cell.lone .xPos)
  let small := Entry.node 1 (Quad.all 0)
  let large := Entry.node 2 (Quad.all 1)
  (((new false true).extended cell).extended small).extended
    large

/- Its nodes fit together. -/
theorem wellFormed_steadyFlow :
    steadyFlow.WellFormed := by
  have hCell :
      (new false true).Accepts (.leaf (Cell.lone .xPos)) :=
    trivial
  have hEmpty := wellFormed_new false true
  have hFirst := wellFormed_push rfl hEmpty hCell
  refine wellFormed_push rfl (wellFormed_push rfl hFirst ?_) ?_
  · refine ⟨0, rfl, by decide, ?_⟩
    intro child hChild
    have hZero : child = 0 := by
      simpa [Quad.all, Quad.toList] using hChild
    subst hZero
    exact ⟨.leaf (Cell.lone .xPos), rfl, rfl⟩
  · refine ⟨1, rfl, by decide, ?_⟩
    intro child hChild
    have hOne : child = 1 := by
      simpa [Quad.all, Quad.toList] using hChild
    subst hOne
    exact ⟨.node 1 (Quad.all 0), rfl, rfl⟩

end Arena

namespace Building

open Arena

/- The macro step of the steady flow is one tick of it. -/
theorem advanceCenter_foretells_steadyFlow :
    ∃ next after,
      advanceCenter 2 steadyFlow = .ok (next, after) ∧
        after.level next = .ok 1 ∧
        ∀ plane : Plane,
          (Square.uniform (Cell.lone .xPos) 2).AgreesWith
              plane →
            ∀ x y : Nat, x < 2 → y < 2 →
              after.cellAt next x y =
                .ok (plane.tick (x + 1) (y + 1)) := by
  have hBlank :
      ∀ id next : NodeId,
        steadyFlow.steps[id]? ≠ some (some next) := by
    intro id next hNext
    have hSteps : steadyFlow.steps = #[none, none, none] :=
      rfl
    rw [hSteps] at hNext
    rcases id with _ | _ | _ | id
    · cases hNext
    · cases hNext
    · cases hNext
    · simp at hNext
  have hSquare :
      steadyFlow.Denotes 2
        (Square.uniform (Cell.lone .xPos) 2) :=
    rfl
  have hRoom :
      steadyFlow.size + Square.stepCost 0 ≤ nodeLimit := by
    decide
  rcases (advanceCenter_foretells
      (.blank wellFormed_steadyFlow hBlank) hSquare).exists_ok
        (not_lacks hRoom) with
    ⟨⟨next, after⟩, hRun, hLevel, hCells, -⟩
  exact ⟨next, after, hRun, hLevel, hCells⟩

/- So it is not always that the macro step ends well. -/
theorem not_forall_advanceCenter_foretells :
    ¬ ∀ (arena : Arena) (id : NodeId) (level : Nat)
        (square : Square (level + 2)),
      arena.OwnSteps → arena.Denotes id square →
        ∃ next after,
          advanceCenter id arena = .ok (next, after) ∧
            after.level next = .ok (level + 1) := by
  intro hAll
  rcases exists_exhausted with
    ⟨arena, hOwn, -, -, hSquare, hRun⟩
  rcases hAll arena 10 8 _ hOwn hSquare with
    ⟨next, after, hDone, -⟩
  rw [hRun] at hDone
  cases hDone

end Building

end LatticeGas
