import LatticeGas.Proofs.Arena.Copying
import LatticeGas.Proofs.Arena.Gathering

/-
  This file shows what the macro step and the copy of a node
  gather. Both trails depend on the square alone: a step that
  is remembered, or a quadrant that was copied before, has
  its trail in the arena already.

  Key definitions include:
    * `Copying.Recopies`

  Key theorems include:
    * `Building.gathers_advanceCenter`
    * `Building.gathers_copyTree`
-/

------------------------------------------------------------
-- The Macro Step
------------------------------------------------------------

namespace LatticeGas

namespace Building

open Arena

theorem gathers_advanceCenter
    {arena : Arena}
    (hTraced : arena.Traced)
    {id : NodeId}
    {level : Nat}
    {square : Square (level + 2)}
    (hSquare : arena.Denotes id square) :
    Gathers (advanceCenter id) arena square.trail
      fun next after =>
        after.Denotes next square.advance :=
  gaining.advanceCenter hTraced hSquare

end Building

end LatticeGas

------------------------------------------------------------
-- Copies
------------------------------------------------------------

namespace LatticeGas

namespace Copying

open Arena Building

/-
  The computation copies any node of the source that stands
  for a square of the level, gathers the parts of the square,
  and keeps track of the copies.
-/
def Recopies
    (source : Arena)
    (level : Nat)
    (copyNode : NodeId → Copying NodeId) : Prop :=
  ∀ (copies : Std.HashMap NodeId NodeId) (target : Arena)
    (id : NodeId) (square : Square level),
    target.Traced → Knows source copies target →
      source.Denotes id square →
        Gathers (copyNode id copies) target square.parts
          fun outcome after =>
            after.Denotes outcome.1 square ∧
              Knows source outcome.2 after

variable {A B : Type}
variable {source target : Arena}
variable {copies : Std.HashMap NodeId NodeId}
variable {level : Nat}
variable {square : Square level}
variable {trail rest : List Piece}

/- One computation with known copies after another. -/
theorem gathers_bind
    {copying : Copying A}
    {next : A → Copying B}
    {goal : A × Std.HashMap NodeId NodeId → Arena → Prop}
    {goal' : B × Std.HashMap NodeId NodeId → Arena → Prop}
    (hCopying : Gathers (copying copies) target trail goal)
    (hNext :
      ∀ value known after,
        after.Traced → Extends target after →
          goal (value, known) after →
            Gathers (next value known) after rest goal') :
    Gathers ((copying >>= next) copies) target
      (trail ++ rest) goal' :=
  hCopying.bind fun outcome after hAfter hGains hGoal =>
    hNext outcome.1 outcome.2 after hAfter hGains.keeps hGoal

/- A copy that is built now is known from then on. -/
theorem gathers_learn
    {build : Building NodeId}
    (hBuild :
      Gathers build target trail fun copy after =>
        after.Denotes copy square)
    (hKnows : Knows source copies target)
    {id : NodeId}
    (hSquare : source.Denotes id square) :
    Gathers
      ((do
          let copy ← build
          learn id copy
          return copy : Copying NodeId)
        copies)
      target trail fun outcome after =>
        after.Denotes outcome.1 square ∧
          Knows source outcome.2 after := by
  unfold Gathers Account.Yields
  rw [run_learn]
  refine Barring.map hBuild ?_
  rintro ⟨copy, after⟩ ⟨hTraced, hGains, hCopy⟩
  exact ⟨hTraced, hGains, hCopy,
    (hKnows.of_extends hGains.keeps).insert hSquare hCopy⟩

/- The four quadrants of a node are copied before it. -/
theorem gathers_mapM_copy
    {copyQuadrant : NodeId → Copying NodeId}
    (hCopies : Recopies source level copyQuadrant)
    (hTraced : target.Traced)
    (hKnows : Knows source copies target)
    {children : Quad NodeId}
    {squares : Quad (Square level)}
    (hChildren : source.DenotesQuad children squares)
    {next : Quad NodeId → Copying A}
    {goal : A × Std.HashMap NodeId NodeId → Arena → Prop}
    (hNext :
      ∀ ids known after,
        after.Traced → after.DenotesQuad ids squares →
          Knows source known after →
            Gathers (next ids known) after rest goal) :
    Gathers ((children.mapM copyQuadrant >>= next) copies)
      target
      (squares.sw.parts ++ (squares.se.parts ++
        (squares.nw.parts ++ (squares.ne.parts ++ rest))))
      goal := by
  unfold Quad.mapM
  simp only [bind_assoc, pure_bind]
  refine gathers_bind (hCopies copies target _ _ hTraced
    hKnows hChildren.sw) ?_
  rintro sw known afterSw hTracedSw - ⟨hSw, hKnowsSw⟩
  refine gathers_bind (hCopies known afterSw _ _ hTracedSw
    hKnowsSw hChildren.se) ?_
  rintro se known afterSe hTracedSe hKeepsSe ⟨hSe, hKnowsSe⟩
  refine gathers_bind (hCopies known afterSe _ _ hTracedSe
    hKnowsSe hChildren.nw) ?_
  rintro nw known afterNw hTracedNw hKeepsNw ⟨hNw, hKnowsNw⟩
  refine gathers_bind (hCopies known afterNw _ _ hTracedNw
    hKnowsNw hChildren.ne) ?_
  rintro ne known after hAfter hKeepsNe ⟨hNe, hKnowsNe⟩
  have hKeeps := hKeepsNw.trans hKeepsNe
  exact hNext ⟨sw, se, nw, ne⟩ known after hAfter
    ⟨hSw.of_extends (hKeepsSe.trans hKeeps),
      hSe.of_extends hKeeps, hNw.of_extends hKeepsNe, hNe⟩
    hKnowsNe

/-
  A node with a copy has all its parts in the target. Other
  nodes are copied if their quadrants are.
-/
theorem recopies_copyStep
    (hSource : source.WellFormed)
    {copyQuadrant : NodeId → Copying NodeId}
    (hCopies :
      ∀ below, level = below + 1 →
        Recopies source below copyQuadrant) :
    Recopies source level
      (copyStep source copyQuadrant) := by
  intro copies target id square hTraced hKnows hSquare
  cases hKnown : copies[id]? with
  | some copy =>
      have hCopy := hKnows id copy hKnown square hSquare
      exact Barring.of_eq_ok (copyStep_of_known hKnown)
        ⟨hTraced, gains_of_holds hCopy.holds_parts, hCopy,
          hKnows⟩
  | none =>
      cases square with
      | leaf cell =>
          have hEntry :=
            (denotes_leaf_iff source id cell).mp hSquare
          rw [copyStep_of_leaf hKnown hEntry]
          refine gathers_learn ?_ hKnows hSquare
          exact (gathers_leaf hTraced cell).mono
            fun _ _ hGoal => hGoal.1
      | node sw se nw ne =>
          rcases (denotes_succ_iff source id _).mp
            hSquare with ⟨children, hEntry, hChildren⟩
          have hMax :=
            hSource.level_le_max hSquare.hasLevel
          rw [copyStep_of_node hKnown hEntry]
          refine gathers_mapM_copy (hCopies _ rfl) hTraced
            hKnows hChildren ?_
          intro ids known after hAfter hIds hKnowsIds
          refine gathers_learn ?_ hKnowsIds hSquare
          exact (gathers_node hAfter hIds (by omega)).mono
            fun _ _ hGoal => hGoal.1

theorem recopies_copy
    (hSource : source.WellFormed)
    {depth : Nat}
    (hDepth : level ≤ depth) :
    Recopies source level (copy source depth) :=
  copy_induction (motive := Recopies source)
    (fun _ _ => recopies_copyStep hSource) hDepth

end Copying

namespace Building

open Arena

/- The copy of a node adds the parts of its square. -/
theorem gathers_copyTree
    {source target : Arena}
    (hSource : source.WellFormed)
    (hTraced : target.Traced)
    {root : NodeId}
    {level : Nat}
    {square : Square level}
    (hSquare : source.Denotes root square) :
    Gathers (copyTree source root) target square.parts
      fun id after => after.Denotes id square := by
  unfold copyTree
  apply Gathers.bind_lift hSquare.hasLevel.level_eq
  rw [← List.append_nil square.parts]
  refine Gathers.bind (Copying.recopies_copy hSource
    (Nat.le_refl level) ∅ target root square hTraced
    (Copying.knows_empty source target) hSquare) ?_
  rintro ⟨copy, known⟩ after hAfter - ⟨hCopy, -⟩
  exact Gathers.pure hAfter hCopy

end Building

end LatticeGas
