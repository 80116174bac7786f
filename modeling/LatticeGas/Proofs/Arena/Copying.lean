import LatticeGas.Arena.Copy
import LatticeGas.Proofs.Arena.Building

/-
  This file shows that the copy of a node in another arena
  stands for the same square.

  Key definitions include:
    * `Copying.Knows`
    * `Copying.Copies`

  Key theorems include:
    * `Copying.copy_induction`
    * `Copying.copies_copy`
    * `Building.ensures_copyTree`
-/

------------------------------------------------------------
-- Known Copies
------------------------------------------------------------

namespace LatticeGas

namespace Copying

open Arena Building

/- Every known copy stands for the square of its original. -/
def Knows
    (source : Arena)
    (copies : Std.HashMap NodeId NodeId)
    (target : Arena) : Prop :=
  ∀ id copy : NodeId,
    copies[id]? = some copy →
      ∀ {level : Nat} (square : Square level),
        source.Denotes id square →
          target.Denotes copy square

variable {source target before after : Arena}
variable {copies : Std.HashMap NodeId NodeId}

/- At the start no copy is known. -/
theorem getElem?_empty_ne
    (id copy : NodeId) :
    (∅ : Std.HashMap NodeId NodeId)[id]? ≠ some copy := by
  rw [Std.HashMap.getElem?_empty]
  exact (Option.some_ne_none copy).symm

/- The table after a copy has this copy and the others. -/
theorem getElem?_insert_cases
    {id copy other found : NodeId}
    (hFound : (copies.insert id copy)[other]? = some found) :
    (id = other ∧ copy = found) ∨
      (id ≠ other ∧ copies[other]? = some found) := by
  rw [Std.HashMap.getElem?_insert] at hFound
  by_cases hSame : id = other
  · exact .inl ⟨hSame, by simpa [hSame] using hFound⟩
  · exact .inr ⟨hSame, by simpa [hSame] using hFound⟩

theorem knows_empty
    (source target : Arena) :
    Knows source ∅ target :=
  fun id copy hCopy =>
    absurd hCopy (getElem?_empty_ne id copy)

theorem Knows.of_extends
    (hKnows : Knows source copies before)
    (hExtends : Extends before after) :
    Knows source copies after :=
  fun id copy hCopy _ square hSquare =>
    (hKnows id copy hCopy square hSquare).of_extends
      hExtends

/- One more copy is known. -/
theorem Knows.insert
    (hKnows : Knows source copies target)
    {id copy : NodeId}
    {level : Nat}
    {square : Square level}
    (hSquare : source.Denotes id square)
    (hCopy : target.Denotes copy square) :
    Knows source (copies.insert id copy) target := by
  intro other found hFound level' square' hOther
  rcases getElem?_insert_cases hFound with
    ⟨rfl, rfl⟩ | ⟨-, hOld⟩
  · obtain rfl : level = level' :=
      hSquare.hasLevel.unique hOther.hasLevel
    rw [← hSquare.unique hOther]
    exact hCopy
  · exact hKnows other found hOld square' hOther

end Copying

end LatticeGas

------------------------------------------------------------
-- Copying
------------------------------------------------------------

namespace LatticeGas

namespace Copying

open Arena Building

/-
  The computation copies any node of the source that stands
  for a square of the level, and keeps track of the copies.
-/
def Copies
    (source : Arena)
    (level : Nat)
    (copyNode : NodeId → Copying NodeId) : Prop :=
  ∀ (copies : Std.HashMap NodeId NodeId) (target : Arena)
    (id : NodeId) (square : Square level),
    target.Sound → Knows source copies target →
      source.Denotes id square →
        Ensures (copyNode id copies) target level
          fun outcome after =>
            after.Denotes outcome.1 square ∧
              Knows source outcome.2 after

variable {A B : Type}
variable {source target after : Arena}
variable {copies known : Std.HashMap NodeId NodeId}
variable {level top : Nat}
variable {square : Square level}

/- A computation goes on from where its first part ended. -/
theorem run_bind_eq
    {copying : Copying A}
    {next : A → Copying B}
    {value : A}
    (hRun :
      copying copies target = .ok ((value, known), after)) :
    (copying >>= next) copies target =
      next value known after := by
  change (copying copies >>= fun outcome =>
    next outcome.1 outcome.2) target = _
  rw [bind_eq_of_run_eq hRun]

/- One computation with known copies after another. -/
theorem ensures_bind
    {copying : Copying A}
    {next : A → Copying B}
    {goal : A × Std.HashMap NodeId NodeId → Arena → Prop}
    {goal' : B × Std.HashMap NodeId NodeId → Arena → Prop}
    (hCopying : Ensures (copying copies) target top goal)
    (hNext :
      ∀ value known after,
        after.Sound → Extends target after →
          goal (value, known) after →
            Ensures (next value known) after top goal') :
    Ensures ((copying >>= next) copies) target top goal' :=
  hCopying.bind fun outcome after hAfter hKeeps hGoal =>
    hNext outcome.1 outcome.2 after hAfter hKeeps hGoal

/- The four quadrants of a node are copied in order. -/
theorem ensures_mapM_copy
    {copyQuadrant : NodeId → Copying NodeId}
    (hCopies : Copies source level copyQuadrant)
    (hSound : target.Sound)
    (hKnows : Knows source copies target)
    {children : Quad NodeId}
    {squares : Quad (Square level)}
    (hChildren : source.DenotesQuad children squares) :
    Ensures (children.mapM copyQuadrant copies) target level
      fun outcome after =>
        after.DenotesQuad outcome.1 squares ∧
          Knows source outcome.2 after := by
  unfold Quad.mapM
  refine ensures_bind (hCopies copies target _ _ hSound
    hKnows hChildren.sw) ?_
  rintro sw known afterSw hSoundSw - ⟨hSw, hKnowsSw⟩
  refine ensures_bind (hCopies known afterSw _ _ hSoundSw
    hKnowsSw hChildren.se) ?_
  rintro se known afterSe hSoundSe hKeepsSe ⟨hSe, hKnowsSe⟩
  refine ensures_bind (hCopies known afterSe _ _ hSoundSe
    hKnowsSe hChildren.nw) ?_
  rintro nw known afterNw hSoundNw hKeepsNw ⟨hNw, hKnowsNw⟩
  refine ensures_bind (hCopies known afterNw _ _ hSoundNw
    hKnowsNw hChildren.ne) ?_
  rintro ne known after hAfter hKeepsNe ⟨hNe, hKnowsNe⟩
  have hKeeps := hKeepsNw.trans hKeepsNe
  exact Ensures.pure hAfter
    ⟨⟨hSw.of_extends (hKeepsSe.trans hKeeps),
      hSe.of_extends hKeeps, hNw.of_extends hKeepsNe, hNe⟩,
      hKnowsNe⟩

/- What is built becomes known. -/
theorem run_learn
    (build : Building NodeId)
    (id : NodeId)
    (copies : Std.HashMap NodeId NodeId)
    (target : Arena) :
    (do
        let copy ← build
        learn id copy
        return copy : Copying NodeId) copies target =
      (build target).map fun made =>
        ((made.1, copies.insert id made.1), made.2) := by
  change ((build target >>= fun made =>
    Except.ok ((made.1, copies), made.2)) >>= fun made =>
      Except.ok ((made.1.1, made.1.2.insert id made.1.1),
        made.2)) = _
  cases build target with
  | error fault => rfl
  | ok made => rfl

theorem learn_eq_ok
    {build : Building NodeId}
    {id copy : NodeId}
    {after : Arena}
    (hBuild : build target = .ok (copy, after)) :
    (do
        let copy ← build
        learn id copy
        return copy : Copying NodeId) copies target =
      .ok ((copy, copies.insert id copy), after) := by
  rw [run_learn, hBuild]
  rfl

/- A copy that is built now is known from then on. -/
theorem ensures_learn
    {build : Building NodeId}
    (hBuild :
      Ensures build target top fun copy after =>
        after.Denotes copy square)
    (hKnows : Knows source copies target)
    {id : NodeId}
    (hSquare : source.Denotes id square) :
    Ensures
      ((do
          let copy ← build
          learn id copy
          return copy : Copying NodeId)
        copies)
      target top fun outcome after =>
        after.Denotes outcome.1 square ∧
          Knows source outcome.2 after := by
  unfold Ensures
  rw [run_learn]
  refine Barring.map hBuild ?_
  rintro ⟨copy, after⟩ ⟨hSound, hGrows, hCopy⟩
  exact ⟨hSound, hGrows, hCopy,
    (hKnows.of_extends hGrows.keeps).insert hSquare hCopy⟩

/- Looking for a copy changes nothing. -/
theorem known?_bind
    (id : NodeId)
    (next : Option NodeId → Copying A)
    (copies : Std.HashMap NodeId NodeId) :
    (known? id >>= next) copies = next copies[id]? copies :=
  rfl

/- A node that has a copy is not copied again. -/
theorem copyStep_of_known
    {copyQuadrant : NodeId → Copying NodeId}
    {id copy : NodeId}
    (hKnown : copies[id]? = some copy) :
    copyStep source copyQuadrant id copies target =
      .ok ((copy, copies), target) := by
  unfold copyStep
  rw [known?_bind, hKnown]
  rfl

/- A leaf without a copy is copied by its cell. -/
theorem copyStep_of_leaf
    {copyQuadrant : NodeId → Copying NodeId}
    {id : NodeId}
    {cell : Cell}
    (hUnknown : copies[id]? = none)
    (hEntry : source.entries[id]? = some (.leaf cell)) :
    copyStep source copyQuadrant id copies =
      (do
          let copy ← Building.leaf cell
          learn id copy
          return copy : Copying NodeId)
        copies := by
  have hFound := entry_eq_ok_iff.mpr hEntry
  unfold copyStep
  rw [known?_bind, hUnknown, hFound]
  rfl

/- Any other node is copied after its quadrants. -/
theorem copyStep_of_node
    {copyQuadrant : NodeId → Copying NodeId}
    {id : NodeId}
    {above : Nat}
    {children : Quad NodeId}
    (hUnknown : copies[id]? = none)
    (hEntry :
      source.entries[id]? = some (.node above children)) :
    copyStep source copyQuadrant id copies =
      (do
          let ids ← children.mapM copyQuadrant
          let copy ← Building.node ids
          learn id copy
          return copy : Copying NodeId)
        copies := by
  have hFound := entry_eq_ok_iff.mpr hEntry
  unfold copyStep
  rw [known?_bind, hUnknown, hFound]
  rfl

/- A node is copied if its quadrants are. -/
theorem copies_copyStep
    (hSource : source.WellFormed)
    {copyQuadrant : NodeId → Copying NodeId}
    (hCopies :
      ∀ below, level = below + 1 →
        Copies source below copyQuadrant) :
    Copies source level (copyStep source copyQuadrant) := by
  intro copies target id square hSound hKnows hSquare
  cases hKnown : copies[id]? with
  | some copy =>
      exact Barring.of_eq_ok (copyStep_of_known hKnown)
        ⟨hSound, Grows.refl level target,
          hKnows id copy hKnown square hSquare, hKnows⟩
  | none =>
      cases level with
      | zero =>
          rcases square with ⟨cell⟩
          have hEntry :=
            (denotes_leaf_iff source id cell).mp hSquare
          rw [copyStep_of_leaf hKnown hEntry]
          refine ensures_learn ?_ hKnows hSquare
          exact (ensures_leaf hSound cell).mono
            (Nat.le_refl 0) fun _ _ _ hGoal => hGoal.1
      | succ below =>
          rcases (denotes_succ_iff source id square).mp
            hSquare with ⟨children, hEntry, hChildren⟩
          have hMax :=
            hSource.level_le_max hSquare.hasLevel
          rw [copyStep_of_node hKnown hEntry]
          refine ensures_bind ((ensures_mapM_copy
            (hCopies below rfl) hSound hKnows
            hChildren).mono (Nat.le_succ below)
              fun _ _ _ hGoal => hGoal) ?_
          rintro ids known after hAfter - ⟨hIds, hKnowsIds⟩
          refine ensures_learn ?_ hKnowsIds hSquare
          refine (ensures_node hAfter hIds (by omega)
            (Nat.le_refl _)).mono (Nat.le_refl _) ?_
          rintro copy last - ⟨hCopy, -⟩
          rw [Square.ofQuad_quadrants] at hCopy
          exact hCopy

/-
  What a copy of a node does if the copies of its quadrants
  do, each copy does that is nested as deep as levels are
  left.
-/
theorem copy_induction
    {motive : Nat → (NodeId → Copying NodeId) → Prop}
    (hStep :
      ∀ (level : Nat) (copyQuadrant : NodeId → Copying NodeId),
        (∀ below, level = below + 1 →
          motive below copyQuadrant) →
            motive level (copyStep source copyQuadrant))
    {depth : Nat}
    (hDepth : level ≤ depth) :
    motive level (copy source depth) := by
  induction depth generalizing level with
  | zero =>
      apply hStep
      intro below hLevel
      omega
  | succ depth ih =>
      apply hStep
      intro below hLevel
      exact ih (by omega)

theorem copies_copy
    (hSource : source.WellFormed)
    {depth : Nat}
    (hDepth : level ≤ depth) :
    Copies source level (copy source depth) :=
  copy_induction (motive := Copies source)
    (fun _ _ => copies_copyStep hSource) hDepth

end Copying

namespace Building

open Arena

/- The copy of a node stands for the square of the node. -/
theorem ensures_copyTree
    {source target : Arena}
    (hSource : source.WellFormed)
    (hSound : target.Sound)
    {root : NodeId}
    {level : Nat}
    {square : Square level}
    (hSquare : source.Denotes root square) :
    Ensures (copyTree source root) target level
      fun id after => after.Denotes id square := by
  unfold copyTree
  apply Ensures.bind_lift hSquare.hasLevel.level_eq
  refine Ensures.bind (Copying.copies_copy hSource
    (Nat.le_refl level) ∅ target root square hSound
    (Copying.knows_empty source target) hSquare) ?_
  rintro ⟨copy, known⟩ after hAfter - ⟨hCopy, -⟩
  exact Ensures.pure hAfter hCopy

end Building

end LatticeGas
