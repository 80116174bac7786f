import LatticeGas.Proofs.Arena.Building
import LatticeGas.Proofs.Square.LightCone

/-
  This file shows that the macro step of a node makes a node
  of the macro step of its square, whether it is remembered
  or computed, and that all that is remembered stays right.

  Key definitions include:
    * `Building.Advances`
    * `Arena.OwnSteps`

  Key theorems include:
    * `Building.ensures_advanceWindows`
    * `Building.ensures_advanceCenter`
    * `Arena.OwnSteps.sound`
-/

------------------------------------------------------------
-- Blocks of Sixteen Cells
------------------------------------------------------------

namespace LatticeGas

namespace Building

open Arena

variable {arena : Arena}
variable {id : NodeId}

/- The values of four leaves are read. -/
theorem mapM_value_eq
    {ids : Quad NodeId}
    {squares : Quad (Square 0)}
    (hQuad : arena.DenotesQuad ids squares) :
    ids.mapM arena.value =
      .ok (squares.map Square.value) :=
  Quad.mapM_eq_ok arena.value
    hQuad.sw.value_eq hQuad.se.value_eq
    hQuad.nw.value_eq hQuad.ne.value_eq

/- The sixteen cells of a square of level two are read. -/
theorem blockCells_eq
    {square : Square 2}
    (hSquare : arena.Denotes id square) :
    blockCells id arena = .ok (square.block, arena) := by
  rcases hSquare.exists_grandchildren with
    ⟨leaves, hLeaves, hGrid⟩
  apply ask_eq
  rw [hLeaves]
  exact Quad.mapM_eq_ok
    (fun quadrant : Quad NodeId =>
      quadrant.mapM arena.value)
    (mapM_value_eq hGrid.sw) (mapM_value_eq hGrid.se)
    (mapM_value_eq hGrid.nw) (mapM_value_eq hGrid.ne)

theorem ensures_advanceBlock
    (hSound : arena.Sound)
    {square : Square 2}
    (hSquare : arena.Denotes id square) :
    Ensures (advanceBlock id) arena 1 fun next after =>
      after.Denotes next square.advance := by
  unfold advanceBlock
  apply Ensures.bind_eq (blockCells_eq hSquare)
  refine (ensures_mapM
    (square.block.tickCentre.map Square.leaf)
    hSound (makes_leaf arena _) (makes_leaf arena _)
    (makes_leaf arena _) (makes_leaf arena _)).bind ?_
  intro leaves after hAfter hKeeps hLeaves
  refine (ensures_node hAfter hLeaves (by decide)
    (Nat.le_refl 1)).mono (Nat.le_refl 1) ?_
  exact fun _ _ _ hGoal => hGoal.1

end Building

end LatticeGas

------------------------------------------------------------
-- Larger Squares
------------------------------------------------------------

namespace LatticeGas

namespace Building

open Arena

/-
  The computation takes the macro step of any node that
  stands for a square of level `level + 2`.
-/
def Advances
    (level : Nat)
    (advance : NodeId → Building NodeId) : Prop :=
  ∀ (arena : Arena) (id : NodeId)
    (square : Square (level + 2)),
    arena.Sound → arena.Denotes id square →
      Ensures (advance id) arena (level + 1)
        fun next after => after.Denotes next square.advance

variable {arena : Arena}
variable {id : NodeId}
variable {level : Nat}
variable {advance : NodeId → Building NodeId}

/- A window that is there already is advanced as it is. -/
theorem makes_advance
    (hAdvance : Advances level advance)
    {square : Square (level + 2)}
    (hSquare : arena.Denotes id square) :
    Makes (advance id) arena (level + 2)
      (Square.ofQuad square.quadrants).advance := by
  intro later hSound hExtends
  rw [Square.ofQuad_quadrants]
  exact (hAdvance later id square hSound
    (hSquare.of_extends hExtends)).mono
      (Nat.le_succ (level + 1)) fun _ _ _ hGoal => hGoal

/- Other windows are composed first. -/
theorem makes_advanceWindow
    (hAdvance : Advances level advance)
    (hMax : level + 1 < maxLevel)
    {ids : Quad NodeId}
    {squares : Quad (Square (level + 1))}
    (hQuad : arena.DenotesQuad ids squares) :
    Makes (advanceWindow advance ids) arena (level + 2)
      (Square.ofQuad squares).advance := by
  intro later hSound hExtends
  refine (ensures_node hSound (hQuad.of_extends hExtends)
    hMax (Nat.le_refl _)).bind ?_
  rintro window after hAfter - ⟨hWindow, -⟩
  exact (hAdvance after window _ hAfter hWindow).mono
    (Nat.le_succ (level + 1)) fun _ _ _ hGoal => hGoal

/-
  The macro step of a larger square. The nine windows of the
  first half come row by row, and the four windows of the
  second half are put together from their outcomes.
-/
theorem ensures_advanceWindows
    (hAdvance : Advances level advance)
    (hSound : arena.Sound)
    {square : Square (level + 3)}
    (hSquare : arena.Denotes id square) :
    Ensures (advanceWindows advance id) arena (level + 2)
      fun next after =>
        after.Denotes next square.advance := by
  have hMaxWindow : level + 1 < maxLevel := by
    have hMax :=
      hSound.wellFormed.level_le_max hSquare.hasLevel
    omega
  rcases hSquare.exists_children with
    ⟨corner, hCorner, hCornerQuad⟩
  rcases hSquare.exists_grandchildren with
    ⟨inner, hInner, hGrid⟩
  unfold advanceWindows
  apply Ensures.bind_eq (ask_eq hCorner)
  apply Ensures.bind_eq (ask_eq hInner)
  dsimp only
  refine Ensures.bind_three hSound (Extends.refl arena)
    (makes_advance hAdvance hCornerQuad.sw)
    (makes_advanceWindow hAdvance hMaxWindow
      (hGrid.sw.acrossX hGrid.se))
    (makes_advance hAdvance hCornerQuad.se) ?_
  intro sw s se south hSouth hToSouth hSw hS hSe
  refine Ensures.bind_three hSouth hToSouth
    (makes_advanceWindow hAdvance hMaxWindow
      (hGrid.sw.acrossY hGrid.nw))
    (makes_advanceWindow hAdvance hMaxWindow
      hGrid.centre)
    (makes_advanceWindow hAdvance hMaxWindow
      (hGrid.se.acrossY hGrid.ne))
    ?_
  intro w c e middle hMiddle hFromSouth hW hC hE
  refine Ensures.bind_three hMiddle
    (hToSouth.trans hFromSouth)
    (makes_advance hAdvance hCornerQuad.nw)
    (makes_advanceWindow hAdvance hMaxWindow
      (hGrid.nw.acrossX hGrid.ne))
    (makes_advance hAdvance hCornerQuad.ne) ?_
  intro nw n ne north hNorth hFromMiddle hNw hN hNe
  -- All nine outcomes are known from here on.
  have hToNorth := hFromSouth.trans hFromMiddle
  replace hSw := hSw.of_extends hToNorth
  replace hS := hS.of_extends hToNorth
  replace hSe := hSe.of_extends hToNorth
  replace hW := hW.of_extends hFromMiddle
  replace hC := hC.of_extends hFromMiddle
  replace hE := hE.of_extends hFromMiddle
  refine Ensures.bind_four square.advance.quadrants
    hNorth (Extends.refl north)
    (makes_advanceWindow hAdvance hMaxWindow
      ⟨hSw, hS, hW, hC⟩)
    (makes_advanceWindow hAdvance hMaxWindow
      ⟨hS, hSe, hC, hE⟩)
    (makes_advanceWindow hAdvance hMaxWindow
      ⟨hW, hC, hNw, hN⟩)
    (makes_advanceWindow hAdvance hMaxWindow
      ⟨hC, hE, hN, hNe⟩) ?_
  intro ids after hAfter hKeeps hIds
  refine (ensures_node hAfter hIds hMaxWindow
    (Nat.le_refl _)).mono (Nat.le_refl _) ?_
  rintro next last - ⟨hNext, -⟩
  rw [Square.ofQuad_quadrants] at hNext
  exact hNext

end Building

end LatticeGas

------------------------------------------------------------
-- Remembered Steps
------------------------------------------------------------

namespace LatticeGas

namespace Arena

variable {arena : Arena}

theorem extends_setNext
    (arena : Arena)
    (id next : NodeId) :
    Extends arena (arena.setNext id next) :=
  fun _ _ hEntry => hEntry

/- Whatever is remembered as a step, the nodes stay. -/
theorem wellFormed_setNext
    (hArena : arena.WellFormed)
    (id next : NodeId) :
    (arena.setNext id next).WellFormed := by
  have hExtends := extends_setNext arena id next
  refine ⟨hArena.size_le, ?_, ?_, hArena.child_lt,
    hArena.index_iff, ?_⟩
  · change (arena.steps.setIfInBounds id _).size = _
    rw [Array.size_setIfInBounds]
    exact hArena.size_steps
  · intro other entry hEntry
    exact (hArena.accepts_entry other entry
      hEntry).of_extends hExtends
  · intro wall other hOther
    exact (hArena.denotes_wall wall other hOther).of_extends
      hExtends

/- A right step may be remembered. -/
theorem sound_setNext
    (hSound : arena.Sound)
    {id next : NodeId}
    {level : Nat}
    {square : Square (level + 2)}
    (hSquare : arena.Denotes id square)
    (hNext : arena.Denotes next square.advance) :
    (arena.setNext id next).Sound := by
  have hExtends := extends_setNext arena id next
  constructor
  · exact wellFormed_setNext hSound.wellFormed id next
  · intro other step hStep
    change (arena.steps.setIfInBounds id _)[other]? = _
      at hStep
    rw [Array.getElem?_setIfInBounds] at hStep
    by_cases hSame : id = other
    · subst hSame
      have hStep : next = step := by
        by_cases hId : id < arena.steps.size
        · simpa [hId] using hStep
        · simp [hId] at hStep
      subst hStep
      exact ⟨level, square, hSquare.of_extends hExtends,
        hNext.of_extends hExtends⟩
    · rw [if_neg hSame] at hStep
      rcases hSound.steps_exact other step hStep with
        ⟨level', square', hOther, hStepSquare⟩
      exact ⟨level', square', hOther.of_extends hExtends,
        hStepSquare.of_extends hExtends⟩

/- A node that is there is asked for its step in vain only. -/
theorem Sound.cachedNext_cases
    (hSound : arena.Sound)
    {id : NodeId}
    {level : Nat}
    {square : Square (level + 2)}
    (hSquare : arena.Denotes id square) :
    arena.cachedNext id = .ok none ∨
      ∃ next,
        arena.cachedNext id = .ok (some next) ∧
          arena.Denotes next square.advance := by
  unfold cachedNext
  by_cases hMemoizing : arena.memoizing = true
  · rw [if_pos hMemoizing]
    have hId :=
      hSound.wellFormed.lt_size_steps hSquare.hasLevel
    rw [Array.getElem?_eq_getElem hId]
    cases hStep : arena.steps[id] with
    | none => exact Or.inl rfl
    | some next =>
        refine Or.inr ⟨next, rfl, ?_⟩
        have hFound :
            arena.steps[id]? = some (some next) := by
          rw [Array.getElem?_eq_getElem hId, hStep]
        rcases hSound.steps_exact id next hFound with
          ⟨level', square', hSquare', hNext⟩
        have hLevel :=
          hSquare'.hasLevel.unique hSquare.hasLevel
        obtain rfl : level' = level := by omega
        rw [hSquare.unique hSquare']
        exact hNext
  · rw [if_neg hMemoizing]
    exact Or.inl rfl

end Arena

namespace Building

open Arena

variable {arena : Arena}
variable {top : Nat}

theorem ensures_storeNext
    (hSound : arena.Sound)
    {id next : NodeId}
    {level : Nat}
    {square : Square (level + 2)}
    (hSquare : arena.Denotes id square)
    (hNext : arena.Denotes next square.advance) :
    Ensures (storeNext id next) arena top fun _ _ =>
      True := by
  by_cases hMemoizing : arena.memoizing = true
  · have hId :=
      hSound.wellFormed.lt_size_steps hSquare.hasLevel
    have hRun :
        storeNext id next arena =
          .ok ((), arena.setNext id next) := by
      simp only [storeNext, if_pos hMemoizing, if_pos hId]
    exact Barring.of_eq_ok hRun
      ⟨sound_setNext hSound hSquare hNext,
        ⟨extends_setNext arena id next,
          fun _ _ hEntry => Or.inl hEntry⟩, trivial⟩
  · have hRun : storeNext id next arena = .ok ((), arena) := by
      simp only [storeNext, if_neg hMemoizing]
    exact Barring.of_eq_ok hRun
      ⟨hSound, Grows.refl top arena, trivial⟩

end Building

end LatticeGas

------------------------------------------------------------
-- The Macro Step
------------------------------------------------------------

namespace LatticeGas

namespace Building

open Arena

variable {arena : Arena}
variable {id : NodeId}
variable {level : Nat}
variable {advance : NodeId → Building NodeId}

/- The step of a node is computed and then used. -/
theorem ensures_compute
    {A : Type}
    {next : NodeId → Building A}
    {goal : A → Arena → Prop}
    (hAdvance :
      ∀ below, level = below + 1 →
        Advances below advance)
    (hSound : arena.Sound)
    {square : Square (level + 2)}
    (hSquare : arena.Denotes id square)
    (hNext :
      ∀ step after,
        after.Sound → Extends arena after →
          after.Denotes step square.advance →
            Ensures (next step) after (level + 1) goal) :
    Ensures
      (if level + 2 = 2 then
        advanceBlock id >>= next
      else
        advanceWindows advance id >>= next)
      arena (level + 1) goal := by
  cases level with
  | zero =>
      exact (ensures_advanceBlock hSound hSquare).bind hNext
  | succ below =>
      rw [if_neg (by omega)]
      exact (ensures_advanceWindows (hAdvance below rfl)
        hSound hSquare).bind hNext

/- A remembered step is as good as one that is computed. -/
theorem advances_advanceStep
    (hAdvance :
      ∀ below, level = below + 1 →
        Advances below advance) :
    Advances level (advanceStep advance) := by
  intro arena id square hSound hSquare
  unfold advanceStep
  refine Ensures.bind_eq
    (ask_eq hSquare.hasLevel.level_eq) ?_
  refine Ensures.bind_lift
    ((require_eq_ok_iff _ _).mpr (by omega)) ?_
  rcases hSound.cachedNext_cases hSquare with
    hNone | ⟨next, hFound, hNext⟩
  · apply Ensures.bind_eq (ask_eq hNone)
    apply ensures_compute hAdvance hSound hSquare
    intro next after hAfter hKeeps hNext
    refine (ensures_storeNext hAfter
      (hSquare.of_extends hKeeps) hNext).bind ?_
    intro _ last hLast hKeepsLast _
    exact Ensures.pure hLast (hNext.of_extends hKeepsLast)
  · apply Ensures.bind_eq (ask_eq hFound)
    exact Ensures.pure hSound hNext

/-
  What the step of a node does if the steps of its windows
  do, each step does that is nested as deep as levels are
  left.
-/
theorem advanceWithin_induction
    {motive : Nat → (NodeId → Building NodeId) → Prop}
    (hStep :
      ∀ (level : Nat) (advance : NodeId → Building NodeId),
        (∀ below, level = below + 1 →
          motive below advance) →
            motive level (advanceStep advance))
    {depth : Nat}
    (hDepth : level ≤ depth) :
    motive level (advanceWithin depth) := by
  induction depth generalizing level with
  | zero =>
      apply hStep
      intro below hLevel
      omega
  | succ depth ih =>
      apply hStep
      intro below hLevel
      exact ih (by omega)

/- No node has more levels than steps can be nested. -/
theorem advanceCenter_induction
    (hArena : arena.WellFormed)
    (hLevel : arena.HasLevel (level + 2) id)
    {motive : Nat → (NodeId → Building NodeId) → Prop}
    (hStep :
      ∀ (level : Nat) (advance : NodeId → Building NodeId),
        (∀ below, level = below + 1 →
          motive below advance) →
            motive level (advanceStep advance)) :
    motive level advanceCenter := by
  have hMax := hArena.level_le_max hLevel
  have hDepth : level ≤ nestingBound :=
    Nat.le_trans (by omega : level ≤ maxLevel) (by decide)
  exact advanceWithin_induction hStep hDepth

theorem ensures_advanceCenter
    (hSound : arena.Sound)
    {square : Square (level + 2)}
    (hSquare : arena.Denotes id square) :
    Ensures (advanceCenter id) arena (level + 1)
      fun next after =>
        after.Denotes next square.advance :=
  advanceCenter_induction (motive := Advances)
    hSound.wellFormed hSquare.hasLevel
    (fun _ _ => advances_advanceStep)
    arena id square hSound hSquare

end Building

end LatticeGas

------------------------------------------------------------
-- Arenas That Remember Their Own Steps
------------------------------------------------------------

namespace LatticeGas

namespace Arena

/-
  A well-formed arena whose steps were all remembered by the
  macro step itself. It remembers no step, or it has grown
  from such an arena without remembering one, or it is what
  the macro step of a node has left.
-/
inductive OwnSteps : Arena → Prop where
  | blank
      {arena : Arena}
      (hArena : arena.WellFormed)
      (hBlank :
        ∀ id next : NodeId,
          arena.steps[id]? ≠ some (some next)) :
      OwnSteps arena
  | grown
      {before after : Arena}
      (hBefore : OwnSteps before)
      (hAfter : after.WellFormed)
      (hExtends : Extends before after)
      (hSteps : StepsFrom before after) :
      OwnSteps after
  | advanced
      {before after : Arena}
      {id next : NodeId}
      (hBefore : OwnSteps before)
      (hAdvance :
        Building.advanceCenter id before =
          .ok (next, after)) :
      OwnSteps after

variable {arena after : Arena}
variable {id next : NodeId}

/- Only nodes of level two and above have a macro step. -/
theorem exists_hasLevel_of_advanceStep
    {advance : NodeId → Building NodeId}
    (hStep :
      Building.advanceStep advance id arena =
        .ok (next, after)) :
    ∃ level, arena.HasLevel (level + 2) id := by
  unfold Building.advanceStep at hStep
  rcases Building.bind_eq_ok hStep with
    ⟨level, middle, hAsk, hRest⟩
  rcases Building.ask_eq_ok hAsk with ⟨hLevel, rfl⟩
  rcases Building.bind_eq_ok hRest with
    ⟨_, last, hRequire, -⟩
  rcases Building.lift_eq_ok hRequire with ⟨hTwo, -⟩
  rw [require_eq_ok_iff] at hTwo
  refine ⟨level - 2, ?_⟩
  have hSame : level - 2 + 2 = level := by omega
  rw [hSame]
  exact hasLevel_of_level_eq hLevel

theorem exists_hasLevel_of_advanceCenter
    (hAdvance :
      Building.advanceCenter id arena =
        .ok (next, after)) :
    ∃ level, arena.HasLevel (level + 2) id := by
  unfold Building.advanceCenter at hAdvance
  cases hBound : Building.nestingBound with
  | zero =>
      rw [hBound] at hAdvance
      exact exists_hasLevel_of_advanceStep hAdvance
  | succ depth =>
      rw [hBound] at hAdvance
      exact exists_hasLevel_of_advanceStep hAdvance

/- What the macro step remembers by itself is right. -/
theorem OwnSteps.sound
    (hOwn : arena.OwnSteps) :
    arena.Sound := by
  induction hOwn with
  | blank hArena hBlank =>
      exact ⟨hArena, stepsExact_of_forall_ne hBlank⟩
  | grown hBefore hAfter hExtends hSteps ih =>
      exact ⟨hAfter,
        ih.steps_exact.of_stepsFrom hExtends hSteps⟩
  | advanced hBefore hAdvance ih =>
      rcases exists_hasLevel_of_advanceCenter hAdvance with
        ⟨level, hLevel⟩
      rcases ih.wellFormed.exists_denotes hLevel with
        ⟨square, hSquare⟩
      exact ((Building.ensures_advanceCenter ih
        hSquare).of_run hAdvance).1

end Arena

end LatticeGas
