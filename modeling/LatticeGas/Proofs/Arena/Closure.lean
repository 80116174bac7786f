import LatticeGas.Proofs.Arena.Copying
import LatticeGas.Proofs.Arena.MacroStep

/-
  This file shows what is true of all that adds nodes to an
  arena. A property that computations keep when they are put
  together, and that the additions of leaves, nodes, walls and
  remembered steps have, is one of macro steps and of copies.

  Key definitions include:
    * `Building.Closed`
    * `Arena.Stable`
    * `Building.Keeps`

  Key theorems include:
    * `Quad.mapM_closed`
    * `Building.Closed.advanceCenter`
    * `Building.Closed.copyTree`
    * `Arena.Stable.closed_keeps`
-/

------------------------------------------------------------
-- Computations Put Together
------------------------------------------------------------

namespace LatticeGas

/- What holds of each action on a quadrant holds of all. -/
theorem Quad.mapM_closed
    {A B : Type}
    {M : Type → Type}
    [Monad M]
    {Holds : {C : Type} → M C → Prop}
    (hPure : ∀ {C : Type} (value : C), Holds (pure value))
    (hBind :
      ∀ {C D : Type} {first : M C} {next : C → M D},
        Holds first → (∀ value, Holds (next value)) →
          Holds (first >>= next))
    {action : A → M B}
    (hAction : ∀ value, Holds (action value))
    (quad : Quad A) :
    Holds (quad.mapM action) := by
  unfold Quad.mapM
  refine hBind (hAction quad.sw) fun sw => ?_
  refine hBind (hAction quad.se) fun se => ?_
  refine hBind (hAction quad.nw) fun nw => ?_
  refine hBind (hAction quad.ne) fun ne => ?_
  exact hPure _

namespace Building

/-
  The property is one of computations that leave the arena as
  it is and of the single additions, and one computation after
  another has it if both of them have.
-/
structure Closed
    (Holds : {A : Type} → Building A → Prop) : Prop where
  unchanged :
    ∀ {A : Type} {build : Building A},
      (∀ arena value after,
        build arena = .ok (value, after) → after = arena) →
        Holds build
  bind :
    ∀ {A B : Type} {build : Building A}
      {next : A → Building B},
      Holds build → (∀ value, Holds (next value)) →
        Holds (build >>= next)
  leaf : ∀ cell : Cell, Holds (leaf cell)
  node : ∀ ids : Quad NodeId, Holds (node ids)
  wall : ∀ level : Nat, Holds (wall level)
  storeNext :
    ∀ id next : NodeId, Holds (storeNext id next)

namespace Closed

variable {Holds : {A : Type} → Building A → Prop}
variable {A B : Type}

theorem pure
    (hClosed : Closed Holds)
    (value : A) :
    Holds (Pure.pure value) := by
  apply hClosed.unchanged
  intro arena found after hRun
  cases hRun
  rfl

theorem throw
    (hClosed : Closed Holds)
    (fault : Fault) :
    Holds (throw fault : Building A) := by
  apply hClosed.unchanged
  intro arena found after hRun
  cases hRun

theorem ask
    (hClosed : Closed Holds)
    (question : Arena → Except Fault A) :
    Holds (ask question) :=
  hClosed.unchanged fun _ _ _ hRun => (ask_eq_ok hRun).2

theorem lift
    (hClosed : Closed Holds)
    (outcome : Except Fault A) :
    Holds (liftM outcome) :=
  hClosed.unchanged fun _ _ _ hRun => (lift_eq_ok hRun).2

/- Acting on four quadrants in order. -/
theorem mapM
    (hClosed : Closed Holds)
    {action : A → Building B}
    (hAction : ∀ value, Holds (action value))
    (quad : Quad A) :
    Holds (quad.mapM action) :=
  Quad.mapM_closed hClosed.pure hClosed.bind hAction quad

end Closed

end Building

end LatticeGas

------------------------------------------------------------
-- The Macro Step
------------------------------------------------------------

namespace LatticeGas

namespace Building

namespace Closed

variable {Holds : {A : Type} → Building A → Prop}
variable {advance : NodeId → Building NodeId}

theorem advanceBlock
    (hClosed : Closed Holds)
    (id : NodeId) :
    Holds (advanceBlock id) := by
  refine hClosed.bind (hClosed.ask _) fun block => ?_
  refine hClosed.bind (hClosed.mapM hClosed.leaf _)
    fun ids => ?_
  exact hClosed.node ids

theorem advanceWindow
    (hClosed : Closed Holds)
    (hAdvance : ∀ id, Holds (advance id))
    (window : Quad NodeId) :
    Holds (advanceWindow advance window) :=
  hClosed.bind (hClosed.node window) hAdvance

/- Nine windows, and then four windows of their steps. -/
theorem advanceWindows
    (hClosed : Closed Holds)
    (hAdvance : ∀ id, Holds (advance id))
    (id : NodeId) :
    Holds (advanceWindows advance id) := by
  have hWindow := hClosed.advanceWindow hAdvance
  refine hClosed.bind (hClosed.ask _) fun corner => ?_
  refine hClosed.bind (hClosed.ask _) fun inner => ?_
  refine hClosed.bind (hAdvance corner.sw) fun sw => ?_
  refine hClosed.bind (hWindow _) fun s => ?_
  refine hClosed.bind (hAdvance corner.se) fun se => ?_
  refine hClosed.bind (hWindow _) fun w => ?_
  refine hClosed.bind (hWindow _) fun c => ?_
  refine hClosed.bind (hWindow _) fun e => ?_
  refine hClosed.bind (hAdvance corner.nw) fun nw => ?_
  refine hClosed.bind (hWindow _) fun n => ?_
  refine hClosed.bind (hAdvance corner.ne) fun ne => ?_
  refine hClosed.bind (hWindow _) fun southWest => ?_
  refine hClosed.bind (hWindow _) fun southEast => ?_
  refine hClosed.bind (hWindow _) fun northWest => ?_
  refine hClosed.bind (hWindow _) fun northEast => ?_
  exact hClosed.node _

/- A step is taken from memory, or computed and remembered. -/
theorem advanceStep
    (hClosed : Closed Holds)
    (hAdvance : ∀ id, Holds (advance id))
    (id : NodeId) :
    Holds (advanceStep advance id) := by
  have hStore :
      ∀ next : NodeId,
        Holds (do Building.storeNext id next; return next) :=
    fun next =>
      hClosed.bind (hClosed.storeNext id next) fun _ =>
        hClosed.pure next
  refine hClosed.bind (hClosed.ask _) fun level => ?_
  refine hClosed.bind (hClosed.lift _) fun _ => ?_
  refine hClosed.bind (hClosed.ask _) fun found => ?_
  cases found with
  | some next => exact hClosed.pure next
  | none =>
      by_cases hBlock : level = 2
      · simp only [if_pos hBlock]
        exact hClosed.bind (hClosed.advanceBlock id) hStore
      · simp only [if_neg hBlock]
        exact hClosed.bind
          (hClosed.advanceWindows hAdvance id) hStore

/- Where planted steps lead does not matter for this. -/
theorem advanceWithin
    (hClosed : Closed Holds)
    (depth : Nat)
    (id : NodeId) :
    Holds (advanceWithin depth id) := by
  induction depth generalizing id with
  | zero =>
      exact hClosed.advanceStep
        (fun _ => hClosed.throw Fault.endlessStep) id
  | succ depth ih => exact hClosed.advanceStep ih id

theorem advanceCenter
    (hClosed : Closed Holds)
    (id : NodeId) :
    Holds (advanceCenter id) :=
  hClosed.advanceWithin nestingBound id

end Closed

end Building

end LatticeGas

------------------------------------------------------------
-- Copies
------------------------------------------------------------

namespace LatticeGas

namespace Copying

open Building

/- The property holds whichever copies are known. -/
def Always
    (Holds : {A : Type} → Building A → Prop)
    {A : Type}
    (copying : Copying A) : Prop :=
  ∀ copies, Holds (copying copies)

variable {Holds : {A : Type} → Building A → Prop}
variable {A B : Type}
variable {source : Arena}

theorem always_bind
    (hClosed : Closed Holds)
    {copying : Copying A}
    {next : A → Copying B}
    (hCopying : Always Holds copying)
    (hNext : ∀ value, Always Holds (next value)) :
    Always Holds (copying >>= next) :=
  fun copies =>
    hClosed.bind (hCopying copies) fun outcome =>
      hNext outcome.1 outcome.2

theorem always_pure
    (hClosed : Closed Holds)
    (value : A) :
    Always Holds (Pure.pure value : Copying A) :=
  fun copies => hClosed.pure (value, copies)

theorem always_lift
    (hClosed : Closed Holds)
    {build : Building A}
    (hBuild : Holds build) :
    Always Holds (liftM build : Copying A) :=
  fun copies =>
    hClosed.bind hBuild fun value =>
      hClosed.pure (value, copies)

theorem always_copyStep
    (hClosed : Closed Holds)
    {copyQuadrant : NodeId → Copying NodeId}
    (hQuadrant : ∀ id, Always Holds (copyQuadrant id))
    (id : NodeId) :
    Always Holds (copyStep source copyQuadrant id) := by
  have hBind :
      ∀ {A B : Type} {copying : Copying A}
        {next : A → Copying B},
        Always Holds copying →
          (∀ value, Always Holds (next value)) →
            Always Holds (copying >>= next) :=
    always_bind hClosed
  have hKnown : Always Holds (known? id) :=
    fun copies => hClosed.pure (copies[id]?, copies)
  have hLearn :
      ∀ copy : NodeId,
        Always Holds (do learn id copy; return copy) :=
    fun copy =>
      hBind (fun copies => hClosed.pure ((), _)) fun _ =>
        always_pure hClosed copy
  refine hBind hKnown fun known => ?_
  cases known with
  | some copy => exact always_pure hClosed copy
  | none =>
      refine hBind (always_lift hClosed (hClosed.lift _))
        fun entry => ?_
      cases entry with
      | leaf cell =>
          exact hBind
            (always_lift hClosed (hClosed.leaf cell)) hLearn
      | node level children =>
          refine hBind (Quad.mapM_closed
            (always_pure hClosed) hBind hQuadrant children)
            fun ids => ?_
          exact hBind
            (always_lift hClosed (hClosed.node ids)) hLearn

theorem always_copy
    (hClosed : Closed Holds)
    (source : Arena)
    (depth : Nat)
    (id : NodeId) :
    Always Holds (copy source depth id) := by
  induction depth generalizing id with
  | zero =>
      apply always_copyStep hClosed
      intro quadrant copies
      exact hClosed.throw Fault.tooDeep
  | succ depth ih => exact always_copyStep hClosed ih id

end Copying

namespace Building

/- The source of a copy may be any arena at all. -/
theorem Closed.copyTree
    {Holds : {A : Type} → Building A → Prop}
    (hClosed : Closed Holds)
    (source : Arena)
    (root : NodeId) :
    Holds (copyTree source root) := by
  refine hClosed.bind (hClosed.lift _) fun depth => ?_
  refine hClosed.bind
    (Copying.always_copy hClosed source depth root ∅)
    fun outcome => ?_
  exact hClosed.pure outcome.1

end Building

end LatticeGas

------------------------------------------------------------
-- What No Single Change Breaks
------------------------------------------------------------

namespace LatticeGas

/-
  The property is not broken by one more node, one more wall,
  or one more step in an arena that remembers steps. These are
  all changes that are ever made to an arena.
-/
structure Arena.Stable (Holds : Arena → Prop) : Prop where
  extended :
    ∀ (arena : Arena) (entry : Entry),
      Holds arena → Holds (arena.extended entry)
  pushWall :
    ∀ (arena : Arena) (id : NodeId),
      Holds arena → Holds (arena.pushWall id)
  setNext :
    ∀ (arena : Arena) (id next : NodeId),
      arena.memoizing = true → Holds arena →
        Holds (arena.setNext id next)

namespace Building

/- What holds of the arena holds after the computation. -/
def Keeps
    (Holds : Arena → Prop)
    {A : Type}
    (build : Building A) : Prop :=
  ∀ (arena : Arena) (value : A) (after : Arena),
    Holds arena → build arena = .ok (value, after) →
      Holds after

variable {Holds : Arena → Prop}
variable {A B : Type}

theorem Keeps.bind
    {build : Building A}
    {next : A → Building B}
    (hBuild : Keeps Holds build)
    (hNext : ∀ value, Keeps Holds (next value)) :
    Keeps Holds (build >>= next) := by
  intro arena result last hArena hRun
  rcases bind_eq_ok hRun with
    ⟨value, middle, hFirst, hSecond⟩
  exact hNext value middle result last
    (hBuild arena value middle hArena hFirst) hSecond

theorem keeps_of_unchanged
    {build : Building A}
    (hSame :
      ∀ arena value after,
        build arena = .ok (value, after) → after = arena) :
    Keeps Holds build := by
  intro arena value after hArena hRun
  obtain rfl := hSame arena value after hRun
  exact hArena

end Building

namespace Arena

open Building

variable {Holds : Arena → Prop}

theorem Stable.of_push_eq_ok
    (hStable : Stable Holds)
    {arena after : Arena}
    {entry : Entry}
    {id : NodeId}
    (hPush : arena.push entry = .ok (id, after))
    (hArena : Holds arena) :
    Holds after := by
  cases pushed_of_push_eq_ok hPush with
  | found => exact hArena
  | added => exact hStable.extended arena entry hArena

theorem Stable.keeps_leaf
    (hStable : Stable Holds)
    (cell : Cell) :
    Keeps Holds (leaf cell) :=
  fun _ _ _ hArena hRun => hStable.of_push_eq_ok hRun hArena

theorem Stable.keeps_node
    (hStable : Stable Holds)
    (ids : Quad NodeId) :
    Keeps Holds (node ids) := by
  intro arena id after hArena hRun
  rcases answered_of_bind hRun with ⟨level, -, hPush⟩
  exact hStable.of_push_eq_ok hPush hArena

/- A wall that is missing is built, and then remembered. -/
theorem Stable.keeps_wallOr
    (hStable : Stable Holds)
    (level : Nat)
    {build : Building NodeId}
    (hBuild : Keeps Holds build) :
    Keeps Holds (wallOr level build) := by
  intro arena id after hArena hRun
  unfold wallOr at hRun
  split at hRun
  · cases hRun
    exact hArena
  · rcases bind_eq_ok hRun with
      ⟨built, middle, hMade, hKept⟩
    cases hKept
    exact hStable.pushWall middle id
      (hBuild arena id middle hArena hMade)

theorem Stable.keeps_wallUpTo
    (hStable : Stable Holds)
    (level : Nat) :
    Keeps Holds (wallUpTo level) := by
  induction level with
  | zero => exact hStable.keeps_wallOr 0 (hStable.keeps_leaf _)
  | succ level ih =>
      exact hStable.keeps_wallOr (level + 1)
        (ih.bind fun _ => hStable.keeps_node _)

theorem Stable.keeps_storeNext
    (hStable : Stable Holds)
    (id next : NodeId) :
    Keeps Holds (storeNext id next) := by
  intro arena value after hArena hRun
  unfold storeNext at hRun
  split at hRun
  · next hMemoizing =>
      split at hRun
      · cases hRun
        exact hStable.setNext arena id next hMemoizing hArena
      · cases hRun
  · cases hRun
    exact hArena

/- So no computation breaks what no single change does. -/
theorem Stable.closed_keeps
    (hStable : Stable Holds) :
    Closed (Keeps Holds) where
  unchanged := keeps_of_unchanged
  bind := Keeps.bind
  leaf := hStable.keeps_leaf
  node := hStable.keeps_node
  wall _ := hStable.keeps_wallUpTo _
  storeNext := hStable.keeps_storeNext

end Arena

end LatticeGas
