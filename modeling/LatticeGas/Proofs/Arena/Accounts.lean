import LatticeGas.Proofs.Arena.Trails

/-
  This file follows the macro step while account is kept of
  what it adds. An account says of an earlier arena and of a
  later one whether a trail leads from the one to the other.
  Whatever is kept account of, the macro step of a node leads
  along the trail of its square.

  Key definitions include:
    * `Building.Account`
    * `Building.Account.Yields`
    * `Building.Account.AdvancesBy`
    * `Building.Account.Places`
    * `Arena.gaining`

  Key theorems include:
    * `Building.Account.bind`
    * `Building.Account.bind_four`
    * `Building.Account.advanceWindows`
    * `Building.Account.advanceCenter`
-/

------------------------------------------------------------
-- Accounts
------------------------------------------------------------

namespace LatticeGas

namespace Building

open Arena

/-
  An account is kept of valid arenas. Its records are put
  together like trails, and there is one for each node that is
  asked for. If there is no number left for a node, then the
  arena lacks room for the trail, and so it does for longer
  trails. A step that is taken from memory is recorded as if
  it had been computed, and remembering a step that was
  computed is recorded as nothing.
-/
structure Account where
  Valid : Arena → Prop
  Records : Arena → Arena → List Piece → Prop
  Lacks : Arena → List Piece → Prop
  sound : ∀ {arena : Arena}, Valid arena → arena.Sound
  keeps :
    ∀ {before after : Arena} {trail : List Piece},
      Records before after trail → Extends before after
  refl : ∀ arena : Arena, Records arena arena []
  trans :
    ∀ {first second third : Arena} {trail rest : List Piece},
      Records first second trail →
        Records second third rest →
          Records first third (trail ++ rest)
  lacks_append :
    ∀ {arena : Arena} {trail : List Piece},
      Lacks arena trail →
        ∀ rest : List Piece, Lacks arena (trail ++ rest)
  lacks_behind :
    ∀ {before after : Arena} {trail rest : List Piece},
      Records before after trail → Lacks after rest →
        Lacks before (trail ++ rest)
  push :
    ∀ {arena after : Arena} {entry : Entry} {piece : Piece}
      {id : NodeId},
      Valid arena → arena.Names entry piece →
        arena.push entry = .ok (id, after) →
          Valid after ∧ Records arena after [piece]
  full :
    ∀ {arena : Arena} {entry : Entry} {piece : Piece}
      {fault : Fault},
      Valid arena → arena.Names entry piece →
        arena.push entry = .error fault →
          Lacks arena [piece]
  reuse :
    ∀ {arena : Arena} {id next : NodeId} {level : Nat}
      {square : Square (level + 2)},
      Valid arena → arena.Denotes id square →
        arena.cachedNext id = .ok (some next) →
          Records arena arena square.trail
  remember :
    ∀ {before after : Arena} {id next : NodeId}
      {level : Nat} {square : Square (level + 2)},
      Valid after → Records before after square.trail →
        after.Denotes id square →
          after.Denotes next square.advance →
            Valid (after.setNext id next) ∧
              Records after (after.setNext id next) []

namespace Account

/-
  The computation comes to an end without a fault, unless the
  arena lacks room for the trail. The arena is valid after it,
  the trail is recorded, and the outcome is as wanted.
-/
def Yields
    (account : Account)
    {A : Type}
    (build : Building A)
    (arena : Arena)
    (trail : List Piece)
    (goal : A → Arena → Prop) : Prop :=
  Barring
    (fun fault =>
      fault.Exhaustion ∧ account.Lacks arena trail)
    (fun result =>
      account.Valid result.2 ∧
        account.Records arena result.2 trail ∧
          goal result.1 result.2)
    (build arena)

/-
  The computation takes the macro step of any node that
  stands for a square of level `level + 2`, and has its trail
  recorded.
-/
def AdvancesBy
    (account : Account)
    (level : Nat)
    (advance : NodeId → Building NodeId) : Prop :=
  ∀ (arena : Arena) (id : NodeId)
    (square : Square (level + 2)),
    account.Valid arena → arena.Denotes id square →
      account.Yields (advance id) arena square.trail
        fun next after => after.Denotes next square.advance

/-
  From an arena on, however it has grown in the meantime, the
  computation has the trail recorded and ends with a node that
  stands for the square.
-/
def Places
    (account : Account)
    (build : Building NodeId)
    (arena : Arena)
    (trail : List Piece)
    {level : Nat}
    (square : Square level) : Prop :=
  ∀ later : Arena,
    account.Valid later → Extends arena later →
      account.Yields build later trail
        fun id after => after.Denotes id square

end Account

end Building

end LatticeGas

------------------------------------------------------------
-- Computations Put Together
------------------------------------------------------------

namespace LatticeGas

namespace Building

namespace Account

open Arena

variable (account : Account)
variable {A B : Type}
variable {arena later : Arena}
variable {trail rest : List Piece}
variable {goal : A → Arena → Prop}
variable {goal' : B → Arena → Prop}

theorem pure
    {value : A}
    (hValid : account.Valid arena)
    (hGoal : goal value arena) :
    account.Yields (Pure.pure value) arena [] goal :=
  ⟨hValid, account.refl arena, hGoal⟩

/- One computation after another, and so are their trails. -/
theorem bind
    {build : Building A}
    {next : A → Building B}
    (hBuild : account.Yields build arena trail goal)
    (hNext :
      ∀ value after,
        account.Valid after →
          account.Records arena after trail →
            goal value after →
            account.Yields (next value) after rest
              goal') :
    account.Yields (build >>= next) arena
      (trail ++ rest) goal' := by
  unfold Yields
  rw [bind_apply]
  refine Barring.bind (Barring.imp hBuild
    (fun _ hFault =>
      ⟨hFault.1, account.lacks_append hFault.2 rest⟩)
    fun _ _ hResult => hResult) ?_
  rintro ⟨value, after⟩ - ⟨hValid, hRecords, hGoal⟩
  refine Barring.imp (hNext value after hValid hRecords hGoal)
    (fun _ hFault =>
      ⟨hFault.1, account.lacks_behind hRecords hFault.2⟩) ?_
  rintro ⟨result, last⟩ - ⟨hLast, hMore, hResult⟩
  exact ⟨hLast, account.trans hRecords hMore, hResult⟩

/- A computation that leaves the arena as it is. -/
theorem bind_eq
    {build : Building A}
    {next : A → Building B}
    {answer : A}
    (hRun : build arena = .ok (answer, arena))
    (hNext :
      account.Yields (next answer) arena rest goal') :
    account.Yields (build >>= next) arena rest
      goal' := by
  unfold Yields
  rw [bind_eq_of_run_eq hRun]
  exact hNext

theorem Yields.of_run_eq
    {account : Account}
    {build other : Building A}
    (hRun : build arena = other arena)
    (hOther : account.Yields other arena trail goal) :
    account.Yields build arena trail goal := by
  unfold Yields
  rw [hRun]
  exact hOther

/- A check that does not need the arena. -/
theorem bind_lift
    {outcome : Except Fault A}
    {next : A → Building B}
    {answer : A}
    (hAnswer : outcome = .ok answer)
    (hNext :
      account.Yields (next answer) arena rest goal') :
    account.Yields
      ((liftM outcome : Building A) >>= next) arena rest
      goal' := by
  subst hAnswer
  exact hNext

/- Three nodes that are made one after another. -/
theorem bind_three
    {level : Nat}
    {west middle east : Square level}
    {trailWest trailMiddle trailEast : List Piece}
    {makeWest makeMiddle makeEast : Building NodeId}
    {next : (w m e : NodeId) → Building B}
    (hValid : account.Valid later)
    (hLater : Extends arena later)
    (hWest :
      account.Places makeWest arena trailWest west)
    (hMiddle :
      account.Places makeMiddle arena trailMiddle
        middle)
    (hEast :
      account.Places makeEast arena trailEast east)
    (hNext :
      ∀ w m e after,
        account.Valid after → Extends later after →
          after.Denotes w west →
            after.Denotes m middle →
              after.Denotes e east →
                account.Yields (next w m e) after rest
                  goal') :
    account.Yields
      (do
        let w ← makeWest
        let m ← makeMiddle
        let e ← makeEast
        next w m e)
      later
      (trailWest ++ (trailMiddle ++ (trailEast ++ rest)))
      goal' := by
  apply account.bind (hWest later hValid hLater)
  intro w afterWest hValidWest hRecordsWest hW
  have hKeepsWest := account.keeps hRecordsWest
  have hLaterWest := hLater.trans hKeepsWest
  apply account.bind
    (hMiddle afterWest hValidWest hLaterWest)
  intro m afterMiddle hValidMiddle hRecordsMiddle hM
  have hKeepsMiddle := account.keeps hRecordsMiddle
  have hLaterMiddle := hLaterWest.trans hKeepsMiddle
  apply account.bind
    (hEast afterMiddle hValidMiddle hLaterMiddle)
  intro e after hValidEast hRecordsEast hE
  have hKeepsEast := account.keeps hRecordsEast
  have hFromWest := hKeepsMiddle.trans hKeepsEast
  exact hNext w m e after hValidEast
    (hKeepsWest.trans hFromWest)
    (hW.of_extends hFromWest)
    (hM.of_extends hKeepsEast) hE

/- Four nodes that are made one after another. -/
theorem bind_four
    {level : Nat}
    (squares : Quad (Square level))
    (trails : Quad (List Piece))
    {makeSw makeSe makeNw makeNe : Building NodeId}
    {next : (sw se nw ne : NodeId) → Building B}
    (hValid : account.Valid later)
    (hLater : Extends arena later)
    (hSw :
      account.Places makeSw arena trails.sw squares.sw)
    (hSe :
      account.Places makeSe arena trails.se squares.se)
    (hNw :
      account.Places makeNw arena trails.nw squares.nw)
    (hNe :
      account.Places makeNe arena trails.ne squares.ne)
    (hNext :
      ∀ (ids : Quad NodeId) (after : Arena),
        account.Valid after → after.DenotesQuad ids squares →
          account.Yields
            (next ids.sw ids.se ids.nw ids.ne) after rest
            goal') :
    account.Yields
      (do
        let sw ← makeSw
        let se ← makeSe
        let nw ← makeNw
        let ne ← makeNe
        next sw se nw ne)
      later
      (trails.sw ++ (trails.se ++ (trails.nw ++
        (trails.ne ++ rest))))
      goal' := by
  apply account.bind_three hValid hLater hSw hSe hNw
  intro sw se nw afterNw hValidNw hKeepsNw hSwId hSeId hNwId
  have hLaterNw := hLater.trans hKeepsNw
  apply account.bind (hNe afterNw hValidNw hLaterNw)
  intro ne after hValidNe hRecordsNe hNeId
  have hKeepsNe := account.keeps hRecordsNe
  exact hNext ⟨sw, se, nw, ne⟩ after hValidNe
    ⟨hSwId.of_extends hKeepsNe, hSeId.of_extends hKeepsNe,
      hNwId.of_extends hKeepsNe, hNeId⟩

end Account

end Building

end LatticeGas

------------------------------------------------------------
-- Leaves and Nodes
------------------------------------------------------------

namespace LatticeGas

namespace Building

namespace Account

open Arena

variable (account : Account)
variable {arena : Arena}
variable {level : Nat}

/- An addition has the piece that it names as its trail. -/
theorem yields_push
    {build : Building NodeId}
    {entry : Entry}
    {piece : Piece}
    (hRun : build arena = arena.push entry)
    (hValid : account.Valid arena)
    (hNames : arena.Names entry piece) :
    account.Yields build arena [piece] fun id after =>
      after.Denotes id piece.square := by
  have hArena := (account.sound hValid).wellFormed
  unfold Yields
  rw [hRun]
  cases hPush : arena.push entry with
  | error fault =>
      exact ⟨(size_eq_of_push_eq_error hPush).1,
        account.full hValid hNames hPush⟩
  | ok result =>
      rcases account.push hValid hNames hPush with
        ⟨hAfter, hRecords⟩
      exact ⟨hAfter, hRecords,
        hNames.denotes (grows_push hPush).keeps
          (entries_push hPush hArena)⟩

theorem places_leaf
    (arena : Arena)
    (cell : Cell) :
    account.Places (leaf cell) arena [⟨0, .leaf cell⟩]
      (.leaf cell) :=
  fun later hValid _ =>
    account.yields_push rfl hValid (names_leaf later cell)

theorem yields_node
    (hValid : account.Valid arena)
    {ids : Quad NodeId}
    {squares : Quad (Square level)}
    (hQuad : arena.DenotesQuad ids squares)
    (hMax : level < maxLevel) :
    account.Yields (node ids) arena
      [⟨level + 1, Square.ofQuad squares⟩] fun id after =>
        after.Denotes id (Square.ofQuad squares) :=
  account.yields_push (node_eq_push hQuad hMax) hValid
    (hQuad.names hMax)

end Account

end Building

end LatticeGas

------------------------------------------------------------
-- Windows
------------------------------------------------------------

namespace LatticeGas

namespace Building

namespace Account

open Arena

variable (account : Account)
variable {arena : Arena}
variable {id : NodeId}
variable {level : Nat}
variable {advance : NodeId → Building NodeId}

theorem advanceBlock
    (hValid : account.Valid arena)
    {square : Square 2}
    (hSquare : arena.Denotes id square) :
    account.Yields (advanceBlock id) arena square.trail
      fun next after =>
        after.Denotes next square.advance := by
  let ticked := square.block.tickCentre
  have hLeaf := account.places_leaf arena
  unfold Building.advanceBlock
  apply account.bind_eq (blockCells_eq hSquare)
  unfold Quad.mapM
  simp only [bind_assoc, pure_bind]
  refine account.bind_four (ticked.map Square.leaf)
    (ticked.map fun cell => [⟨0, .leaf cell⟩]) hValid
    (Extends.refl arena) (hLeaf _) (hLeaf _) (hLeaf _)
    (hLeaf _) ?_
  intro leaves after hAfter hLeaves
  exact account.yields_node hAfter hLeaves (by decide)

/- A window that is there already is advanced as it is. -/
theorem places_advance
    (hAdvance : account.AdvancesBy level advance)
    {square : Square (level + 2)}
    (hSquare : arena.Denotes id square) :
    account.Places (advance id) arena
      (Square.ofQuad square.quadrants).trail
      (Square.ofQuad square.quadrants).advance := by
  intro later hValid hExtends
  rw [Square.ofQuad_quadrants]
  exact hAdvance later id square hValid
    (hSquare.of_extends hExtends)

/- Other windows are composed first. -/
theorem places_advanceWindow
    (hAdvance : account.AdvancesBy level advance)
    (hMax : level + 1 < maxLevel)
    {ids : Quad NodeId}
    {squares : Quad (Square (level + 1))}
    (hQuad : arena.DenotesQuad ids squares) :
    account.Places (advanceWindow advance ids) arena
      (⟨level + 2, Square.ofQuad squares⟩ ::
        (Square.ofQuad squares).trail)
      (Square.ofQuad squares).advance := by
  intro later hValid hExtends
  refine account.bind (account.yields_node hValid
    (hQuad.of_extends hExtends) hMax) ?_
  intro window after hAfter _ hWindow
  exact hAdvance after window _ hAfter hWindow

/- Windows are composed and advanced in order. -/
theorem advanceWindows
    (hAdvance : account.AdvancesBy level advance)
    (hValid : account.Valid arena)
    {square : Square (level + 3)}
    (hSquare : arena.Denotes id square) :
    account.Yields (advanceWindows advance id) arena
      square.trail fun next after =>
        after.Denotes next square.advance := by
  have hMaxWindow : level + 1 < maxLevel := by
    have hArena := (account.sound hValid).wellFormed
    have hMax := hArena.level_le_max hSquare.hasLevel
    omega
  rcases hSquare.exists_children with
    ⟨corner, hCorner, hCornerQuad⟩
  rcases hSquare.exists_grandchildren with
    ⟨inner, hInner, hGrid⟩
  unfold Building.advanceWindows
  rw [Square.trail]
  apply account.bind_eq (ask_eq hCorner)
  apply account.bind_eq (ask_eq hInner)
  dsimp only
  refine account.bind_three hValid (Extends.refl arena)
    (account.places_advance hAdvance hCornerQuad.sw)
    (account.places_advanceWindow hAdvance hMaxWindow
      (hGrid.sw.acrossX hGrid.se))
    (account.places_advance hAdvance hCornerQuad.se) ?_
  intro sw s se south hSouth hToSouth hSw hS hSe
  refine account.bind_three hSouth hToSouth
    (account.places_advanceWindow hAdvance hMaxWindow
      (hGrid.sw.acrossY hGrid.nw))
    (account.places_advanceWindow hAdvance hMaxWindow
      hGrid.centre)
    (account.places_advanceWindow hAdvance hMaxWindow
      (hGrid.se.acrossY hGrid.ne))
    ?_
  intro w c e middle hMiddle hFromSouth hW hC hE
  refine account.bind_three hMiddle
    (hToSouth.trans hFromSouth)
    (account.places_advance hAdvance hCornerQuad.nw)
    (account.places_advanceWindow hAdvance hMaxWindow
      (hGrid.nw.acrossX hGrid.ne))
    (account.places_advance hAdvance hCornerQuad.ne) ?_
  intro nw n ne north hNorth hFromMiddle hNw hN hNe
  -- All nine outcomes are known from here on.
  have hToNorth := hFromSouth.trans hFromMiddle
  replace hSw := hSw.of_extends hToNorth
  replace hS := hS.of_extends hToNorth
  replace hSe := hSe.of_extends hToNorth
  replace hW := hW.of_extends hFromMiddle
  replace hC := hC.of_extends hFromMiddle
  replace hE := hE.of_extends hFromMiddle
  refine account.bind_four square.advance.quadrants
    ⟨_, _, _, _⟩ hNorth (Extends.refl north)
    (account.places_advanceWindow hAdvance hMaxWindow
      ⟨hSw, hS, hW, hC⟩)
    (account.places_advanceWindow hAdvance hMaxWindow
      ⟨hS, hSe, hC, hE⟩)
    (account.places_advanceWindow hAdvance hMaxWindow
      ⟨hW, hC, hNw, hN⟩)
    (account.places_advanceWindow hAdvance hMaxWindow
      ⟨hC, hE, hN, hNe⟩) ?_
  intro ids after hAfter hIds
  have hNode := account.yields_node hAfter hIds hMaxWindow
  rw [Square.ofQuad_quadrants] at hNode
  exact hNode

end Account

end Building

end LatticeGas

------------------------------------------------------------
-- The Macro Step
------------------------------------------------------------

namespace LatticeGas

namespace Building

namespace Account

open Arena

variable (account : Account)
variable {before arena : Arena}
variable {id next : NodeId}
variable {level : Nat}
variable {advance : NodeId → Building NodeId}

/- Remembering a step that was computed adds nothing. -/
theorem storeNext
    (hValid : account.Valid arena)
    {square : Square (level + 2)}
    (hRecords : account.Records before arena square.trail)
    (hSquare : arena.Denotes id square)
    (hNext : arena.Denotes next square.advance) :
    account.Yields (storeNext id next) arena []
      fun _ after => after.Denotes next square.advance := by
  by_cases hMemoizing : arena.memoizing = true
  · have hArena := (account.sound hValid).wellFormed
    have hId := hArena.lt_size_steps hSquare.hasLevel
    rcases account.remember hValid hRecords hSquare hNext
      with ⟨hAfter, hNothing⟩
    have hRun :
        Building.storeNext id next arena =
          .ok ((), arena.setNext id next) := by
      simp only [Building.storeNext, if_pos hMemoizing,
        if_pos hId]
    exact Barring.of_eq_ok hRun ⟨hAfter, hNothing,
      hNext.of_extends (extends_setNext arena id next)⟩
  · have hRun :
        Building.storeNext id next arena = .ok ((), arena) := by
      simp only [Building.storeNext, if_neg hMemoizing]
    exact Barring.of_eq_ok hRun
      ⟨hValid, account.refl arena, hNext⟩

/- The step of a node is computed and then used. -/
theorem compute
    {A : Type}
    {use : NodeId → Building A}
    {rest : List Piece}
    {goal : A → Arena → Prop}
    (hAdvance :
      ∀ below, level = below + 1 →
        account.AdvancesBy below advance)
    (hValid : account.Valid arena)
    {square : Square (level + 2)}
    (hSquare : arena.Denotes id square)
    (hUse :
      ∀ step after,
        account.Valid after →
          account.Records arena after square.trail →
            after.Denotes step square.advance →
              account.Yields (use step) after rest
                goal) :
    account.Yields
      (if level + 2 = 2 then
        Building.advanceBlock id >>= use
      else
        Building.advanceWindows advance id >>= use)
      arena (square.trail ++ rest) goal := by
  cases level with
  | zero =>
      exact account.bind
        (account.advanceBlock hValid hSquare) hUse
  | succ below =>
      rw [if_neg (by omega)]
      exact account.bind (account.advanceWindows
        (hAdvance below rfl) hValid hSquare) hUse

/-
  A remembered step is recorded without being built again.
  One that is computed is remembered last of all.
-/
theorem advanceStep
    (hAdvance :
      ∀ below, level = below + 1 →
        account.AdvancesBy below advance) :
    account.AdvancesBy level (advanceStep advance) := by
  intro arena id square hValid hSquare
  unfold Building.advanceStep
  refine account.bind_eq (ask_eq hSquare.hasLevel.level_eq) ?_
  refine account.bind_lift
    ((require_eq_ok_iff _ _).mpr (by omega)) ?_
  rcases (account.sound hValid).cachedNext_cases hSquare
    with hNone | ⟨next, hFound, hNext⟩
  · apply account.bind_eq (ask_eq hNone)
    rw [← List.append_nil square.trail]
    apply account.compute hAdvance hValid hSquare
    intro next after hAfter hRecords hNext
    have hKept :=
      hSquare.of_extends (account.keeps hRecords)
    rw [← List.append_nil []]
    apply account.bind
      (account.storeNext hAfter hRecords hKept hNext)
    intro _ last hLast _ hLastNext
    exact account.pure hLast hLastNext
  · apply account.bind_eq (ask_eq hFound)
    exact ⟨hValid, account.reuse hValid hSquare hFound,
      hNext⟩

theorem advanceCenter
    (hValid : account.Valid arena)
    {square : Square (level + 2)}
    (hSquare : arena.Denotes id square) :
    account.Yields (advanceCenter id) arena square.trail
      fun next after =>
        after.Denotes next square.advance :=
  advanceCenter_induction (motive := account.AdvancesBy)
    (account.sound hValid).wellFormed hSquare.hasLevel
    (fun _ _ => account.advanceStep)
    arena id square hValid hSquare

end Account

end Building

end LatticeGas

------------------------------------------------------------
-- What Traced Arenas Gain
------------------------------------------------------------

namespace LatticeGas

namespace Arena

open Building

/-
  The trail of a remembered step is there, so that it counts
  as gained without being built again.
-/
def gaining : Account where
  Valid := Traced
  Records := Gains
  Lacks := Overflows
  sound hTraced := hTraced.sound
  keeps hGains := hGains.keeps
  refl _ := gains_of_entries_eq rfl rfl
  trans := Gains.trans
  lacks_append hOverflows := hOverflows.append
  lacks_behind := Gains.overflows
  push hTraced hNames hPush :=
    ⟨hTraced.push hNames.accepts hPush,
      gains_push hTraced.sound.wellFormed hNames hPush⟩
  full hTraced hNames hPush :=
    (overflows_of_push_eq_error hTraced.sound.wellFormed
      hNames hPush).2
  reuse hTraced hSquare hFound :=
    gains_of_holds (hTraced.holds_trail _ _
      (steps_eq_of_cachedNext_eq hFound) _ hSquare)
  remember hTraced hGains hSquare hNext :=
    ⟨hTraced.setNext hSquare hNext hGains.holds_of_mem,
      gains_of_entries_eq rfl rfl⟩

end Arena

end LatticeGas
