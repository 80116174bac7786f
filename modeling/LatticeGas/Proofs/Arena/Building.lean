import LatticeGas.Arena.Advance
import LatticeGas.Proofs.Arena.Invariant
import LatticeGas.Proofs.Barring

/-
  This file says what a computation on an arena ensures, how
  this is put together from its parts, and what the single
  additions of a leaf, a node and a wall ensure.

  Key definitions include:
    * `Arena.Lacks`
    * `Arena.StepsExact`
    * `Arena.Sound`
    * `Building.Ensures`
    * `Building.Makes`

  Key theorems include:
    * `Building.Ensures.bind`
    * `Building.Ensures.bind_four`
    * `Building.ensures_node`
    * `Building.makes_wall`
-/

------------------------------------------------------------
-- Sound Arenas
------------------------------------------------------------

namespace LatticeGas

namespace Arena

/- Every remembered step is the macro step of its node. -/
def StepsExact (arena : Arena) : Prop :=
  ∀ id next : NodeId,
    arena.steps[id]? = some (some next) →
      ∃ (level : Nat) (square : Square (level + 2)),
        arena.Denotes id square ∧
          arena.Denotes next square.advance

/- A well-formed arena whose remembered steps are right. -/
structure Sound (arena : Arena) : Prop where
  wellFormed : arena.WellFormed
  steps_exact : arena.StepsExact

variable {before after arena : Arena}

/- Steps that were right stay right while nodes are added. -/
theorem StepsExact.of_stepsFrom
    (hSteps : before.StepsExact)
    (hExtends : Extends before after)
    (hFrom : StepsFrom before after) :
    after.StepsExact := by
  intro id next hNext
  rcases hSteps id next (hFrom id next hNext) with
    ⟨level, square, hId, hNextSquare⟩
  exact ⟨level, square, hId.of_extends hExtends,
    hNextSquare.of_extends hExtends⟩

/- An arena that remembers nothing remembers no error. -/
theorem stepsExact_of_forall_ne
    (hNone :
      ∀ id next : NodeId,
        arena.steps[id]? ≠ some (some next)) :
    arena.StepsExact :=
  fun id next hNext => absurd hNext (hNone id next)

theorem sound_new
    (interning memoizing : Bool) :
    (new interning memoizing).Sound := by
  constructor
  · exact wellFormed_new interning memoizing
  · apply stepsExact_of_forall_ne
    simp [new]

theorem sound_push
    {entry : Entry}
    {id : NodeId}
    (hPush : arena.push entry = .ok (id, after))
    (hSound : arena.Sound)
    (hAccepts : arena.Accepts entry) :
    after.Sound :=
  ⟨wellFormed_push hPush hSound.wellFormed hAccepts,
    hSound.steps_exact.of_stepsFrom
      (grows_push hPush).keeps (stepsFrom_push hPush)⟩

end Arena

end LatticeGas

------------------------------------------------------------
-- Missing Numbers
------------------------------------------------------------

namespace LatticeGas

namespace Arena

/-
  The numbers for nodes are used up, and there are fewer of
  them left in the arena than so many nodes need.
-/
def Lacks
    (arena : Arena)
    (amount : Nat)
    (fault : Fault) : Prop :=
  fault = .exhausted ∧ nodeLimit < arena.size + amount

variable {before after arena : Arena}
variable {amount rest : Nat}
variable {fault : Fault}

theorem Lacks.mono
    (hLacks : arena.Lacks amount fault)
    {more : Nat}
    (hMore : amount ≤ more) :
    arena.Lacks more fault := by
  have hSize := hLacks.2
  exact ⟨hLacks.1, by omega⟩

/- What is missing later was missing before. -/
theorem Lacks.behind
    (hLacks : after.Lacks rest fault)
    (hSize : after.size ≤ before.size + amount) :
    before.Lacks (amount + rest) fault := by
  have hLater := hLacks.2
  exact ⟨hLacks.1, by omega⟩

/- With enough numbers left, none is missing. -/
theorem not_lacks
    (hRoom : arena.size + amount ≤ nodeLimit)
    (fault : Fault) :
    ¬ arena.Lacks amount fault :=
  fun hLacks => Nat.not_lt.mpr hRoom hLacks.2

end Arena

end LatticeGas

------------------------------------------------------------
-- What a Computation Ensures
------------------------------------------------------------

namespace LatticeGas

namespace Building

open Arena

/-
  The computation comes to an end without a fault, as long as
  there are numbers for nodes. The arena is sound after it and
  has grown by nodes of at most the given level, and the
  outcome is as wanted.
-/
def Ensures
    {A : Type}
    (build : Building A)
    (arena : Arena)
    (top : Nat)
    (goal : A → Arena → Prop) : Prop :=
  Barring Fault.Exhaustion
    (fun result =>
      result.2.Sound ∧ Grows top arena result.2 ∧
        goal result.1 result.2)
    (build arena)

/-
  From an arena on, however it has grown in the meantime, the
  computation ensures a node that stands for the square.
-/
def Makes
    (build : Building NodeId)
    (arena : Arena)
    (top : Nat)
    {level : Nat}
    (square : Square level) : Prop :=
  ∀ later : Arena,
    later.Sound → Extends arena later →
      Ensures build later top fun id after =>
        after.Denotes id square

variable {A B : Type}
variable {arena later : Arena}
variable {top : Nat}
variable {goal : A → Arena → Prop}
variable {goal' : B → Arena → Prop}

/- What is left behind is where the next part begins. -/
theorem bind_apply
    (build : Building A)
    (next : A → Building B)
    (arena : Arena) :
    (build >>= next) arena =
      (build arena >>= fun pair => next pair.1 pair.2) :=
  rfl

/- A computation goes on from where its first part ended. -/
theorem bind_eq_of_run_eq
    {build : Building A}
    {next : A → Building B}
    {value : A}
    {after : Arena}
    (hRun : build arena = .ok (value, after)) :
    (build >>= next) arena = next value after := by
  rw [bind_apply, hRun]
  rfl

/- A computation that has ended did what it ensures. -/
theorem Ensures.of_run
    {build : Building A}
    {value : A}
    {after : Arena}
    (hBuild : Ensures build arena top goal)
    (hRun : build arena = .ok (value, after)) :
    after.Sound ∧ Grows top arena after ∧
      goal value after := by
  unfold Ensures at hBuild
  exact hBuild.of_ok hRun

theorem Ensures.of_run_eq
    {build other : Building A}
    (hRun : build arena = other arena)
    (hBuild : Ensures other arena top goal) :
    Ensures build arena top goal := by
  unfold Ensures
  rw [hRun]
  exact hBuild

theorem Ensures.pure
    {value : A}
    (hSound : arena.Sound)
    (hGoal : goal value arena) :
    Ensures (Pure.pure value) arena top goal :=
  ⟨hSound, Grows.refl top arena, hGoal⟩

/- What is ensured may be weakened. -/
theorem Ensures.mono
    {build : Building A}
    {weaker : A → Arena → Prop}
    {smaller : Nat}
    (hBuild : Ensures build arena smaller goal)
    (hTop : smaller ≤ top)
    (hGoal :
      ∀ value after,
        Extends arena after → goal value after →
          weaker value after) :
    Ensures build arena top weaker :=
  Barring.mono hBuild fun _ hResult =>
    ⟨hResult.1, hResult.2.1.mono hTop,
      hGoal _ _ hResult.2.1.keeps hResult.2.2⟩

theorem Makes.mono
    {build : Building NodeId}
    {smaller level : Nat}
    {square : Square level}
    (hBuild : Makes build arena smaller square)
    (hTop : smaller ≤ top) :
    Makes build arena top square :=
  fun later hSound hExtends =>
    (hBuild later hSound hExtends).mono hTop
      fun _ _ _ hGoal => hGoal

/- One computation after another. -/
theorem Ensures.bind
    {build : Building A}
    {next : A → Building B}
    (hBuild : Ensures build arena top goal)
    (hNext :
      ∀ value after,
        after.Sound → Extends arena after →
          goal value after →
            Ensures (next value) after top goal') :
    Ensures (build >>= next) arena top goal' := by
  unfold Ensures
  rw [bind_apply]
  refine Barring.bind hBuild ?_
  rintro ⟨value, after⟩ - ⟨hSound, hGrows, hGoal⟩
  refine Barring.mono
    (hNext value after hSound hGrows.keeps hGoal) ?_
  rintro ⟨result, last⟩ ⟨hLast, hMore, hResult⟩
  exact ⟨hLast, hGrows.trans hMore, hResult⟩

/- A computation that leaves the arena as it is. -/
theorem Ensures.bind_eq
    {build : Building A}
    {next : A → Building B}
    {answer : A}
    (hRun : build arena = .ok (answer, arena))
    (hNext : Ensures (next answer) arena top goal') :
    Ensures (build >>= next) arena top goal' := by
  unfold Ensures
  rw [bind_eq_of_run_eq hRun]
  exact hNext

theorem ask_eq
    {question : Arena → Except Fault A}
    {answer : A}
    (hAnswer : question arena = .ok answer) :
    ask question arena = .ok (answer, arena) := by
  unfold ask
  rw [hAnswer]
  rfl

/- A check that does not need the arena. -/
theorem Ensures.bind_lift
    {outcome : Except Fault A}
    {next : A → Building B}
    {answer : A}
    (hAnswer : outcome = .ok answer)
    (hNext : Ensures (next answer) arena top goal') :
    Ensures ((liftM outcome : Building A) >>= next) arena
      top goal' := by
  subst hAnswer
  exact hNext

/- Three nodes that are made one after another. -/
theorem Ensures.bind_three
    {level : Nat}
    {west middle east : Square level}
    {makeWest makeMiddle makeEast : Building NodeId}
    {next : (w m e : NodeId) → Building B}
    (hSound : later.Sound)
    (hLater : Extends arena later)
    (hWest : Makes makeWest arena top west)
    (hMiddle : Makes makeMiddle arena top middle)
    (hEast : Makes makeEast arena top east)
    (hNext :
      ∀ w m e after,
        after.Sound → Extends later after →
          after.Denotes w west →
            after.Denotes m middle →
              after.Denotes e east →
                Ensures (next w m e) after top goal') :
    Ensures
      (do
        let w ← makeWest
        let m ← makeMiddle
        let e ← makeEast
        next w m e)
      later top goal' := by
  apply (hWest later hSound hLater).bind
  intro w afterWest hSoundWest hKeepsWest hW
  have hLaterWest := hLater.trans hKeepsWest
  apply (hMiddle afterWest hSoundWest hLaterWest).bind
  intro m afterMiddle hSoundMiddle hKeepsMiddle hM
  have hLaterMiddle := hLaterWest.trans hKeepsMiddle
  refine (hEast afterMiddle hSoundMiddle hLaterMiddle).bind
    ?_
  intro e after hSoundEast hKeepsEast hE
  have hFromWest := hKeepsMiddle.trans hKeepsEast
  exact hNext w m e after hSoundEast
    (hKeepsWest.trans hFromWest)
    (hW.of_extends hFromWest)
    (hM.of_extends hKeepsEast) hE

/- Four nodes that are made one after another. -/
theorem Ensures.bind_four
    {level : Nat}
    (squares : Quad (Square level))
    {makeSw makeSe makeNw makeNe : Building NodeId}
    {next : (sw se nw ne : NodeId) → Building B}
    (hSound : later.Sound)
    (hLater : Extends arena later)
    (hSw : Makes makeSw arena top squares.sw)
    (hSe : Makes makeSe arena top squares.se)
    (hNw : Makes makeNw arena top squares.nw)
    (hNe : Makes makeNe arena top squares.ne)
    (hNext :
      ∀ (ids : Quad NodeId) (after : Arena),
        after.Sound → Extends later after →
          after.DenotesQuad ids squares →
            Ensures (next ids.sw ids.se ids.nw ids.ne)
              after top goal') :
    Ensures
      (do
        let sw ← makeSw
        let se ← makeSe
        let nw ← makeNw
        let ne ← makeNe
        next sw se nw ne)
      later top goal' := by
  apply Ensures.bind_three hSound hLater hSw hSe hNw
  intro sw se nw afterNw hSoundNw hKeepsNw hSwId hSeId hNwId
  have hLaterNw := hLater.trans hKeepsNw
  apply (hNe afterNw hSoundNw hLaterNw).bind
  intro ne after hSoundNe hKeepsNe hNeId
  exact hNext ⟨sw, se, nw, ne⟩ after hSoundNe
    (hKeepsNw.trans hKeepsNe)
    ⟨hSwId.of_extends hKeepsNe, hSeId.of_extends hKeepsNe,
      hNwId.of_extends hKeepsNe, hNeId⟩

end Building

end LatticeGas

------------------------------------------------------------
-- What a Finished Computation Has Done
------------------------------------------------------------

namespace LatticeGas

namespace Building

variable {A B : Type}
variable {arena after : Arena}

/- Both parts of a computation that ended have ended. -/
theorem bind_eq_ok
    {build : Building A}
    {next : A → Building B}
    {result : B}
    (hRun :
      (build >>= next) arena = .ok (result, after)) :
    ∃ value middle,
      build arena = .ok (value, middle) ∧
        next value middle = .ok (result, after) := by
  rw [bind_apply] at hRun
  cases hBuild : build arena with
  | error fault =>
      rw [hBuild] at hRun
      cases hRun
  | ok pair =>
      rw [hBuild] at hRun
      exact ⟨pair.1, pair.2, rfl, hRun⟩

theorem ask_eq_ok
    {question : Arena → Except Fault A}
    {answer : A}
    (hRun : ask question arena = .ok (answer, after)) :
    question arena = .ok answer ∧ after = arena := by
  unfold ask at hRun
  cases hAnswer : question arena with
  | error fault =>
      rw [hAnswer] at hRun
      cases hRun
  | ok found =>
      rw [hAnswer] at hRun
      cases hRun
      exact ⟨rfl, rfl⟩

theorem lift_eq_ok
    {outcome : Except Fault A}
    {answer : A}
    (hRun :
      (liftM outcome : Building A) arena =
        .ok (answer, after)) :
    outcome = .ok answer ∧ after = arena := by
  cases outcome with
  | error fault => cases hRun
  | ok found =>
      cases hRun
      exact ⟨rfl, rfl⟩

end Building

end LatticeGas

------------------------------------------------------------
-- Reading Nodes
------------------------------------------------------------

namespace LatticeGas

namespace Arena

variable {arena : Arena}
variable {level : Nat}
variable {id : NodeId}

/- What a node is, as the numbers of nodes tell. -/
theorem entry_eq_ok_iff
    {entry : Entry} :
    arena.entry id = .ok entry ↔
      arena.entries[id]? = some entry := by
  unfold Arena.entry
  cases arena.entries[id]? with
  | none => simp
  | some found => simp

theorem HasLevel.level_eq
    (hLevel : arena.HasLevel level id) :
    arena.level id = .ok level := by
  rcases hLevel with ⟨found, hFound, rfl⟩
  simp only [Arena.level, entry, hFound]
  rfl

/- The level of a node that has one is known. -/
theorem hasLevel_of_level_eq
    (hLevel : arena.level id = .ok level) :
    arena.HasLevel level id := by
  unfold Arena.level Arena.entry at hLevel
  cases hEntry : arena.entries[id]? with
  | none =>
      rw [hEntry] at hLevel
      cases hLevel
  | some entry =>
      rw [hEntry] at hLevel
      exact ⟨entry, hEntry, Except.ok.inj hLevel⟩

/- The cells of a square are read from its node. -/
theorem Denotes.cellAt_eq
    {square : Square level}
    (hSquare : arena.Denotes id square)
    (x y : Nat) :
    arena.cellAt id x y = .ok (square.cellAt x y) := by
  simp only [Arena.cellAt, hSquare.hasLevel.level_eq]
  exact lookup_of_square? hSquare x y

/- The quadrants of a node stand for those of its square. -/
theorem Denotes.exists_children
    {square : Square (level + 1)}
    (hSquare : arena.Denotes id square) :
    ∃ children,
      arena.children id = .ok children ∧
        arena.DenotesQuad children square.quadrants := by
  rcases (denotes_succ_iff arena id square).mp hSquare with
    ⟨children, hEntry, hChildren⟩
  refine ⟨children, ?_, hChildren⟩
  simp only [Arena.children, entry, hEntry]
  rfl

theorem Denotes.value_eq
    {square : Square 0}
    (hSquare : arena.Denotes id square) :
    arena.value id = .ok square.value := by
  rcases square with ⟨cell⟩
  rw [denotes_leaf_iff] at hSquare
  simp only [value, entry, hSquare]
  rfl

end Arena

/- Acting on four quadrants succeeds if each of them does. -/
theorem Quad.mapM_eq_ok
    {A B : Type}
    (action : A → Except Fault B)
    {quad : Quad A}
    {results : Quad B}
    (hSw : action quad.sw = .ok results.sw)
    (hSe : action quad.se = .ok results.se)
    (hNw : action quad.nw = .ok results.nw)
    (hNe : action quad.ne = .ok results.ne) :
    quad.mapM action = .ok results := by
  unfold Quad.mapM
  rw [hSw, hSe, hNw, hNe]
  rfl

namespace Arena

variable {arena : Arena}
variable {level : Nat}
variable {id : NodeId}

/- Sixteen nodes stand for the squares of four quadrants. -/
structure DenotesGrid
    (arena : Arena)
    (ids : Quad (Quad NodeId))
    {level : Nat}
    (squares : Quad (Quad (Square level))) : Prop where
  sw : arena.DenotesQuad ids.sw squares.sw
  se : arena.DenotesQuad ids.se squares.se
  nw : arena.DenotesQuad ids.nw squares.nw
  ne : arena.DenotesQuad ids.ne squares.ne

theorem Denotes.exists_grandchildren
    {square : Square (level + 2)}
    (hSquare : arena.Denotes id square) :
    ∃ ids,
      arena.grandchildren id = .ok ids ∧
        arena.DenotesGrid ids
          (square.quadrants.map Square.quadrants) := by
  rcases hSquare.exists_children with
    ⟨children, hChildren, hQuad⟩
  rcases hQuad.sw.exists_children with ⟨sw, hSw, hSwQuad⟩
  rcases hQuad.se.exists_children with ⟨se, hSe, hSeQuad⟩
  rcases hQuad.nw.exists_children with ⟨nw, hNw, hNwQuad⟩
  rcases hQuad.ne.exists_children with ⟨ne, hNe, hNeQuad⟩
  refine ⟨⟨sw, se, nw, ne⟩, ?_,
    hSwQuad, hSeQuad, hNwQuad, hNeQuad⟩
  unfold grandchildren
  rw [hChildren]
  exact Quad.mapM_eq_ok _ hSw hSe hNw hNe

/- The windows between quadrants stand for windows. -/
theorem DenotesQuad.acrossX
    {west east : Quad NodeId}
    {westSquares eastSquares : Quad (Square level)}
    (hWest : arena.DenotesQuad west westSquares)
    (hEast : arena.DenotesQuad east eastSquares) :
    arena.DenotesQuad (Quad.acrossX west east)
      (Quad.acrossX westSquares eastSquares) :=
  ⟨hWest.se, hEast.sw, hWest.ne, hEast.nw⟩

theorem DenotesQuad.acrossY
    {south north : Quad NodeId}
    {southSquares northSquares : Quad (Square level)}
    (hSouth : arena.DenotesQuad south southSquares)
    (hNorth : arena.DenotesQuad north northSquares) :
    arena.DenotesQuad (Quad.acrossY south north)
      (Quad.acrossY southSquares northSquares) :=
  ⟨hSouth.nw, hSouth.ne, hNorth.sw, hNorth.se⟩

theorem DenotesGrid.centre
    {ids : Quad (Quad NodeId)}
    {squares : Quad (Quad (Square level))}
    (hGrid : arena.DenotesGrid ids squares) :
    arena.DenotesQuad (Quad.centre ids)
      (Quad.centre squares) :=
  ⟨hGrid.sw.ne, hGrid.se.nw, hGrid.nw.se, hGrid.ne.sw⟩

/- Four squares of a level may get a node above them. -/
theorem DenotesQuad.accepts_node
    {ids : Quad NodeId}
    {squares : Quad (Square level)}
    (hQuad : arena.DenotesQuad ids squares)
    (hMax : level < maxLevel) :
    arena.Accepts (.node (level + 1) ids) := by
  refine ⟨level, rfl, hMax, Quad.forall_mem_toList.mpr ?_⟩
  exact ⟨hQuad.sw.hasLevel, hQuad.se.hasLevel,
    hQuad.nw.hasLevel, hQuad.ne.hasLevel⟩

/- The level of a node that may be added. -/
theorem Accepts.parentLevel_eq
    {ids : Quad NodeId}
    (hAccepts : arena.Accepts (.node level ids)) :
    arena.parentLevel ids = .ok level := by
  rcases hAccepts with ⟨below, rfl, hMax, hChildren⟩
  rcases Quad.forall_mem_toList.mp hChildren with
    ⟨hSw, hSe, hNw, hNe⟩
  unfold parentLevel
  rw [hSw.level_eq, hSe.level_eq, hNw.level_eq, hNe.level_eq]
  simp only [require, bind, Except.bind, if_true, hMax]
  rfl

/- Both parts of a question that was answered were. -/
theorem answered_of_bind
    {A B : Type}
    {question : Except Fault A}
    {next : A → Except Fault B}
    {answer : B}
    (hAnswer : (question >>= next) = .ok answer) :
    ∃ found,
      question = .ok found ∧ next found = .ok answer := by
  cases question with
  | error fault => cases hAnswer
  | ok found => exact ⟨found, rfl, hAnswer⟩

/- A question whose answer was read has an answer. -/
theorem answered_of_map
    {A B : Type}
    {question : Except Fault A}
    {read : A → B}
    {answer : B}
    (hAnswer : question.map read = .ok answer) :
    ∃ found, question = .ok found ∧ read found = answer := by
  cases question with
  | error fault => cases hAnswer
  | ok found => exact ⟨found, rfl, Except.ok.inj hAnswer⟩

/- Four nodes below a new one stand for squares. -/
theorem WellFormed.exists_denotesQuad
    (hArena : arena.WellFormed)
    {ids : Quad NodeId}
    {above : Nat}
    (hAbove : arena.parentLevel ids = .ok above) :
    ∃ (level : Nat) (squares : Quad (Square level)),
      above = level + 1 ∧ level < maxLevel ∧
        arena.DenotesQuad ids squares := by
  unfold parentLevel at hAbove
  rcases answered_of_bind hAbove with ⟨level, hSw, hRest⟩
  rcases answered_of_bind hRest with ⟨east, hSe, hRest⟩
  rcases answered_of_bind hRest with ⟨_, hEast, hRest⟩
  rcases answered_of_bind hRest with ⟨north, hNw, hRest⟩
  rcases answered_of_bind hRest with ⟨_, hNorth, hRest⟩
  rcases answered_of_bind hRest with ⟨corner, hNe, hRest⟩
  rcases answered_of_bind hRest with ⟨_, hCorner, hRest⟩
  rcases answered_of_bind hRest with ⟨_, hMax, hSucc⟩
  obtain rfl := (require_eq_ok_iff _ _).mp hEast
  obtain rfl := (require_eq_ok_iff _ _).mp hNorth
  obtain rfl := (require_eq_ok_iff _ _).mp hCorner
  have hLevel := (require_eq_ok_iff _ _).mp hMax
  obtain rfl := Except.ok.inj hSucc
  rcases hArena.exists_denotes (hasLevel_of_level_eq hSw)
    with ⟨sw, hSwId⟩
  rcases hArena.exists_denotes (hasLevel_of_level_eq hSe)
    with ⟨se, hSeId⟩
  rcases hArena.exists_denotes (hasLevel_of_level_eq hNw)
    with ⟨nw, hNwId⟩
  rcases hArena.exists_denotes (hasLevel_of_level_eq hNe)
    with ⟨ne, hNeId⟩
  exact ⟨_, ⟨sw, se, nw, ne⟩, rfl, hLevel,
    hSwId, hSeId, hNwId, hNeId⟩


end Arena

end LatticeGas

------------------------------------------------------------
-- Leaves and Nodes
------------------------------------------------------------

namespace LatticeGas

namespace Building

open Arena

variable {arena : Arena}
variable {level top : Nat}

/- An accepted entry is found or added. -/
theorem ensures_push
    {build : Building NodeId}
    {entry : Entry}
    (hRun : build arena = arena.push entry)
    (hSound : arena.Sound)
    (hAccepts : arena.Accepts entry)
    (hTop : entry.level ≤ top) :
    Ensures build arena top fun id after =>
      after.entries[id]? = some entry ∧
        after.walls = arena.walls := by
  unfold Ensures
  rw [hRun]
  cases hPush : arena.push entry with
  | error fault =>
      exact (size_eq_of_push_eq_error hPush).1
  | ok result =>
      exact ⟨sound_push hPush hSound hAccepts,
        (grows_push hPush).mono hTop,
        entries_push hPush hSound.wellFormed,
        walls_push hPush⟩

theorem ensures_leaf
    (hSound : arena.Sound)
    (cell : Cell) :
    Ensures (leaf cell) arena top fun id after =>
      after.Denotes id (.leaf cell) ∧
        after.walls = arena.walls := by
  have hAccepts : arena.Accepts (.leaf cell) := trivial
  refine (ensures_push rfl hSound hAccepts
    (Nat.zero_le top)).mono (Nat.le_refl top) ?_
  rintro id after - ⟨hEntry, hWalls⟩
  exact ⟨(denotes_leaf_iff after id cell).mpr hEntry,
    hWalls⟩

theorem makes_leaf
    (arena : Arena)
    (cell : Cell) :
    Makes (leaf cell) arena top (.leaf cell) :=
  fun _ hSound _ =>
    (ensures_leaf hSound cell).mono (Nat.le_refl top)
      fun _ _ _ hGoal => hGoal.1

/- A node that may be added is found or added. -/
theorem node_eq_push_of_accepts
    {ids : Quad NodeId}
    (hAccepts : arena.Accepts (.node level ids)) :
    node ids arena = arena.push (.node level ids) := by
  unfold node
  rw [hAccepts.parentLevel_eq]
  rfl

/- So is the node above quadrants that share a level. -/
theorem node_eq_push
    {ids : Quad NodeId}
    {squares : Quad (Square level)}
    (hQuad : arena.DenotesQuad ids squares)
    (hMax : level < maxLevel) :
    node ids arena = arena.push (.node (level + 1) ids) :=
  node_eq_push_of_accepts (hQuad.accepts_node hMax)

/- There is no node above squares of the highest level. -/
theorem node_of_tooDeep
    {ids : Quad NodeId}
    {squares : Quad (Square level)}
    (hQuad : arena.DenotesQuad ids squares)
    (hMax : ¬ level < maxLevel) :
    node ids arena = .error .tooDeep := by
  unfold node Arena.parentLevel
  rw [hQuad.sw.hasLevel.level_eq, hQuad.se.hasLevel.level_eq,
    hQuad.nw.hasLevel.level_eq, hQuad.ne.hasLevel.level_eq]
  simp only [require, bind, Except.bind, if_true, hMax,
    if_false]

theorem ensures_node
    (hSound : arena.Sound)
    {ids : Quad NodeId}
    {squares : Quad (Square level)}
    (hQuad : arena.DenotesQuad ids squares)
    (hMax : level < maxLevel)
    (hTop : level + 1 ≤ top) :
    Ensures (node ids) arena top fun id after =>
      after.Denotes id (Square.ofQuad squares) ∧
        after.walls = arena.walls := by
  refine (ensures_push (node_eq_push hQuad hMax) hSound
    (hQuad.accepts_node hMax) hTop).mono
      (Nat.le_refl top) ?_
  rintro id after hKeeps ⟨hEntry, hWalls⟩
  constructor
  · rw [denotes_succ_iff, Square.quadrants_ofQuad]
    exact ⟨ids, hEntry, hQuad.of_extends hKeeps⟩
  · exact hWalls

/- Making four quadrants and the node above them. -/
theorem ensures_mapM
    {A : Type}
    {action : A → Building NodeId}
    {quad : Quad A}
    (squares : Quad (Square level))
    (hSound : arena.Sound)
    (hSw : Makes (action quad.sw) arena top squares.sw)
    (hSe : Makes (action quad.se) arena top squares.se)
    (hNw : Makes (action quad.nw) arena top squares.nw)
    (hNe : Makes (action quad.ne) arena top squares.ne) :
    Ensures (quad.mapM action) arena top fun ids after =>
      after.DenotesQuad ids squares := by
  unfold Quad.mapM
  refine Ensures.bind_four squares hSound
    (Extends.refl arena) hSw hSe hNw hNe ?_
  intro ids after hAfter hKeeps hIds
  exact Ensures.pure hAfter hIds

end Building

end LatticeGas

------------------------------------------------------------
-- Walls
------------------------------------------------------------

namespace LatticeGas

namespace Arena

variable {arena : Arena}

theorem extends_pushWall
    (arena : Arena)
    (id : NodeId) :
    Extends arena (arena.pushWall id) :=
  fun _ _ hEntry => hEntry

/- The next remembered wall must be a wall of its level. -/
theorem wellFormed_pushWall
    (hArena : arena.WellFormed)
    {id : NodeId}
    (hWall :
      arena.Denotes id
        (Square.uniform .wall arena.walls.size)) :
    (arena.pushWall id).WellFormed := by
  have hExtends := extends_pushWall arena id
  refine ⟨hArena.size_le, hArena.size_steps, ?_,
    hArena.child_lt, hArena.index_iff, ?_⟩
  · intro other entry hEntry
    exact (hArena.accepts_entry other entry
      hEntry).of_extends hExtends
  · intro level other hOther
    change (arena.walls.push id)[level]? = some other
      at hOther
    rw [Array.getElem?_push] at hOther
    split at hOther
    · next hLevel =>
        cases hOther
        subst hLevel
        exact hWall.of_extends hExtends
    · exact (hArena.denotes_wall level other
        hOther).of_extends hExtends

theorem sound_pushWall
    (hSound : arena.Sound)
    {id : NodeId}
    (hWall :
      arena.Denotes id
        (Square.uniform .wall arena.walls.size)) :
    (arena.pushWall id).Sound :=
  ⟨wellFormed_pushWall hSound.wellFormed hWall,
    hSound.steps_exact.of_stepsFrom
      (extends_pushWall arena id) fun _ _ hNext => hNext⟩

end Arena

namespace Building

open Arena

variable {arena : Arena}
variable {level top : Nat}

/- A wall of the next level is remembered. -/
theorem ensures_keepWall
    (hSound : arena.Sound)
    {id : NodeId}
    (hSize : arena.walls.size = level)
    (hWall :
      arena.Denotes id (Square.uniform .wall level)) :
    Ensures (keepWall id) arena top fun found after =>
      after.Denotes found (Square.uniform .wall level) ∧
        after.walls.size = level + 1 := by
  subst hSize
  refine ⟨sound_pushWall hSound hWall,
    ⟨extends_pushWall arena id, fun _ _ h => Or.inl h⟩,
    hWall.of_extends (extends_pushWall arena id), ?_⟩
  exact Array.size_push id

/-
  A remembered wall is found. Otherwise all walls below its
  level are remembered by the time when it is built.
-/
theorem ensures_wallOr
    (hSound : arena.Sound)
    {build : Building NodeId}
    (hBuild :
      arena.walls.size ≤ level →
        Ensures build arena top fun id after =>
          after.Denotes id (Square.uniform .wall level) ∧
            after.walls.size = level) :
    Ensures (wallOr level build) arena top fun id after =>
      after.Denotes id (Square.uniform .wall level) ∧
        after.walls.size =
          max arena.walls.size (level + 1) := by
  cases hFound : arena.walls[level]? with
  | some id =>
      have hLevel : level < arena.walls.size :=
        (Array.getElem?_eq_some_iff.mp hFound).choose
      have hRun :
          wallOr level build arena = .ok (id, arena) := by
        simp only [wallOr, hFound]
      have hWalls :
          arena.walls.size =
            max arena.walls.size (level + 1) := by
        omega
      exact Barring.of_eq_ok hRun ⟨hSound,
        Grows.refl top arena,
        hSound.wellFormed.denotes_wall level id hFound,
        hWalls⟩
  | none =>
      have hSize : arena.walls.size ≤ level :=
        Array.getElem?_eq_none_iff.mp hFound
      have hRun :
          wallOr level build arena =
            (build >>= keepWall) arena := by
        simp only [wallOr, hFound]
      have hMake :
          Ensures (build >>= keepWall) arena top
            fun id after =>
              after.Denotes id
                  (Square.uniform .wall level) ∧
                after.walls.size = level + 1 := by
        apply (hBuild hSize).bind
        rintro id after hAfter - ⟨hWall, hWalls⟩
        exact ensures_keepWall hAfter hWalls hWall
      have hMax :
          max arena.walls.size (level + 1) = level + 1 := by
        omega
      rw [hMax]
      exact hMake.of_run_eq hRun

/- The walls of all levels up to the wanted one are kept. -/
theorem ensures_wallUpTo
    (hSound : arena.Sound)
    (hMax : level ≤ maxLevel) :
    Ensures (wallUpTo level) arena level fun id after =>
      after.Denotes id (Square.uniform .wall level) ∧
        after.walls.size =
          max arena.walls.size (level + 1) := by
  induction level with
  | zero =>
      apply ensures_wallOr hSound
      intro hSize
      refine (ensures_leaf hSound .wall).mono
        (Nat.le_refl 0) ?_
      rintro id after - ⟨hWall, hWalls⟩
      exact ⟨hWall, by rw [hWalls]; omega⟩
  | succ level ih =>
      apply ensures_wallOr hSound
      intro hSize
      refine ((ih (by omega)).mono (Nat.le_succ level)
        fun _ _ _ hGoal => hGoal).bind ?_
      rintro quadrant after hAfter - ⟨hWall, hWalls⟩
      refine (ensures_node hAfter
        (⟨hWall, hWall, hWall, hWall⟩ :
          after.DenotesQuad (Quad.all quadrant)
            (Quad.all (Square.uniform .wall level)))
        (by omega) (Nat.le_refl _)).mono
          (Nat.le_refl _) ?_
      rintro id last - ⟨hId, hLast⟩
      exact ⟨hId, by rw [hLast, hWalls]; omega⟩

theorem makes_wall
    (arena : Arena)
    (hMax : level ≤ maxLevel) :
    Makes (wall level) arena level
      (Square.uniform .wall level) := by
  intro later hSound hLater
  rw [wall_of_le hMax]
  exact (ensures_wallUpTo hSound hMax).mono
    (Nat.le_refl level) fun _ _ _ hGoal => hGoal.1

end Building

end LatticeGas
