import LatticeGas.Proofs.Arena.Accounts
import LatticeGas.Proofs.Arena.Preservation
import Mathlib.Algebra.Ring.Nat

/-
  This file counts the nodes that are added to an arena. The
  macro step of a node appends squares of the trail of its
  square, in order. It appends all of them in an arena that
  neither shares nodes nor remembers steps, so that the
  length of the trail is the cost of the macro step. If there
  are fewer numbers left for nodes, it may not come to its
  end.

  Key definitions include:
    * `Arena.Appends`
    * `Arena.AppendsSome`
    * `Arena.appending`
    * `Square.stepCost`

  Key theorems include:
    * `Arena.Appends.size_eq`
    * `Arena.appendsSome_push`
    * `Square.length_trail`
    * `Building.advanceCenter_appends`
    * `Building.exists_exhausted`
-/

------------------------------------------------------------
-- Nodes behind All Others
------------------------------------------------------------

namespace LatticeGas

namespace Arena

/-
  Behind the nodes of the first arena, the second one has a
  node for each of the pieces, in order, and no others.
-/
def Appends
    (before after : Arena)
    (pieces : List Piece) : Prop :=
  ∀ listed : List Piece,
    before.Lists listed → after.Lists (listed ++ pieces)

variable {before after : Arena}
variable {pieces : List Piece}

theorem appends_of_entries_eq
    (hEntries : after.entries = before.entries) :
    Appends before after [] := by
  intro listed hLists
  rw [List.append_nil]
  exact hLists.of_entries_eq hEntries

theorem Appends.trans
    {first second third : Arena}
    {rest : List Piece}
    (hFirst : Appends first second pieces)
    (hRest : Appends second third rest) :
    Appends first third (pieces ++ rest) := by
  intro listed hLists
  rw [← List.append_assoc]
  exact hRest _ (hFirst listed hLists)

theorem Appends.size_eq
    (hAppends : Appends before after pieces)
    (hBefore : before.WellFormed) :
    after.size = before.size + pieces.length := by
  rcases hBefore.exists_lists with ⟨listed, hLists⟩
  rw [← (hAppends listed hLists).length_eq,
    ← hLists.length_eq, List.length_append]

/- The place of a piece tells the number of its node. -/
theorem Appends.denotes
    (hAppends : Appends before after pieces)
    (hBefore : before.WellFormed)
    {place : Nat}
    {piece : Piece}
    (hPiece : pieces[place]? = some piece) :
    after.Denotes (before.size + place) piece.square := by
  rcases hBefore.exists_lists with ⟨listed, hLists⟩
  apply (hAppends listed hLists).denotes
  rw [← hLists.length_eq,
    List.getElem?_append_right (Nat.le_add_right _ _),
    Nat.add_sub_cancel_left, hPiece]

end Arena

end LatticeGas

------------------------------------------------------------
-- Nodes That Are Left Out
------------------------------------------------------------

namespace LatticeGas

namespace Arena

/-
  Some of the pieces of a trail have been appended, in order.
  Where nodes are shared, they are pieces that were not there
  before. If all are to be appended, none has been left out.
-/
structure AppendsSome
    (all : Prop)
    (before after : Arena)
    (trail : List Piece) : Prop where
  keeps : Extends before after
  interning_eq : after.interning = before.interning
  size_le : after.size ≤ before.size + trail.length
  exists_part :
    ∃ part : List Piece,
      part.Sublist trail ∧ Appends before after part ∧
        (all → part = trail) ∧
        (before.interning = true →
          ∀ piece ∈ part, ¬ before.Holds piece)

variable {all : Prop}
variable {arena before after : Arena}

theorem appendsSome_of_entries_eq
    (hEntries : after.entries = before.entries)
    (hInterning : after.interning = before.interning) :
    AppendsSome all before after [] :=
  ⟨extends_of_entries_eq hEntries, hInterning,
    Nat.le_of_eq (congrArg Array.size hEntries),
    [], List.Sublist.refl [], appends_of_entries_eq hEntries,
    fun _ => rfl, fun _ _ hMem => nomatch hMem⟩

/- None of the pieces has to be appended. -/
theorem appendsSome_nothing
    (arena : Arena)
    (hSome : ¬ all)
    (trail : List Piece) :
    AppendsSome all arena arena trail :=
  ⟨Extends.refl arena, rfl, Nat.le_add_right _ _,
    [], List.nil_sublist trail, appends_of_entries_eq rfl,
    fun hFull => absurd hFull hSome,
    fun _ _ hMem => nomatch hMem⟩

theorem AppendsSome.trans
    {first second third : Arena}
    {trail rest : List Piece}
    (hFirst : AppendsSome all first second trail)
    (hRest : AppendsSome all second third rest) :
    AppendsSome all first third (trail ++ rest) := by
  have hLength :
      third.size ≤ first.size + (trail ++ rest).length := by
    have hSize := hFirst.size_le
    have hSizeRest := hRest.size_le
    rw [List.length_append]
    omega
  rcases hFirst.exists_part with
    ⟨part, hPart, hAppends, hAll, hNew⟩
  rcases hRest.exists_part with
    ⟨more, hMore, hAppendsMore, hAllMore, hNewMore⟩
  refine ⟨hFirst.keeps.trans hRest.keeps,
    hRest.interning_eq.trans hFirst.interning_eq,
    hLength, part ++ more, hPart.append hMore,
    hAppends.trans hAppendsMore, ?_, ?_⟩
  · intro hFull
    rw [hAll hFull, hAllMore hFull]
  · intro hInterning piece hPiece
    rcases List.mem_append.mp hPiece with hEarly | hLate
    · exact hNew hInterning piece hEarly
    · have hSecond := hFirst.interning_eq.trans hInterning
      intro hHolds
      exact hNewMore hSecond piece hLate
        (hHolds.of_extends hFirst.keeps)

/- A node that is asked for is appended, or it is found. -/
theorem appendsSome_push
    (hArena : arena.WellFormed)
    {entry : Entry}
    {piece : Piece}
    (hNames : arena.Names entry piece)
    {id : NodeId}
    (hPush : arena.push entry = .ok (id, after))
    (hPlain : all → arena.interning = false) :
    AppendsSome all arena after [piece] := by
  have hSquare :=
    hNames.denotes (grows_push hPush).keeps
      (entries_push hPush hArena)
  cases pushed_of_push_eq_ok hPush with
  | found _ hShares =>
      apply appendsSome_nothing
      intro hFull
      rw [hPlain hFull] at hShares
      cases hShares
  | added hNew =>
      refine ⟨extends_extended arena entry, rfl,
        Nat.le_of_eq (size_extended arena entry), [piece],
        List.Sublist.refl _,
        fun listed hLists => hLists.extended hSquare,
        fun _ => rfl, ?_⟩
      intro hInterning other hOther
      obtain rfl := List.mem_singleton.mp hOther
      exact hArena.not_holds_of_new hInterning hNames hNew

end Arena

end LatticeGas

------------------------------------------------------------
-- The Macro Step
------------------------------------------------------------

namespace LatticeGas

namespace Arena

open Building

/-
  A sound arena. If all nodes are to be appended, it neither
  shares nodes nor remembers steps.
-/
structure SoundFor
    (all : Prop)
    (arena : Arena) : Prop where
  sound : arena.Sound
  plain : all → arena.interning = false
  forgetful : all → arena.memoizing = false

theorem SoundFor.push
    {all : Prop}
    {arena after : Arena}
    (hArena : arena.SoundFor all)
    {entry : Entry}
    (hAccepts : arena.Accepts entry)
    {id : NodeId}
    (hPush : arena.push entry = .ok (id, after)) :
    after.SoundFor all := by
  have hSound := sound_push hPush hArena.sound hAccepts
  cases pushed_of_push_eq_ok hPush with
  | found => exact hArena
  | added => exact ⟨hSound, hArena.plain, hArena.forgetful⟩

/-
  Account is kept of the squares of a trail that are appended.
  A step is taken from memory only if not all nodes are to be
  appended. Room is lacking if there are fewer numbers left
  than the trail has squares.
-/
def appending (all : Prop) : Account where
  Valid := SoundFor all
  Records := AppendsSome all
  Lacks arena trail := nodeLimit < arena.size + trail.length
  sound hArena := hArena.sound
  keeps hAppends := hAppends.keeps
  refl _ := appendsSome_of_entries_eq rfl rfl
  trans := AppendsSome.trans
  lacks_append := by
    intro arena trail hLacks rest
    rw [List.length_append]
    omega
  lacks_behind := by
    intro before after trail rest hAppends hLacks
    have hSize := hAppends.size_le
    rw [List.length_append]
    omega
  push hArena hNames hPush :=
    ⟨hArena.push hNames.accepts hPush,
      appendsSome_push hArena.sound.wellFormed hNames hPush
        hArena.plain⟩
  full _ _ hPush :=
    Nat.lt_succ_of_le (size_eq_of_push_eq_error hPush).2
  reuse := by
    intro arena id next level square hArena _ hFound
    apply appendsSome_nothing
    intro hFull
    unfold cachedNext at hFound
    rw [hArena.forgetful hFull] at hFound
    cases hFound
  remember hArena _ hSquare hNext :=
    ⟨⟨sound_setNext hArena.sound hSquare hNext,
        hArena.plain, hArena.forgetful⟩,
      appendsSome_of_entries_eq rfl rfl⟩

end Arena

namespace Square

/-
  The number of squares that are built for the macro step of a
  square, by its levels above the second: four cells and their
  square, or those of thirteen windows, nine of which have to
  be composed, and their square.
-/
def stepCost : Nat → Nat
| 0 => 5
| level + 1 => 13 * stepCost level + 10

theorem length_trail
    {level : Nat}
    (square : Square (level + 2)) :
    square.trail.length = stepCost level := by
  induction level with
  | zero => rfl
  | succ level ih =>
      simp only [trail, List.length_append,
        List.length_cons, List.length_nil, ih, stepCost]
      omega

theorem stepCost_eq
    (level : Nat) :
    stepCost level = (35 * 13 ^ level - 5) / 6 := by
  have hSum : 6 * stepCost level + 5 = 35 * 13 ^ level := by
    induction level with
    | zero => rfl
    | succ level ih =>
        rw [stepCost, pow_succ]
        omega
  omega

end Square

namespace Building

open Arena

/-
  The macro step of a node appends at most as many nodes as
  its trail is long, all of them below the level of the node,
  and no node is changed. It ends without a fault if there
  are numbers for so many nodes. If nodes are not shared and
  steps are not remembered, it appends exactly so many,
  whatever the cells are.
-/
theorem advanceCenter_appends
    {arena : Arena}
    (hOwn : arena.OwnSteps)
    {id : NodeId}
    {level : Nat}
    (hLevel : arena.level id = .ok (level + 2)) :
    Barring (arena.Lacks (Square.stepCost level))
      (fun (_, after) =>
        Extends arena after ∧
        after.size ≤ arena.size + Square.stepCost level ∧
        (∀ new : NodeId,
          arena.size ≤ new → new < after.size →
            ∃ below,
              after.level new = .ok below ∧
                below ≤ level + 1) ∧
        (arena.interning = false →
          arena.memoizing = false →
            after.size =
              arena.size + Square.stepCost level))
      (advanceCenter id arena) ∧
    Square.stepCost level = (35 * 13 ^ level - 5) / 6 := by
  have hArena := hOwn.sound.wellFormed
  rcases hArena.exists_denotes (hasLevel_of_level_eq hLevel)
    with ⟨square, hSquare⟩
  have hEnsures := ensures_advanceCenter hOwn.sound hSquare
  have hAppending :=
    (appending (arena.interning = false ∧
      arena.memoizing = false)).advanceCenter
        ⟨hOwn.sound, And.left, And.right⟩ hSquare
  refine ⟨Barring.imp hAppending ?_ ?_,
    Square.stepCost_eq level⟩
  · rintro fault ⟨hFault, hLacks⟩
    rw [← square.length_trail]
    exact ⟨hFault, hLacks⟩
  · rintro ⟨next, after⟩ hRun ⟨-, hSome, -⟩
    have hGrows := (hEnsures.of_ok hRun).2.1
    have hSize := hSome.size_le
    rw [square.length_trail] at hSize
    refine ⟨hGrows.keeps, hSize, ?_, ?_⟩
    · intro new hOld hNew
      have hEntry := Array.getElem?_eq_getElem hNew
      refine ⟨_, HasLevel.level_eq ⟨_, hEntry, rfl⟩, ?_⟩
      rcases hGrows.level_le new _ hEntry with hKept | hTop
      · rw [Array.getElem?_eq_none hOld] at hKept
        cases hKept
      · exact hTop
    · intro hPlain hForgetful
      rcases hSome.exists_part with
        ⟨part, -, hAppends, hAll, -⟩
      rw [hAppends.size_eq hArena, hAll ⟨hPlain, hForgetful⟩,
        square.length_trail]

/- No node has a step in an arena that is filled so. -/
theorem ne_next_of_steps_eq
    {arena : Arena}
    {count : Nat}
    (hSteps : arena.steps = Array.replicate count none)
    (id next : NodeId) :
    arena.steps[id]? ≠ some (some next) := by
  intro hNext
  rw [hSteps, Array.getElem?_replicate] at hNext
  split at hNext
  · cases hNext
  · cases hNext

/-
  From a square of walls of level three, 75 nodes are made in
  an arena that neither shares nodes nor remembers steps.
-/
theorem advanceCenter_appends_walls :
    ∃ arena next after,
      wall 3 (new false false) = .ok (3, arena) ∧
        advanceCenter 3 arena = .ok (next, after) ∧
        arena.size = 4 ∧ after.size = 79 ∧
        (∀ new : NodeId, 4 ≤ new → new < 79 →
          ∃ below,
            after.level new = .ok below ∧ below ≤ 2) := by
  have hBuilt :
      ∃ arena,
        wall 3 (new false false) = .ok (3, arena) ∧
          arena.steps = Array.replicate 4 none ∧
          arena.size = 4 ∧ arena.level 3 = .ok 3 ∧
          arena.interning = false ∧
          arena.memoizing = false :=
    ⟨_, rfl, rfl, rfl, rfl, rfl, rfl⟩
  rcases hBuilt with
    ⟨arena, hWall, hSteps, hSize, hLevel, hPlain,
      hForgetful⟩
  have hArena : arena.WellFormed :=
    (preserves_wall 3 _ (wellFormed_new _ _) _ _
      hWall).1.wellFormed
  have hOwn : arena.OwnSteps :=
    .blank hArena (ne_next_of_steps_eq hSteps)
  have hRoom :
      arena.size + Square.stepCost 1 ≤ nodeLimit := by
    rw [hSize]
    decide
  rcases (advanceCenter_appends hOwn hLevel).1.exists_ok
      (not_lacks hRoom) with
    ⟨⟨next, after⟩, hRun, -, -, hBelow, hExact⟩
  have hAfter : after.size = 79 := by
    rw [hExact hPlain hForgetful, hSize]
    rfl
  rw [hSize, hAfter] at hBelow
  exact ⟨arena, next, after, hWall, hRun, hSize, hAfter,
    hBelow⟩

/-
  Where nodes are not shared and steps are not remembered, a
  macro step that takes more nodes than there are numbers
  uses them all up.
-/
theorem advanceCenter_eq_exhausted
    {arena : Arena}
    (hSound : arena.Sound)
    (hPlain : arena.interning = false)
    (hForgetful : arena.memoizing = false)
    {id : NodeId}
    {level : Nat}
    {square : Square (level + 2)}
    (hSquare : arena.Denotes id square)
    (hCost : nodeLimit < Square.stepCost level) :
    advanceCenter id arena = .error .exhausted := by
  have hAppending :=
    (appending True).advanceCenter
      ⟨hSound, fun _ => hPlain, fun _ => hForgetful⟩
      hSquare
  rcases hAppending.cases with
    ⟨fault, hRun, rfl, -⟩ |
    ⟨⟨next, after⟩, -, hAfter, hSome, -⟩
  · exact hRun
  · rcases hSome.exists_part with
      ⟨part, -, hAppends, hAll, -⟩
    have hSize := hAppends.size_eq hSound.wellFormed
    rw [hAll trivial, Square.length_trail] at hSize
    have hFits := hAfter.sound.wellFormed.size_le
    omega

/-
  There are not as many numbers as the macro step of a square
  of level ten takes in such an arena.
-/
theorem exists_exhausted :
    ∃ arena : Arena,
      arena.OwnSteps ∧ arena.interning = false ∧
        arena.memoizing = false ∧
        arena.Denotes 10 (Square.uniform .wall 10) ∧
        advanceCenter 10 arena = .error .exhausted := by
  have hBuilt :
      ∃ arena,
        wall 10 (new false false) = .ok (10, arena) ∧
          arena.steps = Array.replicate 11 none ∧
          arena.walls[10]? = some 10 ∧
          arena.interning = false ∧
          arena.memoizing = false :=
    ⟨_, rfl, rfl, rfl, rfl, rfl⟩
  rcases hBuilt with
    ⟨arena, hWall, hSteps, hFound, hPlain, hForgetful⟩
  have hArena : arena.WellFormed :=
    (preserves_wall 10 _ (wellFormed_new _ _) _ _
      hWall).1.wellFormed
  have hOwn : arena.OwnSteps :=
    .blank hArena (ne_next_of_steps_eq hSteps)
  have hSquare := hArena.denotes_wall 10 10 hFound
  exact ⟨arena, hOwn, hPlain, hForgetful, hSquare,
    advanceCenter_eq_exhausted hOwn.sound hPlain hForgetful
      hSquare (by decide)⟩

/- So it is not always that many nodes that are added. -/
theorem not_forall_advanceCenter_appends :
    ¬ ∀ (arena : Arena) (id : NodeId) (level : Nat),
      arena.OwnSteps → arena.level id = .ok (level + 2) →
        arena.interning = false → arena.memoizing = false →
          ∃ next after,
            advanceCenter id arena = .ok (next, after) ∧
              after.size =
                arena.size + Square.stepCost level := by
  intro hAll
  rcases exists_exhausted with
    ⟨arena, hOwn, hPlain, hForgetful, hSquare, hRun⟩
  rcases hAll arena 10 8 hOwn hSquare.hasLevel.level_eq hPlain
    hForgetful with ⟨next, after, hDone, -⟩
  rw [hRun] at hDone
  cases hDone

end Building

end LatticeGas
