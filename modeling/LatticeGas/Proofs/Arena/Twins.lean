import LatticeGas.Proofs.Arena.Preservation
import LatticeGas.Proofs.Arena.Retracing
import LatticeGas.Proofs.Concurrence

/-
  This file compares two arenas in which the same is done.
  The first of them shares nodes, and the other one need not.
  They may remember steps differently, but they gather the
  same trails, so that the same squares are there in both. If
  both of them share nodes, then their nodes are the same,
  and so are the numbers of the nodes. If the second one does
  not, then it may run out of numbers before the first one.

  Key definitions include:
    * `Arena.Twins`
    * `Arena.Agree`
    * `Arena.Spared`

  Key theorems include:
    * `Arena.Twins.of_gains`
    * `Arena.Twins.entries_eq`
    * `Arena.Overflows.false_of_holds`
    * `Arena.Twins.concur_advanceCenter`
    * `Arena.Twins.concur_copyTree`
-/

------------------------------------------------------------
-- Twins
------------------------------------------------------------

namespace LatticeGas

namespace Arena

/-
  Two traced arenas that hold the same squares. The first one
  shares nodes. If both do, they even have them in the same
  order.
-/
structure Twins (left right : Arena) : Prop where
  traced_left : left.Traced
  traced_right : right.Traced
  shares_left : left.interning = true
  holds_iff :
    ∀ piece : Piece, left.Holds piece ↔ right.Holds piece
  exists_lists :
    right.interning = true →
      ∃ pieces, left.Lists pieces ∧ right.Lists pieces

/-
  Two outcomes are nodes that stand for the same square, each
  in an arena that has grown from a given one.
-/
structure Agree
    (left right : Arena)
    {level : Nat}
    (square : Square level)
    (first second : NodeId × Arena) : Prop where
  twins : Twins first.2 second.2
  gains :
    ∃ trail,
      Gains left first.2 trail ∧ Gains right second.2 trail
  denotes_left : first.2.Denotes first.1 square
  denotes_right : second.2.Denotes second.1 square

/-
  Where nodes are not shared, the numbers for them may be used
  up early.
-/
def Spared (interning : Bool) (fault : Fault) : Prop :=
  interning = false ∧ fault.Exhaustion

variable {arena left right left' right' : Arena}
variable {id id' : NodeId}
variable {level : Nat}
variable {trail : List Piece}

theorem not_spared_true (fault : Fault) :
    ¬ Spared true fault :=
  fun hSpared => Bool.noConfusion hSpared.1

theorem twins_new
    (keepLeft shareRight keepRight : Bool) :
    Twins (new true keepLeft)
      (new shareRight keepRight) := by
  have hNone :
      ∀ (interning memoizing : Bool) (piece : Piece),
        (new interning memoizing).Holds piece ↔
          piece ∈ [] :=
    fun interning memoizing =>
      (lists_new interning memoizing).holds_iff
  refine ⟨traced_new true keepLeft,
    traced_new shareRight keepRight, rfl, ?_, ?_⟩
  · intro piece
    rw [hNone, hNone]
  · intro _
    exact ⟨[], lists_new true keepLeft,
      lists_new shareRight keepRight⟩

/- Whether nodes are shared does not change. -/
theorem Agree.interning_eq
    {square : Square level}
    {first second : NodeId × Arena}
    (hAgree : Agree left right square first second) :
    second.2.interning = right.interning := by
  rcases hAgree.gains with ⟨trail, -, hGains⟩
  exact hGains.interning_eq

/- What comes after an outcome comes after its beginning. -/
theorem Agree.trans
    {square : Square level}
    {first second : NodeId × Arena}
    (hAgree : Agree left right square first second)
    {levelLast : Nat}
    {squareLast : Square levelLast}
    {last last' : NodeId × Arena}
    (hLast :
      Agree first.2 second.2 squareLast last last') :
    Agree left right squareLast last last' := by
  rcases hAgree.gains with ⟨trail, hGains, hGains'⟩
  rcases hLast.gains with ⟨rest, hRest, hRest'⟩
  exact ⟨hLast.twins,
    ⟨_, hGains.trans hRest, hGains'.trans hRest'⟩,
    hLast.denotes_left, hLast.denotes_right⟩

/- Twins stay twins when both gather the same trail. -/
theorem Twins.of_gains
    (hTwins : Twins left right)
    (hLeft : left'.Traced)
    (hRight : right'.Traced)
    (hGainsLeft : Gains left left' trail)
    (hGainsRight : Gains right right' trail) :
    Twins left' right' := by
  have hShareLeft := hTwins.shares_left
  refine ⟨hLeft, hRight,
    hGainsLeft.interning_eq.trans hShareLeft, ?_, ?_⟩
  · intro piece
    rw [hGainsLeft.holds_iff, hGainsRight.holds_iff,
      hTwins.holds_iff]
  · intro hShareRight
    rw [hGainsRight.interning_eq] at hShareRight
    rcases hTwins.exists_lists hShareRight with
      ⟨pieces, hListsLeft, hListsRight⟩
    exact ⟨Piece.noteAll pieces trail,
      hGainsLeft.lists hShareLeft pieces hListsLeft,
      hGainsRight.lists hShareRight pieces hListsRight⟩

/- Twins that share nodes have the same nodes. -/
theorem Twins.entries_eq
    (hTwins : Twins left right)
    (hShareRight : right.interning = true) :
    left.entries = right.entries := by
  rcases hTwins.exists_lists hShareRight with
    ⟨pieces, hLeft, hRight⟩
  exact hLeft.entries_eq hRight
    hTwins.traced_right.sound.wellFormed hShareRight

/- A square has the same number in twins that share nodes. -/
theorem Twins.id_eq
    (hTwins : Twins left right)
    (hShareRight : right.interning = true)
    {square : Square level}
    (hLeft : left.Denotes id square)
    (hRight : right.Denotes id' square) :
    id = id' := by
  rcases hTwins.exists_lists hShareRight with
    ⟨pieces, hListsLeft, hListsRight⟩
  exact hListsLeft.id_eq hListsRight
    hTwins.traced_right.sound.wellFormed hShareRight hLeft
    hRight

/-
  What an arena that shares nodes has no room for has none in
  an arena that holds as much.
-/
theorem Overflows.false_of_holds
    (hOverflows : arena.Overflows trail)
    (hInterning : arena.interning = true)
    (hArena : arena.WellFormed)
    {other : Arena}
    (hOther : other.WellFormed)
    (hOld : ∀ piece, arena.Holds piece → other.Holds piece)
    (hTrail : ∀ piece ∈ trail, other.Holds piece) :
    False := by
  rcases hArena.exists_lists with ⟨pieces, hLists⟩
  have hMore := hOverflows hInterning pieces hLists
  have hNodup := Piece.nodup_noteAll
    (hLists.nodup hArena hInterning) trail
  have hFits := hOther.length_le_size hNodup <| by
    intro piece hMem
    rcases Piece.mem_noteAll hMem with hPiece | hPiece
    · exact hOld piece ((hLists.holds_iff piece).mpr hPiece)
    · exact hTrail piece hPiece
  have hSize := hOther.size_le
  omega

/-
  What both arenas gather, they gather with one outcome. The
  first one has room for the trail if the other one has.
-/
theorem Twins.concur_of_gathers
    (hTwins : Twins left right)
    {build build' : Building NodeId}
    {square : Square level}
    (hLeft :
      Building.Gathers build left trail fun id after =>
        after.Denotes id square)
    (hRight :
      Building.Gathers build' right trail fun id after =>
        after.Denotes id square) :
    Concur (Spared right.interning)
      (Agree left right square) (build left)
      (build' right) := by
  have hArena := hTwins.traced_left.sound.wellFormed
  have hArena' := hTwins.traced_right.sound.wellFormed
  rcases hRight.cases with
    ⟨fault, hRun', rfl, hOverflows'⟩ |
    ⟨second, hRun', hTraced', hGains', hSecond⟩
  · rcases hLeft.cases with
      ⟨fault, hRun, rfl, hOverflows⟩ |
      ⟨first, hRun, hTraced, hGains, hFirst⟩
    · rw [hRun, hRun']
      exact .error Fault.exhausted
    · rw [hRun']
      cases hShares : right.interning with
      | false => exact .spared _ ⟨rfl, rfl⟩
      | true =>
          refine (hOverflows'.false_of_holds hShares hArena'
            hTraced.sound.wellFormed ?_
            hGains.holds_of_mem).elim
          intro piece hPiece
          rw [hGains.holds_iff, hTwins.holds_iff]
          exact Or.inl hPiece
  · rcases hLeft.cases with
      ⟨fault, hRun, rfl, hOverflows⟩ |
      ⟨first, hRun, hTraced, hGains, hFirst⟩
    · refine (hOverflows.false_of_holds hTwins.shares_left
        hArena hTraced'.sound.wellFormed ?_
        hGains'.holds_of_mem).elim
      intro piece hPiece
      rw [hGains'.holds_iff, ← hTwins.holds_iff]
      exact Or.inl hPiece
    · rw [hRun, hRun']
      exact .ok
        ⟨hTwins.of_gains hTraced hTraced' hGains hGains',
          ⟨trail, hGains, hGains'⟩, hFirst, hSecond⟩

end Arena

end LatticeGas

------------------------------------------------------------
-- The Same Done to Twins
------------------------------------------------------------

namespace LatticeGas

namespace Building

variable {arena left right : Arena}
variable {level : Nat}

/- Two computations are put together alike. -/
theorem concur_bind
    {A B C D : Type}
    {build : Building A}
    {build' : Building B}
    {next : A → Building C}
    {next' : B → Building D}
    {spared : Fault → Prop}
    {agree : A × Arena → B × Arena → Prop}
    {agree' : C × Arena → D × Arena → Prop}
    (hConcur :
      Concur spared agree (build left) (build' right))
    (hNext :
      ∀ first second, agree first second →
        Concur spared agree' (next first.1 first.2)
          (next' second.1 second.2)) :
    Concur spared agree' ((build >>= next) left)
      ((build' >>= next') right) :=
  hConcur.bind hNext

/- A fault at the first question is the fault of it all. -/
theorem advanceStep_of_error
    {advance : NodeId → Building NodeId}
    {id : NodeId}
    {fault : Fault}
    (hLevel : arena.level id = .error fault) :
    advanceStep advance id arena = .error fault := by
  unfold advanceStep ask
  simp only [bind, StateT.bind, Except.bind, hLevel]

theorem advanceStep_of_below
    {advance : NodeId → Building NodeId}
    {id : NodeId}
    (hLevel : arena.level id = .ok level)
    (hBelow : ¬ 2 ≤ level) :
    advanceStep advance id arena =
      .error (.belowStep level) := by
  have hRequire :
      require (2 ≤ level) (.belowStep level) =
        .error (.belowStep level) :=
    if_neg hBelow
  unfold advanceStep ask
  simp only [bind, StateT.bind, Except.bind, hLevel, pure,
    Except.pure, hRequire]
  rfl

/- The macro step is that of some nesting of steps. -/
theorem exists_advanceCenter_eq :
    ∃ advance : NodeId → Building NodeId,
      advanceCenter = advanceStep advance := by
  unfold advanceCenter
  cases nestingBound with
  | zero => exact ⟨_, rfl⟩
  | succ depth => exact ⟨_, rfl⟩

end Building

namespace Arena

open Building

variable {left right : Arena}
variable {id id' : NodeId}
variable {level : Nat}

theorem Twins.concur_leaf
    (hTwins : Twins left right)
    (cell : Cell) :
    Concur (Spared right.interning)
      (Agree left right (.leaf cell))
      (leaf cell left) (leaf cell right) :=
  hTwins.concur_of_gathers
    (lays_leaf left cell left hTwins.traced_left
      (Extends.refl left))
    (lays_leaf right cell right hTwins.traced_right
      (Extends.refl right))

theorem Twins.concur_node
    (hTwins : Twins left right)
    {ids ids' : Quad NodeId}
    {squares : Quad (Square level)}
    (hIds : left.DenotesQuad ids squares)
    (hIds' : right.DenotesQuad ids' squares) :
    Concur (Spared right.interning)
      (Agree left right (Square.ofQuad squares))
      (node ids left) (node ids' right) := by
  by_cases hMax : level < maxLevel
  · exact hTwins.concur_of_gathers
      ((gathers_node hTwins.traced_left hIds hMax).mono
        fun _ _ hGoal => hGoal.1)
      ((gathers_node hTwins.traced_right hIds' hMax).mono
        fun _ _ hGoal => hGoal.1)
  · rw [node_of_tooDeep hIds hMax, node_of_tooDeep hIds' hMax]
    exact .error Fault.tooDeep

theorem Twins.concur_wall_of_le
    (hTwins : Twins left right)
    (hMax : level ≤ maxLevel) :
    Concur (Spared right.interning)
      (Agree left right (Square.uniform .wall level))
      (wall level left) (wall level right) :=
  hTwins.concur_of_gathers
    (lays_wall left hMax left hTwins.traced_left
      (Extends.refl left))
    (lays_wall right hMax right hTwins.traced_right
      (Extends.refl right))

theorem Twins.concur_wall
    (hTwins : Twins left right)
    (level : Nat) :
    Concur (Spared right.interning)
      (Agree left right (Square.uniform .wall level))
      (wall level left) (wall level right) := by
  by_cases hMax : level ≤ maxLevel
  · exact hTwins.concur_wall_of_le hMax
  · have hDeep := Nat.lt_of_not_le hMax
    rw [wall_of_deep hTwins.traced_left.sound.wellFormed hDeep,
      wall_of_deep hTwins.traced_right.sound.wellFormed hDeep]
    exact concur_bind
      (hTwins.concur_wall_of_le (Nat.le_refl maxLevel))
      fun _ _ _ => .error Fault.tooDeep

/- Squares that are too small for a step have none. -/
theorem Twins.concur_advanceCenter
    (hTwins : Twins left right)
    {square : Square level}
    (hId : left.Denotes id square)
    (hId' : right.Denotes id' square) :
    Concur (Spared right.interning)
      (fun first second =>
        ∃ (above : Nat) (middle : Square above),
          Agree left right middle first second)
      (advanceCenter id left) (advanceCenter id' right) := by
  by_cases hBelow : 2 ≤ level
  · obtain ⟨below, rfl⟩ : ∃ below, level = below + 2 :=
      ⟨level - 2, by omega⟩
    exact (hTwins.concur_of_gathers
      (gathers_advanceCenter hTwins.traced_left hId)
      (gathers_advanceCenter hTwins.traced_right hId')).mono
        fun _ _ hAgree => ⟨_, square.advance, hAgree⟩
  · rcases exists_advanceCenter_eq with ⟨advance, hAdvance⟩
    rw [hAdvance,
      advanceStep_of_below hId.hasLevel.level_eq hBelow,
      advanceStep_of_below hId'.hasLevel.level_eq hBelow]
    exact .error (Fault.belowStep level)

/- The copies may come from different arenas. -/
theorem Twins.concur_copyTree
    (hTwins : Twins left right)
    {source source' : Arena}
    (hSource : source.WellFormed)
    (hSource' : source'.WellFormed)
    {square : Square level}
    (hId : source.Denotes id square)
    (hId' : source'.Denotes id' square) :
    Concur (Spared right.interning)
      (Agree left right square)
      (copyTree source id left)
      (copyTree source' id' right) :=
  hTwins.concur_of_gathers
    (gathers_copyTree hSource hTwins.traced_left hId)
    (gathers_copyTree hSource' hTwins.traced_right hId')

end Arena

end LatticeGas
