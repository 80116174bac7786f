import LatticeGas.Arena.Denote

/-
  This file defines what is true of an arena at all times,
  and shows that adding a node keeps it true.

  Key definitions include:
    * `Arena.HasLevel`
    * `Arena.Denotes`
    * `Arena.Accepts`
    * `Arena.WellFormed`
    * `Arena.Grows`
    * `Arena.Pushed`

  Key theorems include:
    * `Arena.WellFormed.exists_denotes`
    * `Arena.wellFormed_new`
    * `Arena.pushed_push`
    * `Arena.wellFormed_push`
    * `Arena.grows_push`
-/

------------------------------------------------------------
-- Levels and Squares of Nodes
------------------------------------------------------------

namespace LatticeGas

namespace Arena

/- The arena has the node, and it has the level. -/
def HasLevel
    (arena : Arena)
    (level : Nat)
    (id : NodeId) : Prop :=
  ∃ entry,
    arena.entries[id]? = some entry ∧ entry.level = level

/- The node stands for the square. -/
def Denotes
    (arena : Arena)
    (id : NodeId)
    {level : Nat}
    (square : Square level) : Prop :=
  arena.square? level id = some square

/- Four nodes stand for four squares. -/
structure DenotesQuad
    (arena : Arena)
    (ids : Quad NodeId)
    {level : Nat}
    (squares : Quad (Square level)) : Prop where
  sw : arena.Denotes ids.sw squares.sw
  se : arena.Denotes ids.se squares.se
  nw : arena.Denotes ids.nw squares.nw
  ne : arena.Denotes ids.ne squares.ne

variable {before after arena : Arena}
variable {level : Nat}
variable {id : NodeId}

/- A node is there as soon as its level is known. -/
theorem HasLevel.lt_size
    (hLevel : arena.HasLevel level id) :
    id < arena.size := by
  rcases hLevel with ⟨entry, hEntry, -⟩
  exact (Array.getElem?_eq_some_iff.mp hEntry).choose

theorem HasLevel.of_extends
    (hLevel : before.HasLevel level id)
    (hExtends : Extends before after) :
    after.HasLevel level id := by
  rcases hLevel with ⟨entry, hEntry, hSame⟩
  exact ⟨entry, hExtends id entry hEntry, hSame⟩

theorem Denotes.of_extends
    {square : Square level}
    (hSquare : before.Denotes id square)
    (hExtends : Extends before after) :
    after.Denotes id square :=
  square?_of_extends hExtends hSquare

theorem DenotesQuad.of_extends
    {ids : Quad NodeId}
    {squares : Quad (Square level)}
    (hSquares : before.DenotesQuad ids squares)
    (hExtends : Extends before after) :
    after.DenotesQuad ids squares :=
  ⟨hSquares.sw.of_extends hExtends,
    hSquares.se.of_extends hExtends,
    hSquares.nw.of_extends hExtends,
    hSquares.ne.of_extends hExtends⟩

/- A leaf stands for the square of its cell. -/
theorem denotes_leaf_iff
    (arena : Arena)
    (id : NodeId)
    (cell : Cell) :
    arena.Denotes id (.leaf cell) ↔
      arena.entries[id]? = some (.leaf cell) :=
  square?_zero_eq_some_iff arena id (.leaf cell)

/- A node stands for the square of its quadrants. -/
theorem denotes_succ_iff
    (arena : Arena)
    (id : NodeId)
    (square : Square (level + 1)) :
    arena.Denotes id square ↔
      ∃ children,
        arena.entries[id]? =
            some (.node (level + 1) children) ∧
          arena.DenotesQuad children square.quadrants := by
  unfold Denotes
  rw [square?_succ_eq_some_iff]
  constructor
  · rintro ⟨children, hEntry, hSw, hSe, hNw, hNe⟩
    exact ⟨children, hEntry, hSw, hSe, hNw, hNe⟩
  · rintro ⟨children, hEntry, hSw, hSe, hNw, hNe⟩
    exact ⟨children, hEntry, hSw, hSe, hNw, hNe⟩

/- A node that stands for a square has its level. -/
theorem Denotes.hasLevel
    {square : Square level}
    (hSquare : arena.Denotes id square) :
    arena.HasLevel level id := by
  cases level with
  | zero =>
      rcases square with ⟨cell⟩
      exact ⟨_, (denotes_leaf_iff arena id cell).mp hSquare,
        rfl⟩
  | succ level =>
      rcases (denotes_succ_iff arena id square).mp hSquare
        with ⟨children, hEntry, -⟩
      exact ⟨_, hEntry, rfl⟩

/- A node has one level only. -/
theorem HasLevel.unique
    {other : Nat}
    (hLevel : arena.HasLevel level id)
    (hOther : arena.HasLevel other id) :
    level = other := by
  rcases hLevel with ⟨entry, hEntry, rfl⟩
  rcases hOther with ⟨entry', hEntry', rfl⟩
  rw [hEntry] at hEntry'
  rw [Option.some.inj hEntry']

/- A node stands for one square of a level only. -/
theorem Denotes.unique
    {left right : Square level}
    (hLeft : arena.Denotes id left)
    (hRight : arena.Denotes id right) :
    left = right :=
  Option.some.inj (hLeft.symm.trans hRight)

end Arena

end LatticeGas

------------------------------------------------------------
-- Well-Formed Arenas
------------------------------------------------------------

namespace LatticeGas

namespace Arena

/-
  An entry that may be added: a leaf, or a node with
  quadrants that are there and lie one level below.
-/
def Accepts
    (arena : Arena) : Entry → Prop
| .leaf _ => True
| .node level children =>
    ∃ below,
      level = below + 1 ∧ below < maxLevel ∧
        ∀ child ∈ children.toList,
          arena.HasLevel below child

/-
  The four parts of an arena fit together. Each node has its
  own number, there is room for a step of each node, quadrants
  come before their node and lie one level below it, the index
  finds exactly the nodes that are there, and the remembered
  walls are walls.
-/
structure WellFormed (arena : Arena) : Prop where
  size_le : arena.size ≤ nodeLimit
  size_steps : arena.steps.size = arena.size
  accepts_entry :
    ∀ (id : NodeId) (entry : Entry),
      arena.entries[id]? = some entry →
        arena.Accepts entry
  child_lt :
    ∀ (id : NodeId) (level : Nat) (children : Quad NodeId),
      arena.entries[id]? = some (.node level children) →
        ∀ child ∈ children.toList, child < id
  index_iff :
    ∀ (entry : Entry) (id : NodeId),
      arena.index[entry]? = some id ↔
        arena.interning = true ∧
          arena.entries[id]? = some entry
  denotes_wall :
    ∀ (level : Nat) (id : NodeId),
      arena.walls[level]? = some id →
        arena.Denotes id (Square.uniform .wall level)

variable {arena before after : Arena}

theorem Accepts.of_extends
    {entry : Entry}
    (hAccepts : before.Accepts entry)
    (hExtends : Extends before after) :
    after.Accepts entry := by
  cases entry with
  | leaf cell => trivial
  | node level children =>
      rcases hAccepts with ⟨below, hLevel, hMax, hChildren⟩
      exact ⟨below, hLevel, hMax, fun child hChild =>
        (hChildren child hChild).of_extends hExtends⟩

/- There is room for the step of every node. -/
theorem WellFormed.lt_size_steps
    (hArena : arena.WellFormed)
    {level : Nat}
    {id : NodeId}
    (hLevel : arena.HasLevel level id) :
    id < arena.steps.size := by
  rw [hArena.size_steps]
  exact hLevel.lt_size

/- No level of a well-formed arena is too deep. -/
theorem WellFormed.level_le_max
    (hArena : arena.WellFormed)
    {level : Nat}
    {id : NodeId}
    (hLevel : arena.HasLevel level id) :
    level ≤ maxLevel := by
  rcases hLevel with ⟨entry, hEntry, rfl⟩
  cases entry with
  | leaf cell => exact Nat.zero_le _
  | node level children =>
      rcases hArena.accepts_entry id _ hEntry with
        ⟨below, hBelow, hMax, -⟩
      simp only [Entry.level]
      omega

/- Every node of a well-formed arena stands for a square. -/
theorem WellFormed.exists_denotes
    (hArena : arena.WellFormed)
    {level : Nat}
    {id : NodeId}
    (hLevel : arena.HasLevel level id) :
    ∃ square : Square level, arena.Denotes id square := by
  induction level generalizing id with
  | zero =>
      rcases hLevel with ⟨entry, hEntry, hZero⟩
      cases entry with
      | leaf cell =>
          exact ⟨.leaf cell,
            (denotes_leaf_iff arena id cell).mpr hEntry⟩
      | node level children =>
          rcases hArena.accepts_entry id _ hEntry with
            ⟨below, hBelow, -⟩
          simp only [Entry.level] at hZero
          omega
  | succ level ih =>
      rcases hLevel with ⟨entry, hEntry, hSucc⟩
      cases entry with
      | leaf cell => simp [Entry.level] at hSucc
      | node above children =>
          have hAbove : above = level + 1 := hSucc
          subst hAbove
          rcases hArena.accepts_entry id _ hEntry with
            ⟨below, hBelow, -, hChildren⟩
          have hSame : below = level := by omega
          subst hSame
          rcases Quad.forall_mem_toList.mp hChildren with
            ⟨hSwLevel, hSeLevel, hNwLevel, hNeLevel⟩
          rcases ih hSwLevel with ⟨sw, hSw⟩
          rcases ih hSeLevel with ⟨se, hSe⟩
          rcases ih hNwLevel with ⟨nw, hNw⟩
          rcases ih hNeLevel with ⟨ne, hNe⟩
          refine ⟨.node sw se nw ne, ?_⟩
          exact (denotes_succ_iff arena id _).mpr
            ⟨children, hEntry, hSw, hSe, hNw, hNe⟩

/- The arena without nodes is well formed. -/
theorem wellFormed_new
    (interning memoizing : Bool) :
    (new interning memoizing).WellFormed where
  size_le := Nat.zero_le nodeLimit
  size_steps := rfl
  accepts_entry := by simp [new]
  child_lt := by simp [new]
  index_iff := by simp [new]
  denotes_wall := by simp [new]

end Arena

end LatticeGas

------------------------------------------------------------
-- Adding Nodes
------------------------------------------------------------

namespace LatticeGas

namespace Arena

/-
  All nodes stay, and the new ones have at most the given
  level.
-/
structure Grows
    (top : Nat)
    (before after : Arena) : Prop where
  keeps : Extends before after
  level_le :
    ∀ (id : NodeId) (entry : Entry),
      after.entries[id]? = some entry →
        before.entries[id]? = some entry ∨
          entry.level ≤ top

variable {arena before after : Arena}

theorem Grows.refl
    (top : Nat)
    (arena : Arena) :
    Grows top arena arena :=
  ⟨Extends.refl arena, fun _ _ hEntry => Or.inl hEntry⟩

theorem Grows.trans
    {top : Nat}
    {first second third : Arena}
    (hFirst : Grows top first second)
    (hSecond : Grows top second third) :
    Grows top first third := by
  constructor
  · exact hFirst.keeps.trans hSecond.keeps
  · intro id entry hEntry
    rcases hSecond.level_le id entry hEntry with
      hOld | hLevel
    · exact hFirst.level_le id entry hOld
    · exact Or.inr hLevel

theorem Grows.mono
    {smaller larger : Nat}
    (hGrows : Grows smaller before after)
    (hTop : smaller ≤ larger) :
    Grows larger before after := by
  constructor
  · exact hGrows.keeps
  · intro id entry hEntry
    rcases hGrows.level_le id entry hEntry with
      hOld | hLevel
    · exact Or.inl hOld
    · exact Or.inr (Nat.le_trans hLevel hTop)

/- No step is remembered that was not remembered before. -/
def StepsFrom (before after : Arena) : Prop :=
  ∀ id next : NodeId,
    after.steps[id]? = some (some next) →
      before.steps[id]? = some (some next)

@[simp] theorem entries_extended
    (arena : Arena)
    (entry : Entry) :
    (arena.extended entry).entries =
      arena.entries.push entry :=
  rfl

@[simp] theorem size_extended
    (arena : Arena)
    (entry : Entry) :
    (arena.extended entry).size = arena.size + 1 :=
  Array.size_push entry

@[simp] theorem walls_extended
    (arena : Arena)
    (entry : Entry) :
    (arena.extended entry).walls = arena.walls :=
  rfl

theorem extends_extended
    (arena : Arena)
    (entry : Entry) :
    Extends arena (arena.extended entry) := by
  intro id other hOther
  have hId : id < arena.entries.size :=
    (Array.getElem?_eq_some_iff.mp hOther).choose
  rw [entries_extended, Array.getElem?_push_lt hId,
    ← Array.getElem?_eq_getElem hId, hOther]

/- The nodes after an addition are the old ones and one. -/
theorem entries_extended_eq_some_iff
    (arena : Arena)
    (entry other : Entry)
    (id : NodeId) :
    (arena.extended entry).entries[id]? = some other ↔
      arena.entries[id]? = some other ∨
        id = arena.size ∧ entry = other := by
  rw [entries_extended, Array.getElem?_push, ← size]
  by_cases hId : id = arena.size
  · have hNone : arena.entries[id]? = none :=
      Array.getElem?_eq_none (Nat.le_of_eq hId.symm)
    rw [hNone]
    simp [hId]
  · simp [hId]

theorem stepsFrom_extended
    (arena : Arena)
    (entry : Entry) :
    StepsFrom arena (arena.extended entry) := by
  intro id next hNext
  change (arena.steps.push none)[id]? = _ at hNext
  rw [Array.getElem?_push] at hNext
  split at hNext
  · simp at hNext
  · exact hNext

/-
  The index after the addition of an entry that was not there
  finds what it found before, and the entry.
-/
theorem index_extended_eq_some_iff
    (hArena : arena.WellFormed)
    {entry : Entry}
    (hNew :
      arena.interning = true → arena.index[entry]? = none)
    (other : Entry)
    (id : NodeId) :
    (arena.extended entry).index[other]? = some id ↔
      arena.interning = true ∧
        (arena.extended entry).entries[id]? = some other := by
  rw [entries_extended_eq_some_iff]
  have hOld := hArena.index_iff other id
  change
    (if arena.interning then
        arena.index.insert entry arena.size
      else arena.index)[other]? = some id ↔ _
  by_cases hInterning : arena.interning = true
  · rw [if_pos hInterning, Std.HashMap.getElem?_insert]
    by_cases hSame : entry = other
    · subst hSame
      have hMissing : ¬ arena.entries[id]? = some entry := by
        intro hEntry
        have hFound := hOld.mpr ⟨hInterning, hEntry⟩
        rw [hNew hInterning] at hFound
        cases hFound
      simp [hInterning, hMissing, eq_comm]
    · simp [hSame, hOld, hInterning]
  · simp [hInterning, hOld]

/- An accepted entry may be added if it is not there yet. -/
theorem wellFormed_extended
    (hArena : arena.WellFormed)
    {entry : Entry}
    (hAccepts : arena.Accepts entry)
    (hNew :
      arena.interning = true → arena.index[entry]? = none)
    (hRoom : arena.size < nodeLimit) :
    (arena.extended entry).WellFormed where
  size_le := by
    rw [size_extended]
    exact hRoom
  size_steps := by
    have hSize := hArena.size_steps
    change (arena.steps.push none).size =
      (arena.entries.push entry).size
    rw [Array.size_push, Array.size_push, hSize]
    rfl
  accepts_entry := by
    intro id other hOther
    have hExtends := extends_extended arena entry
    rw [entries_extended_eq_some_iff] at hOther
    rcases hOther with hOld | ⟨-, rfl⟩
    · exact (hArena.accepts_entry id other hOld).of_extends
        hExtends
    · exact hAccepts.of_extends hExtends
  child_lt := by
    intro id level children hNode child hChild
    rw [entries_extended_eq_some_iff] at hNode
    rcases hNode with hOld | ⟨rfl, rfl⟩
    · exact hArena.child_lt id level children hOld child
        hChild
    · rcases hAccepts with ⟨below, -, -, hChildren⟩
      exact (hChildren child hChild).lt_size
  index_iff := index_extended_eq_some_iff hArena hNew
  denotes_wall := by
    intro level id hWall
    rw [walls_extended] at hWall
    exact (hArena.denotes_wall level id hWall).of_extends
      (extends_extended arena entry)

theorem grows_extended
    (arena : Arena)
    (entry : Entry) :
    Grows entry.level arena (arena.extended entry) := by
  constructor
  · exact extends_extended arena entry
  · intro id other hOther
    rw [entries_extended_eq_some_iff] at hOther
    rcases hOther with hOld | ⟨-, rfl⟩
    · exact Or.inl hOld
    · exact Or.inr (Nat.le_refl _)

/-
  What becomes of an entry: its node is found, and then
  nothing is added. Or it is not there and is added, unless
  the numbers of nodes are used up.
-/
inductive Pushed
    (arena : Arena)
    (entry : Entry) :
    Except Fault (NodeId × Arena) → Prop where
  | found
      (id : NodeId)
      (hInterning : arena.interning = true)
      (hFound : arena.index[entry]? = some id) :
      Pushed arena entry (.ok (id, arena))
  | added
      (hNew :
        arena.interning = true → arena.index[entry]? = none)
      (hRoom : arena.size < nodeLimit) :
      Pushed arena entry
        (.ok (arena.size, arena.extended entry))
  | full
      (hNew :
        arena.interning = true → arena.index[entry]? = none)
      (hFull : nodeLimit ≤ arena.size) :
      Pushed arena entry (.error .exhausted)

theorem pushed_append
    {entry : Entry}
    (hNew :
      arena.interning = true → arena.index[entry]? = none) :
    Pushed arena entry (arena.append entry) := by
  by_cases hRoom : arena.size < nodeLimit
  · have hAppend :
        arena.append entry =
          .ok (arena.size, arena.extended entry) := by
      simp only [append, require, if_pos hRoom]
      rfl
    rw [hAppend]
    exact .added hNew hRoom
  · have hAppend : arena.append entry = .error .exhausted := by
      simp only [append, require, if_neg hRoom]
      rfl
    rw [hAppend]
    exact .full hNew (Nat.le_of_not_lt hRoom)

theorem pushed_push
    (arena : Arena)
    (entry : Entry) :
    Pushed arena entry (arena.push entry) := by
  unfold push
  by_cases hInterning : arena.interning = true
  · rw [if_pos hInterning]
    cases hFound : arena.index[entry]? with
    | none => exact pushed_append fun _ => hFound
    | some id => exact .found id hInterning hFound
  · rw [if_neg hInterning]
    exact pushed_append fun h => absurd h hInterning

section Push

variable {entry : Entry}
variable {id : NodeId}
variable (hPush : arena.push entry = .ok (id, after))

include hPush

/- What was found or added when there is a node. -/
theorem pushed_of_push_eq_ok :
    Pushed arena entry (.ok (id, after)) := by
  rw [← hPush]
  exact pushed_push arena entry

theorem wellFormed_push
    (hArena : arena.WellFormed)
    (hAccepts : arena.Accepts entry) :
    after.WellFormed := by
  cases pushed_of_push_eq_ok hPush with
  | found => exact hArena
  | added hNew hRoom =>
      exact wellFormed_extended hArena hAccepts hNew hRoom

/- The node that comes with an addition has the entry. -/
theorem entries_push
    (hArena : arena.WellFormed) :
    after.entries[id]? = some entry := by
  cases pushed_of_push_eq_ok hPush with
  | found _ _ hFound =>
      exact ((hArena.index_iff entry _).mp hFound).2
  | added =>
      rw [entries_extended_eq_some_iff]
      exact Or.inr ⟨rfl, rfl⟩

theorem grows_push :
    Grows entry.level arena after := by
  cases pushed_of_push_eq_ok hPush with
  | found => exact Grows.refl _ arena
  | added => exact grows_extended arena entry

theorem stepsFrom_push :
    StepsFrom arena after := by
  cases pushed_of_push_eq_ok hPush with
  | found => exact fun _ _ hNext => hNext
  | added => exact stepsFrom_extended arena entry

theorem walls_push :
    after.walls = arena.walls := by
  cases pushed_of_push_eq_ok hPush with
  | found => rfl
  | added => rfl

end Push

/- Nothing is added only if there is no number for it. -/
theorem size_eq_of_push_eq_error
    {entry : Entry}
    {fault : Fault}
    (hPush : arena.push entry = .error fault) :
    fault = .exhausted ∧ nodeLimit ≤ arena.size := by
  have hPushed := pushed_push arena entry
  rw [hPush] at hPushed
  cases hPushed with
  | full _ hFull => exact ⟨rfl, hFull⟩

end Arena

end LatticeGas
