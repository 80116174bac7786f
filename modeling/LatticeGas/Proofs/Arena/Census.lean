import LatticeGas.Proofs.Arena.Actions
import LatticeGas.Proofs.Arena.Counting
import Mathlib.Algebra.BigOperators.Group.Finset.Basic
import Mathlib.Data.List.Induction

/-
  This file shows that the statistics of an arena tell what is
  in it. Levels are counted without a gap, since each node
  lies above one of every level below its own, and steps are
  remembered in arenas only that do so.

  Key definitions include:
    * `Stats.header`
    * `Stats.levelLine`
    * `Arena.RemembersNothing`

  Key theorems include:
    * `Arena.lt_size_perLevel_iff`
    * `Arena.sum_perLevel`
    * `Arena.encard_nodes_of_level`
    * `Arena.WellFormed.perLevel_pos`
    * `Stats.splitOn_text`
    * `Arena.stable_remembersNothing`
    * `Arena.stats_of_run`
-/

------------------------------------------------------------
-- Counts of All Nodes
------------------------------------------------------------

namespace LatticeGas

namespace Arena

variable {arena : Arena}

/- The level of a node is at the place of its number. -/
theorem getElem?_levels_eq_some_iff
    {id level : Nat} :
    arena.levels[id]? = some level ↔
      arena.level id = .ok level := by
  have hLevel :
      arena.level id = .ok level ↔
        arena.HasLevel level id :=
    ⟨hasLevel_of_level_eq, HasLevel.level_eq⟩
  rw [hLevel, levels, List.getElem?_map,
    Array.getElem?_toList, Option.map_eq_some_iff]
  rfl

/- There is a count for each level up to the highest. -/
theorem lt_size_perLevel_iff
    {level : Nat} :
    level < arena.perLevel.size ↔
      ∃ id above,
        arena.level id = .ok above ∧ level ≤ above := by
  rw [perLevel_eq_foldl, lt_size_foldl_countLevel_iff]
  simp only [List.mem_iff_getElem?,
    getElem?_levels_eq_some_iff]
  constructor
  · rintro (hNone | ⟨above, ⟨id, hId⟩, hLevel⟩)
    · cases hNone
    · exact ⟨id, above, hId, hLevel⟩
  · rintro ⟨id, above, hId, hLevel⟩
    exact Or.inr ⟨above, ⟨id, hId⟩, hLevel⟩

/- A wanted value at the end is one more place with it. -/
theorem encard_places
    (values : List Nat)
    (wanted : Nat) :
    { place : Nat | values[place]? = some wanted }.encard =
      values.count wanted := by
  induction values using List.reverseRecOn with
  | nil => simp
  | append_singleton values last ih =>
      have hPlace :
          ∀ place : Nat,
            (values ++ [last])[place]? = some wanted ↔
              place = values.length ∧ last = wanted ∨
                values[place]? = some wanted := by
        grind
      have hNew :
          values.length ∉
            { place | values[place]? = some wanted } := by
        simp
      rw [List.count_append, Nat.cast_add, ← ih]
      by_cases hLast : last = wanted
      · subst hLast
        simp only [hPlace, and_true, List.count_singleton_self,
          Nat.cast_one]
        exact Set.encard_insert_of_notMem hNew
      · simp [hPlace, hLast]

/- The counts of all levels add up to the number of nodes. -/
theorem sum_perLevel
    (arena : Arena) :
    arena.perLevel.sum = arena.size := by
  have hCounts :
      arena.perLevel.toList =
        (List.range arena.perLevel.size).map fun level =>
          arena.levels.count level := by
    apply List.ext_getElem
    · simp
    · intro level hLeft hRight
      have hCount := arena.perLevel_getD level
      rw [Array.length_toList] at hLeft
      rw [Array.getD_eq_getD_getElem?,
        Array.getElem?_eq_getElem hLeft] at hCount
      simpa using hCount
  have hLevels :
      ∀ level ∈ (arena.levels : Multiset Nat),
        level ∈ Finset.range arena.perLevel.size := by
    intro level hLevel
    rw [Multiset.mem_coe, List.mem_iff_getElem?] at hLevel
    rcases hLevel with ⟨id, hId⟩
    rw [Finset.mem_range, lt_size_perLevel_iff]
    exact ⟨id, level, getElem?_levels_eq_some_iff.mp hId,
      Nat.le_refl level⟩
  calc
    arena.perLevel.sum = arena.perLevel.toList.sum :=
      Array.sum_toList.symm
    _ = ∑ level ∈ Finset.range arena.perLevel.size,
          (arena.levels : Multiset Nat).count level := by
      simp only [hCounts, Multiset.coe_count]
      rfl
    _ = (arena.levels : Multiset Nat).card :=
      Multiset.sum_count_eq_card hLevels
    _ = arena.size := by simp [levels, size]

/- The nodes of a level are as many as were counted. -/
theorem encard_nodes_of_level
    (arena : Arena)
    (level : Nat) :
    { id : NodeId | arena.level id = .ok level }.encard =
      arena.perLevel.getD level 0 := by
  simp only [← getElem?_levels_eq_some_iff]
  rw [encard_places, perLevel_getD]

end Arena

end LatticeGas

------------------------------------------------------------
-- No Level Is Left Out
------------------------------------------------------------

namespace LatticeGas

namespace Arena

variable {arena : Arena}

/- Below a node there is one of every lower level. -/
theorem WellFormed.exists_level_eq
    (hArena : arena.WellFormed)
    {id : NodeId}
    {above level : Nat}
    (hAbove : arena.level id = .ok above)
    (hLevel : level ≤ above) :
    ∃ below, arena.level below = .ok level := by
  -- Go down from one level to the next by the first quadrant.
  induction above generalizing id with
  | zero =>
      obtain rfl : level = 0 := by omega
      exact ⟨id, hAbove⟩
  | succ above ih =>
      rcases Nat.lt_or_ge above level with hTop | hLower
      · obtain rfl : level = above + 1 := by omega
        exact ⟨id, hAbove⟩
      · rcases hasLevel_of_level_eq hAbove with
          ⟨entry, hEntry, hSame⟩
        cases entry with
        | leaf cell => cases hSame
        | node found children =>
            have hFound : found = above + 1 := hSame
            subst hFound
            have hChild :=
              (hArena.node_level hEntry).2.2 children.sw
                (by simp [Quad.toList])
            exact ih hChild.2 hLower

/- So there is a node of every level that is counted. -/
theorem WellFormed.perLevel_pos
    (hArena : arena.WellFormed)
    {level : Nat}
    (hLevel : level < arena.perLevel.size) :
    1 ≤ arena.perLevel.getD level 0 := by
  rcases lt_size_perLevel_iff.mp hLevel with
    ⟨id, above, hAbove, hBelow⟩
  rcases hArena.exists_level_eq hAbove hBelow with
    ⟨below, hId⟩
  have hFound := getElem?_levels_eq_some_iff.mpr hId
  rw [perLevel_getD]
  exact List.count_pos_iff.mpr
    (List.mem_iff_getElem?.mpr ⟨below, hFound⟩)

/- An arena with nodes has a highest level. -/
theorem exists_highest_level
    (hSize : 0 < arena.size) :
    ∃ top,
      arena.perLevel.size = top + 1 ∧
        (∃ id, arena.level id = .ok top) ∧
        ∀ (id : NodeId) (level : Nat),
          arena.level id = .ok level → level ≤ top := by
  have hFirst : 0 < arena.perLevel.size := by
    have hEntry := Array.getElem?_eq_getElem hSize
    exact lt_size_perLevel_iff.mpr
      ⟨0, _, HasLevel.level_eq ⟨_, hEntry, rfl⟩,
        Nat.zero_le _⟩
  obtain ⟨top, hTop⟩ :
      ∃ top, arena.perLevel.size = top + 1 :=
    ⟨arena.perLevel.size - 1, by omega⟩
  have hLe :
      ∀ (id : NodeId) (level : Nat),
        arena.level id = .ok level → level ≤ top := by
    intro id level hLevel
    have hRoom :=
      lt_size_perLevel_iff.mpr ⟨id, level, hLevel, le_rfl⟩
    omega
  rcases lt_size_perLevel_iff.mp
      (by omega : top < arena.perLevel.size) with
    ⟨id, above, hAbove, hBelow⟩
  have hAboveTop := hLe id above hAbove
  obtain rfl : above = top := by omega
  exact ⟨above, hTop, ⟨id, hAbove⟩, hLe⟩

end Arena

end LatticeGas

------------------------------------------------------------
-- Lines
------------------------------------------------------------

namespace LatticeGas

namespace Stats

/- The line for the arena. -/
def header (stats : Stats) : String :=
  s!"arena nodes={stats.nodes} memoized={stats.memoized}"

/- The line for a level. -/
def levelLine
    (stats : Stats)
    (level : Nat) : String :=
  s!"  @{level}: {stats.perLevel.getD level 0}"

/- If no count is zero, there is a line for each in order. -/
theorem lines_eq
    (stats : Stats)
    (hPos :
      ∀ level, level < stats.perLevel.size →
        1 ≤ stats.perLevel.getD level 0) :
    stats.lines =
      stats.header ::
        (List.range stats.perLevel.size).map
          stats.levelLine := by
  have hCounted :
      stats.perLevel.toList.zipIdx =
        (List.range stats.perLevel.size).map fun level =>
          (stats.perLevel.getD level 0, level) := by
    apply List.ext_getElem
    · simp
    · intro level hLeft hRight
      have hLevel : level < stats.perLevel.size := by
        simpa using hLeft
      simp [Array.getD_eq_getD_getElem?, hLevel]
  unfold lines levelLines
  rw [hCounted, List.filterMap_map, ← List.filterMap_eq_map]
  refine congrArg (List.cons stats.header)
    (List.filterMap_congr fun level hLevel => ?_)
  exact if_pos (hPos level (List.mem_range.mp hLevel))

/- A number is written without an end of line. -/
theorem newline_notMem_toString
    (number : Nat) :
    '\n' ∉ (toString number).toList := by
  intro hMem
  rw [Nat.toString_eq_repr, Nat.toList_repr] at hMem
  have hDigit :=
    Nat.isDigit_of_mem_toDigits (by omega) (by omega) hMem
  cases hDigit

/- None of the lines is broken. -/
theorem newline_notMem_of_mem_lines
    (stats : Stats)
    {line : String}
    (hLine : line ∈ stats.lines) :
    '\n' ∉ line.toList := by
  have hNumber := newline_notMem_toString
  rcases List.mem_cons.mp hLine with rfl | hLevel
  · simp only [String.toList_append, List.mem_append, not_or]
    exact
      ⟨⟨⟨by decide, hNumber _⟩, by decide⟩, hNumber _⟩
  · rcases List.mem_filterMap.mp hLevel with
      ⟨⟨count, level⟩, -, hCount⟩
    dsimp only at hCount
    split at hCount
    · cases hCount
      simp only [String.toList_append, List.mem_append, not_or]
      exact
        ⟨⟨⟨by decide, hNumber _⟩, by decide⟩, hNumber _⟩
    · cases hCount

/- Text that is cut at the ends of its lines gives the lines. -/
theorem splitOn_text
    (stats : Stats) :
    stats.text.toList.splitOn '\n' =
      stats.lines.map String.toList ++ [[]] := by
  have hLines :
      ∀ line ∈ stats.lines, '\n' ∉ line.toList :=
    fun _ => stats.newline_notMem_of_mem_lines
  rw [text]
  generalize stats.lines = lines at hLines
  induction lines with
  | nil => simp
  | cons line lines ih =>
      have hRest := ih fun other hOther =>
        hLines other (List.mem_cons_of_mem line hOther)
      have hLine := hLines line List.mem_cons_self
      rw [List.map_cons, String.join_cons, String.toList_append,
        String.toList_append, List.append_assoc, List.map_cons,
        List.cons_append, ← hRest]
      exact List.splitOn_append_cons_self_of_not_mem hLine _

end Stats

end LatticeGas

------------------------------------------------------------
-- Steps That Are Not Remembered
------------------------------------------------------------

namespace LatticeGas

namespace Arena

/- The arena does not remember steps, and has none. -/
structure RemembersNothing (arena : Arena) : Prop where
  not_memoizing : arena.memoizing = false
  steps_eq_none : ∀ step ∈ arena.steps, step = none

/- A node comes without a step, and nothing is added to it. -/
theorem stable_remembersNothing :
    Stable RemembersNothing where
  extended := by
    intro arena entry hArena
    refine ⟨hArena.not_memoizing, ?_⟩
    intro step hStep
    rcases Array.mem_push.mp hStep with hOld | hNew
    · exact hArena.steps_eq_none step hOld
    · exact hNew
  pushWall arena id hArena :=
    ⟨hArena.not_memoizing, hArena.steps_eq_none⟩
  setNext := by
    intro arena id next hMemoizing hArena
    rw [hArena.not_memoizing] at hMemoizing
    cases hMemoizing

theorem RemembersNothing.memoized_eq
    {arena : Arena}
    (hArena : arena.RemembersNothing) :
    arena.stats.memoized = 0 := by
  apply Array.countP_eq_zero.mpr
  intro step hStep
  simp [hArena.steps_eq_none step hStep]

end Arena

end LatticeGas

------------------------------------------------------------
-- Statistics of Arenas That Are Reached
------------------------------------------------------------

namespace LatticeGas

namespace Arena

variable {arena : Arena}
variable {interning memoizing : Bool}
variable {actions : List Action}
variable {answers : List (Option NodeId)}

theorem Action.keeps_run
    {Holds : Arena → Prop}
    (hStable : Stable Holds)
    (hNew : Holds (new interning memoizing))
    (hRun :
      run actions (new interning memoizing) =
        .ok (answers, arena)) :
    Holds arena :=
  holds_run hStable.closed_keeps actions _ answers arena hNew
    hRun

/-
  Whatever was done to an arena, its statistics tell how many
  nodes it has, in all and of each level. The counts end with
  the highest level that there is, and none of them is zero.
  So there is one line for each level, in order, after the
  first line. No more steps are remembered than there are
  nodes, and none if the arena is not to remember them.
-/
theorem stats_of_run
    (hRun :
      Action.run actions (new interning memoizing) =
        .ok (answers, arena)) :
    arena.stats.nodes = arena.size ∧
      arena.stats.perLevel.sum = arena.size ∧
      (∀ level : Nat,
        { id : NodeId |
            arena.level id = .ok level }.encard =
          arena.stats.perLevel.getD level 0) ∧
      (arena.size = 0 → arena.stats.perLevel.size = 0) ∧
      (0 < arena.size →
        ∃ top,
          arena.stats.perLevel.size = top + 1 ∧
            (∃ id, arena.level id = .ok top) ∧
            ∀ (id : NodeId) (level : Nat),
              arena.level id = .ok level → level ≤ top) ∧
      (∀ level : Nat, level < arena.stats.perLevel.size →
        1 ≤ arena.stats.perLevel.getD level 0) ∧
      arena.stats.lines =
        arena.stats.header ::
          (List.range arena.stats.perLevel.size).map
            arena.stats.levelLine ∧
      arena.stats.text.toList.splitOn '\n' =
        arena.stats.lines.map String.toList ++ [[]] ∧
      arena.stats.memoized ≤ arena.stats.nodes ∧
      (memoizing = false → arena.stats.memoized = 0) := by
  have hArena := (Action.evolves_of_run hRun).wellFormed
  have hPos :
      ∀ level : Nat, level < arena.stats.perLevel.size →
        1 ≤ arena.stats.perLevel.getD level 0 :=
    fun _ => hArena.perLevel_pos
  refine ⟨rfl, arena.sum_perLevel,
    arena.encard_nodes_of_level, ?_, exists_highest_level,
    hPos, arena.stats.lines_eq hPos,
    arena.stats.splitOn_text, ?_, ?_⟩
  · intro hNone
    rw [size, Array.size_eq_zero_iff] at hNone
    simp only [stats, perLevel, hNone]
    rfl
  · calc
      arena.stats.memoized ≤ arena.steps.size :=
        Array.countP_le_size
      _ = arena.stats.nodes := hArena.size_steps
  · rintro rfl
    have hNew : (new interning false).RemembersNothing :=
      ⟨rfl, by simp [new]⟩
    exact (Action.keeps_run stable_remembersNothing hNew
      hRun).memoized_eq

/-
  Five nodes are counted by level. A step was to be planted,
  but the arena does not remember any.
-/
theorem stats_of_run_five_nodes :
    ∃ arena,
      Action.run
          [.leaf .empty, .node (Quad.all 0),
            .node (Quad.all 1), .store 2 0, .wall 1]
          (new false false) =
        .ok ([some 0, some 1, some 2, none, some 4], arena) ∧
        arena.stats.perLevel.sum = 5 ∧
        { id : NodeId | arena.level id = .ok 0 }.encard = 2 ∧
        (∀ (id : NodeId) (level : Nat),
          arena.level id = .ok level → level ≤ 2) ∧
        arena.stats.lines =
          [arena.stats.header, arena.stats.levelLine 0,
            arena.stats.levelLine 1,
            arena.stats.levelLine 2] ∧
        arena.stats.memoized = 0 := by
  have hRan :
      ∃ arena,
        Action.run
            [.leaf .empty, .node (Quad.all 0),
              .node (Quad.all 1), .store 2 0, .wall 1]
            (new false false) =
          .ok ([some 0, some 1, some 2, none, some 4],
            arena) ∧
          arena.size = 5 ∧ arena.levels = [0, 1, 2, 0, 1] :=
    ⟨_, rfl, rfl, rfl⟩
  rcases hRan with ⟨arena, hRun, hSize, hLevels⟩
  have hCounts : arena.stats.perLevel = #[2, 2, 1] := by
    rw [stats, perLevel_eq_foldl, hLevels]
    rfl
  rcases stats_of_run hRun with
    ⟨-, hSum, hOfLevel, -, hHighest, -, hLines, -, -, hNone⟩
  rcases hHighest (by omega) with ⟨top, hTop, -, hLe⟩
  rw [hCounts] at hTop hLines
  have hZero := hOfLevel 0
  rw [hCounts] at hZero
  obtain rfl : 2 = top := Nat.succ.inj hTop
  exact ⟨arena, hRun, hSum.trans hSize, hZero, hLe, hLines,
    hNone rfl⟩

end Arena

end LatticeGas
