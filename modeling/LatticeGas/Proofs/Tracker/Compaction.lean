import LatticeGas.Proofs.Arena.Numbering
import LatticeGas.Proofs.Tracker.Invariant
import LatticeGas.Proofs.Tracker.Records

/-
  This file shows what compaction leaves. A tracker keeps its
  square and nothing else, and compacting it again has no
  effect. If a number of nodes is allowed, then there are no
  more after any macro step, unless all that are left belong
  to the square.

  Key definitions include:
    * `Tracker.Compacts`

  Key theorems include:
    * `Tracker.exists_compacts`
    * `Tracker.Compacts.compact_again`
    * `Tracker.compact_tidy_of_run`
    * `Tracker.size_le_or_compacts`
    * `Tracker.nodes_le_or_tidy_of_run`
-/

------------------------------------------------------------
-- Compacted Trackers
------------------------------------------------------------

namespace LatticeGas

namespace Tracker

open Arena Building

/-
  The second tracker is the first one after a compaction. It
  is what it was, in an arena with no more nodes than before
  that holds nothing but its square.
-/
structure Compacts
    (tracker compacted : Tracker) : Prop where
  compact_eq : tracker.compact = .ok compacted
  region_eq : compacted.region = tracker.region
  elapsed_eq : compacted.elapsed = tracker.elapsed
  config_eq : compacted.config = tracker.config
  roots :
    ∃ (level : Nat) (square : Square level),
      tracker.arena.Denotes tracker.root square ∧
        compacted.arena.Denotes compacted.root square
  wellFormed : compacted.arena.WellFormed
  interning_eq :
    compacted.arena.interning = compacted.config.intern
  tidy : compacted.arena.Tidy compacted.root
  size_le : compacted.arena.size ≤ tracker.arena.size

variable {tracker compacted : Tracker}

/- Every tracker with a square can be compacted. -/
theorem exists_compacts
    (hArena : tracker.arena.WellFormed)
    {level : Nat}
    {square : Square level}
    (hRoot : tracker.arena.Denotes tracker.root square) :
    ∃ compacted, tracker.Compacts compacted := by
  rcases exists_tidy_copyTree hArena hRoot
      tracker.config.intern tracker.config.memoize with
    ⟨root, arena, hCopy, hArena, hRoots, hTidy, hSize⟩
  exact ⟨_, compact_eq_ok hCopy, rfl, rfl, rfl,
    ⟨level, square, hRoot, hRoots⟩, hArena.wellFormed,
    hArena.interning_eq, hTidy, hSize⟩

/- A compaction goes to a single tracker. -/
theorem compacts_of_compact_eq_ok
    (hArena : tracker.arena.WellFormed)
    {level : Nat}
    {square : Square level}
    (hRoot : tracker.arena.Denotes tracker.root square)
    (hCompact : tracker.compact = .ok compacted) :
    tracker.Compacts compacted := by
  rcases exists_compacts hArena hRoot with ⟨found, hFound⟩
  obtain rfl :=
    Except.ok.inj (hFound.compact_eq.symm.trans hCompact)
  exact hFound

/- Another compaction numbers the nodes in the same way. -/
theorem Compacts.compact_again
    (hCompacts : tracker.Compacts compacted) :
    ∃ again,
      compacted.compact = .ok again ∧
        again.arena.entries = compacted.arena.entries ∧
        again.root = compacted.root := by
  rcases copyTree_of_visits hCompacts.wellFormed
      hCompacts.tidy.visits compacted.config.memoize with
    ⟨arena, hCopy, hEntries⟩
  rw [hCompacts.interning_eq] at hCopy
  exact ⟨_, compact_eq_ok hCopy, hEntries, rfl⟩

end Tracker

end LatticeGas

------------------------------------------------------------
-- Compaction After a Run
------------------------------------------------------------

namespace LatticeGas

namespace Tracker

variable {L : Type}
variable [Lattice L]

/-
  A tracker can be compacted after every run that does not end
  in a shortage of numbers. Its region, its ticks, its
  configuration, its level and its square stay the same. No
  step is remembered any more, every node belongs to the
  square, whose own node is the last one, and there are no
  more nodes than before. Compacting the tracker again leaves
  every node where it is. None of this takes any numbers.
-/
theorem compact_tidy_of_run
    {lattice : L}
    {config : Config}
    {built : Tracker}
    (hBuild : build lattice config = .ok built)
    (ops : List Op) :
    Barring (built.RunsShort (Lattice.side lattice) ops)
      (fun reached =>
        ∃ compacted again,
          reached.compact = .ok compacted ∧
          compacted.region = reached.region ∧
          compacted.elapsed = reached.elapsed ∧
          compacted.config = reached.config ∧
          (∃ (level : Nat) (square : Square level),
            reached.level = .ok level ∧
              compacted.level = .ok level ∧
              reached.arena.Denotes reached.root square ∧
              compacted.arena.Denotes compacted.root
                square) ∧
          compacted.stats.memoized = 0 ∧
          (∀ id : Nat,
            id < compacted.stats.nodes →
              compacted.arena.Reaches compacted.root id) ∧
          compacted.root + 1 = compacted.stats.nodes ∧
          compacted.stats.nodes ≤ reached.stats.nodes ∧
          compacted.compact = .ok again ∧
          again.arena.entries = compacted.arena.entries ∧
          again.root = compacted.root)
      (Op.run ops built) := by
  refine (barring_run_of_build_eq_ok hBuild ops).mono ?_
  rintro reached ⟨done, hFollows⟩
  rcases hFollows.exists_shows with ⟨frame, hShows⟩
  rcases exists_compacts hShows.sound.wellFormed
      hShows.denotes_root with ⟨compacted, hCompacts⟩
  rcases hCompacts.compact_again with
    ⟨again, hAgain, hEntries, hRoot⟩
  have hTidy := hCompacts.tidy
  refine ⟨compacted, again, hCompacts.compact_eq,
    hCompacts.region_eq, hCompacts.elapsed_eq,
    hCompacts.config_eq, ?_, hTidy.memoized_eq,
    fun id hId => hTidy.reaches hId, hTidy.root_eq,
    hCompacts.size_le, hAgain, hEntries, hRoot⟩
  rcases hCompacts.roots with ⟨level, square, hOld, hNew⟩
  exact ⟨level, square, hOld.hasLevel.level_eq,
    hNew.hasLevel.level_eq, hOld, hNew⟩

/- Particles in a square whose nodes are not shared. -/
theorem compact_tidy_three_wide :
    ∃ built reached compacted again,
      build (⟨3, Cell.lone .xPos⟩ : Uniform)
          ⟨false, true, none⟩ = .ok built ∧
        Op.run [.advance, .grow, .advanceAtLeast 9] built =
          .ok reached ∧
        reached.compact = .ok compacted ∧
        compacted.root + 1 = compacted.stats.nodes ∧
        compacted.stats.nodes ≤ reached.stats.nodes ∧
        compacted.compact = .ok again ∧
        again.root = compacted.root := by
  have hReadable :=
    Lattice.readable_uniform ⟨3, Cell.lone .xPos⟩
  rcases exists_built_run ⟨false, true, none⟩ hReadable
      (by decide) rfl (by decide)
      [.advance, .grow, .advanceAtLeast 9] (by decide)
      (by decide) with
    ⟨built, -, reached, hBuild, -, hRun, -⟩
  rcases (compact_tidy_of_run hBuild _).of_ok hRun with
    ⟨compacted, again, hCompact, -, -, -, -, -, -, hLast,
      hNodes, hAgain, -, hRoot⟩
  exact ⟨built, reached, compacted, again, hBuild, hRun,
    hCompact, hLast, hNodes, hAgain, hRoot⟩

end Tracker

end LatticeGas

------------------------------------------------------------
-- Compaction During a Run
------------------------------------------------------------

namespace LatticeGas

namespace Tracker

variable {tracker after : Tracker}
variable {plane : Plane}
variable {side level done limit : Nat}

/- Too many nodes are left only by a compaction. -/
theorem size_le_or_compacts
    (hArena : tracker.arena.WellFormed)
    {level : Nat}
    {square : Square level}
    (hRoot : tracker.arena.Denotes tracker.root square)
    (hLimit : tracker.config.compactThreshold = some limit)
    (hCompact : tracker.compactIfFull = .ok after) :
    after.arena.size ≤ limit ∨ tracker.Compacts after := by
  unfold Tracker.compactIfFull at hCompact
  rw [hLimit] at hCompact
  by_cases hFull : limit < tracker.arena.size
  · simp only [if_pos hFull] at hCompact
    exact .inr
      (compacts_of_compact_eq_ok hArena hRoot hCompact)
  · simp only [if_neg hFull] at hCompact
    cases hCompact
    exact .inl (Nat.not_lt.mp hFull)

variable {L : Type}
variable [Lattice L]

/-
  If at most `limit` nodes are allowed, then after each macro
  step of a run there are no more, or else no step is
  remembered and every node belongs to the square. If nodes
  are shared, there are then as many as there are different
  squares in it. Macro steps that are taken to cover a number
  of ticks are counted as well. This holds barring a shortage
  of numbers, and then for the operations before it.
-/
theorem nodes_le_or_tidy_of_run
    {lattice : L}
    {config : Config}
    (hLimit : config.compactThreshold = some limit)
    {built : Tracker}
    (hBuild : build lattice config = .ok built)
    (ops : List Op) :
    Barring (built.RunsShort (Lattice.side lattice) ops)
      (fun record =>
        Op.run ops built = .ok record.2 ∧
        ops.count .advance ≤ record.1.length ∧
        ∀ call ∈ record.1,
          call.before.advance =
              .ok (call.ticks, call.after) ∧
            (call.after.stats.nodes ≤ limit ∨
              call.after.stats.memoized = 0 ∧
                (∀ id : Nat,
                  id < call.after.stats.nodes →
                    call.after.arena.Reaches
                      call.after.root id) ∧
                (config.intern = true →
                  (call.after.stats.nodes : ℕ∞) =
                    (call.after.arena.piecesBelow
                      call.after.root).encard)))
      (Op.runCalls ops built) := by
  refine Barring.imp
    (continues_of_build_eq_ok hBuild ops).2
    (fun _ hShort => hShort) ?_
  rintro ⟨calls, reached⟩ hCalls hContinues
  have hRecorded := recorded_of_runCalls hCalls
  refine ⟨?_, Op.count_advance_le_length hCalls, ?_⟩
  · rw [Op.run_eq_runCalls, hCalls]
    rfl
  intro call hCall
  rcases List.mem_iff_getElem?.mp hCall with ⟨i, hFound⟩
  have hNumbered := hContinues.numbered i call hFound
  have hRecords := hRecorded.records call hCall
  have hLeapt := hNumbered.leapt_shows
  -- The limit that applies is still the one asked for.
  have hConfig : call.leapt.config = config := by
    rw [hRecords.config_leapt,
      hRecorded.config_before call hCall,
      config_of_build hBuild]
  refine ⟨hNumbered.advance_eq, ?_⟩
  rcases size_le_or_compacts hLeapt.sound.wellFormed
      hLeapt.denotes_root (hConfig ▸ hLimit)
      hRecords.after_eq with hSmall | hCompacts
  · exact .inl hSmall
  · have hTidy := hCompacts.tidy
    refine .inr ⟨hTidy.memoized_eq,
      fun id hId => hTidy.reaches hId, ?_⟩
    intro hShares
    apply hTidy.size_eq_encard hCompacts.wellFormed
    rw [hCompacts.interning_eq, hCompacts.config_eq, hConfig,
      hShares]

/- No node at all is allowed, so only the square is left. -/
theorem nodes_le_or_tidy_three_wide :
    ∃ built calls reached,
      build (⟨3, Cell.lone .xPos⟩ : Uniform)
          ⟨true, true, some 0⟩ = .ok built ∧
        Op.runCalls [.advance, .grow, .advance] built =
          .ok (calls, reached) ∧
        2 ≤ calls.length ∧
        ∀ call ∈ calls,
          call.before.advance =
              .ok (call.ticks, call.after) ∧
            (call.after.stats.nodes ≤ 0 ∨
              call.after.stats.memoized = 0 ∧
                (call.after.stats.nodes : ℕ∞) =
                  (call.after.arena.piecesBelow
                    call.after.root).encard) := by
  have hReadable :=
    Lattice.readable_uniform ⟨3, Cell.lone .xPos⟩
  rcases exists_built_run ⟨true, true, some 0⟩ hReadable
      (by decide) rfl (by decide)
      [.advance, .grow, .advance] (by decide)
      (by decide) with
    ⟨built, calls, reached, hBuild, hCalls, -⟩
  rcases (nodes_le_or_tidy_of_run rfl hBuild _).of_ok hCalls
    with ⟨-, hCount, hAll⟩
  refine ⟨built, calls, reached, hBuild, hCalls, hCount, ?_⟩
  intro call hCall
  rcases hAll call hCall with ⟨hAdvance, hCases⟩
  refine ⟨hAdvance, ?_⟩
  rcases hCases with hSmall | ⟨hMemoized, -, hNodes⟩
  · exact .inl hSmall
  · exact .inr ⟨hMemoized, hNodes rfl⟩

end Tracker

end LatticeGas
