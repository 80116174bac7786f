import LatticeGas.Proofs.Arena.Operations
import LatticeGas.Proofs.Tracker.Invariant
import LatticeGas.Proofs.Tracker.Twins

/-
  This file shows that nothing tells whether an arena that
  shares nodes remembers steps, except for how long it takes.
  Numbers of nodes, the nodes themselves, and the moments at
  which an arena is compacted are the same.

  Key definitions include:
    * `Tracker.Snapshot`
    * `Tracker.Call.Snapshot`
    * `Tracker.history`

  Key theorems include:
    * `Tracker.Twins.snapshot_eq`
    * `Tracker.history_eq`
    * `Tracker.memoize_invisible`
-/

------------------------------------------------------------
-- Snapshots
------------------------------------------------------------

namespace LatticeGas

namespace Tracker

/-
  The node of the square, the place of the region in it, the
  ticks that have passed, and the nodes of the arena by their
  number and by level.
-/
structure Snapshot where
  root : NodeId
  level : Except Fault Nat
  region : Region
  elapsed : Nat
  nodes : Nat
  perLevel : Array Nat

def snapshot (tracker : Tracker) : Snapshot :=
  { root := tracker.root
    level := tracker.level
    region := tracker.region
    elapsed := tracker.elapsed
    nodes := tracker.stats.nodes
    perLevel := tracker.stats.perLevel }

/-
  The moments of a macro step, the ticks that it covers, and
  whether the arena is compacted after it.
-/
structure Call.Snapshot where
  before : Tracker.Snapshot
  padded : Tracker.Snapshot
  leapt : Tracker.Snapshot
  after : Tracker.Snapshot
  ticks : Nat
  compacts : Bool

def Call.snapshot (call : Call) : Call.Snapshot :=
  { before := call.before.snapshot
    padded := call.padded.snapshot
    leapt := call.leapt.snapshot
    after := call.after.snapshot
    ticks := call.ticks
    compacts := call.leapt.isFull }

/-
  The moments of a tracker that is built from a lattice and
  goes through the operations: those of every macro step, and
  the last one.
-/
def history
    {L : Type}
    [Lattice L]
    (lattice : L)
    (config : Config)
    (ops : List Op) :
    Except Failure
      (Except Fault (List Call.Snapshot × Snapshot)) :=
  (build lattice config).map fun built =>
    (Op.runCalls ops built).map fun record =>
      (record.1.map Call.snapshot, record.2.snapshot)

end Tracker

end LatticeGas

------------------------------------------------------------
-- Histories of Twins
------------------------------------------------------------

namespace LatticeGas

namespace Tracker

variable {left right : Tracker}
variable {configLeft configRight : Config}

/- Twins that share nodes cannot be told apart. -/
theorem Twins.snapshot_eq
    (hShareRight : configRight.intern = true)
    (hTwins : Twins configLeft configRight left right) :
    left.snapshot = right.snapshot := by
  have hRight := hTwins.shares_right.trans hShareRight
  have hEntries := hTwins.arenas.entries_eq hRight
  rcases hTwins.roots with
    ⟨level, square, hRootLeft, hRootRight⟩
  have hRoot := hTwins.arenas.id_eq hRight hRootLeft
    hRootRight
  unfold snapshot stats Arena.stats Arena.size Arena.perLevel
  rw [hTwins.level_eq, hTwins.region_eq, hTwins.elapsed_eq,
    hEntries, hRoot]

theorem Call.Twins.snapshot_eq
    (hAlike : Config.Alike configLeft configRight)
    (hShareRight : configRight.intern = true)
    {left right : Call}
    (hTwins : Call.Twins configLeft configRight left right) :
    left.snapshot = right.snapshot := by
  unfold Call.snapshot Call.ticks
  rw [hTwins.before.snapshot_eq hShareRight,
    hTwins.padded.snapshot_eq hShareRight,
    hTwins.leapt.snapshot_eq hShareRight,
    hTwins.after.snapshot_eq hShareRight,
    hTwins.level_eq, hTwins.leapt.isFull_eq hAlike]

/- A tracker that shares nodes is spared nothing. -/
theorem Config.not_spares
    {config : Config}
    (hShares : config.intern = true)
    (failure : Failure) :
    ¬ config.Spares failure := by
  intro hSpares
  rw [(Config.of_spares hSpares).1] at hShares
  cases hShares

/- So a run of two trackers has one history. -/
theorem history_eq
    {L : Type}
    [Lattice L]
    (lattice : L)
    (hAlike : Config.Alike configLeft configRight)
    (hShareLeft : configLeft.intern = true)
    (hShareRight : configRight.intern = true)
    (ops : List Op) :
    history lattice configLeft ops =
      history lattice configRight ops := by
  apply Concur.eq _ (Config.not_spares hShareRight)
  apply (concur_build hShareLeft configRight lattice).map
  intro left right hTwins
  have hRuns := hTwins.concur_runCalls hAlike ops
  rw [hShareRight] at hRuns
  apply Concur.eq _ Arena.not_spared_true
  apply hRuns.map
  rintro ⟨calls, last⟩ ⟨calls', last'⟩ ⟨hCalls, hLast⟩
  have hMoments :
      calls.map Call.snapshot = calls'.map Call.snapshot := by
    rw [← List.forall₂_eq_eq_eq, List.forall₂_map_left_iff,
      List.forall₂_map_right_iff]
    exact hCalls.imp fun _ _ hCall =>
      hCall.snapshot_eq hAlike hShareRight
  simp only [hMoments, hLast.snapshot_eq hShareRight]

/- Only a tracker that runs short comes to a fault. -/
theorem runsShort_of_history_eq
    {L : Type}
    [Lattice L]
    {lattice : L}
    {config : Config}
    {ops : List Op}
    {fault : Fault}
    (hFault :
      history lattice config ops = .ok (.error fault)) :
    ∃ built,
      build lattice config = .ok built ∧
        built.RunsShort (Lattice.side lattice) ops fault := by
  unfold history at hFault
  cases hBuild : build lattice config with
  | error failure =>
      rw [hBuild] at hFault
      cases hFault
  | ok built =>
      rw [hBuild] at hFault
      have hRun := (continues_of_build_eq_ok hBuild ops).2
      cases hCalls : Op.runCalls ops built with
      | error other =>
          simp only [Except.map, hCalls] at hFault
          cases hFault
          exact ⟨built, rfl, hRun.excused_of_error hCalls⟩
      | ok record =>
          simp only [Except.map, hCalls] at hFault
          cases hFault

/-
  In an arena that shares nodes, remembering steps is
  invisible down to the numbers of the nodes. This is so for
  all operations that add nodes, whatever they are given, and
  for trackers at every moment of every run. If numbers run
  short, they do so at the same moment, and a run of trackers
  ends in a fault only if it may take more of them than there
  are.
-/
theorem memoize_invisible :
    (∀ ops : List Building.Op,
      Building.Op.trace ops (Arena.new true true) =
        Building.Op.trace ops (Arena.new true false)) ∧
    ∀ {L : Type} [Lattice L] (lattice : L)
      (threshold : Option Nat) (ops : List Op),
      history lattice ⟨true, true, threshold⟩ ops =
          history lattice ⟨true, false, threshold⟩ ops ∧
        ∀ fault : Fault,
          history lattice ⟨true, true, threshold⟩ ops =
              .ok (.error fault) →
            ∃ built,
              build lattice ⟨true, true, threshold⟩ =
                  .ok built ∧
                built.RunsShort (Lattice.side lattice) ops
                  fault := by
  constructor
  · exact Building.Op.trace_new_eq
  · intro L _ lattice threshold ops
    have hAlike :
        Config.Alike ⟨true, true, threshold⟩
          ⟨true, false, threshold⟩ :=
      ⟨rfl, Or.inr ⟨rfl, rfl⟩⟩
    constructor
    · exact history_eq lattice hAlike rfl rfl ops
    · exact fun fault => runsShort_of_history_eq

end Tracker

end LatticeGas
