import LatticeGas.Main
import LatticeGas.Proofs.Grid.Corridor
import LatticeGas.Proofs.Grid.Enclosure
import LatticeGas.Proofs.Grid.Influence
import LatticeGas.Proofs.Grid.Momentum
import LatticeGas.Proofs.Grid.Reversal
import LatticeGas.Proofs.Grid.Symmetry
import LatticeGas.Proofs.Tracker.Conservation
import LatticeGas.Proofs.Tracker.Growth
import LatticeGas.Proofs.Tracker.Refinement
import LatticeGas.Proofs.Tracker.Remembering
import LatticeGas.Proofs.Tracker.Sharing
import LatticeGas.Proofs.Grid.Making
import LatticeGas.Proofs.Grid.Simulation
import LatticeGas.Proofs.Arena.Preservation
import LatticeGas.Proofs.Arena.Replication
import LatticeGas.Proofs.Cli.Tuning
import LatticeGas.Proofs.Arena.Numbering
import LatticeGas.Proofs.Tracker.Records
import LatticeGas.Proofs.Tracker.Compaction
import LatticeGas.Proofs.Tracker.Overshoot
import LatticeGas.Proofs.Tracker.Admission
import LatticeGas.Proofs.Cli.Groups
import LatticeGas.Proofs.Grid.Rows
import LatticeGas.Proofs.Arena.Census
import LatticeGas.Proofs.Grid.Filling
import LatticeGas.Proofs.Arena.Appending
import LatticeGas.Proofs.Arena.Walls
import LatticeGas.Proofs.Arena.Foretelling
