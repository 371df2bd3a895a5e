import SurfaceKinetics.Main
import SurfaceKinetics.Proofs.Ledger.Adsorbate
import SurfaceKinetics.Proofs.Ledger.Height
import SurfaceKinetics.Proofs.Simulation.Exhaustion
import SurfaceKinetics.Proofs.Simulation.Floor
import SurfaceKinetics.Proofs.Simulation.Idle
import SurfaceKinetics.Proofs.Simulation.Observation
import SurfaceKinetics.Proofs.Simulation.Recomputation
import SurfaceKinetics.Proofs.Simulation.Safety
import SurfaceKinetics.Proofs.Simulation.Sampling
import SurfaceKinetics.Proofs.Simulation.Stopping
import SurfaceKinetics.Proofs.SurfaceProcess.Acceptance
import SurfaceKinetics.Proofs.Reaction.Description
import SurfaceKinetics.Proofs.Simulation.Coordination
import SurfaceKinetics.Proofs.Ledger.Stoichiometry
import SurfaceKinetics.Proofs.Random.Possible
import SurfaceKinetics.Proofs.Reaction.Notation
import SurfaceKinetics.Proofs.Simulation.Inversion
import SurfaceKinetics.Proofs.Input.Accounting
import SurfaceKinetics.Proofs.Input.Severity
import SurfaceKinetics.Proofs.Input.Order
import SurfaceKinetics.Proofs.Input.History
import SurfaceKinetics.Proofs.Simulation.Configuration
import SurfaceKinetics.Proofs.SurfaceProcess.Atomicity
import SurfaceKinetics.Proofs.Simulation.Selection
import SurfaceKinetics.Proofs.Lattice.Staircase
import SurfaceKinetics.Proofs.Lattice.LevelTerraces
import SurfaceKinetics.Proofs.Lattice.Roughness
import SurfaceKinetics.Proofs.Text.Scanning
import SurfaceKinetics.Proofs.Reaction.Remainder
import SurfaceKinetics.Proofs.Reaction.Coefficients
import SurfaceKinetics.Proofs.Reaction.Failures
import SurfaceKinetics.Proofs.Reaction.Splitting
import SurfaceKinetics.Proofs.Reaction.Participation
import SurfaceKinetics.Proofs.SurfaceProcess.Bindability
import SurfaceKinetics.Proofs.Export.HeightMap
import SurfaceKinetics.Proofs.Export.TimeSeries
import SurfaceKinetics.Proofs.Export.Destination
import SurfaceKinetics.Proofs.Rate.Domain
import SurfaceKinetics.Proofs.SurfaceProcess.Outlook
import SurfaceKinetics.Proofs.Input.Terraces
import SurfaceKinetics.Proofs.Reaction.PartialSums
import SurfaceKinetics.Proofs.SurfaceProcess.Partners
import SurfaceKinetics.Proofs.Lattice.Sight
