import VectorIndex.Artifact.Search
import VectorIndex.Blob.Faulty
import VectorIndex.Blob.Memory
import VectorIndex.Custody.History
import VectorIndex.Engine.Faulty
import VectorIndex.Job.Client
import VectorIndex.Main
import VectorIndex.Telemetry.Exposition
import VectorIndex.Proofs.Custody.Sweep
import VectorIndex.Proofs.Run.Bookkeeping
import VectorIndex.Proofs.Run.EndToEnd
import VectorIndex.Proofs.Run.Fetching
import VectorIndex.Proofs.Run.Stages
import VectorIndex.Proofs.Run.Together
import VectorIndex.Proofs.Disk.Parts
import VectorIndex.Proofs.Disk.Rooms
import VectorIndex.Proofs.Run.Lodgings
import VectorIndex.Proofs.Blob.Keyed
import VectorIndex.Proofs.Engine.Neighbours
import VectorIndex.Proofs.Run.Holdings
import VectorIndex.Proofs.Run.Footing
import VectorIndex.Proofs.Run.Points
import VectorIndex.Proofs.Request.Configuring
import VectorIndex.Proofs.Engine.Provenance
import VectorIndex.Proofs.Run.Cancellation
import VectorIndex.Proofs.Run.Refusals
import VectorIndex.Proofs.Custody.Harbour
import VectorIndex.Proofs.Blob.Fidelity
import VectorIndex.Proofs.Blob.Closing
import VectorIndex.Proofs.Request.Exchange
import VectorIndex.Proofs.Config.Views
import VectorIndex.Proofs.Request.Validation
import VectorIndex.Proofs.Run.Naming
import VectorIndex.Proofs.Dataset.Reading
import VectorIndex.Proofs.Blob.Deliveries
import VectorIndex.Proofs.Engine.Persisting
import VectorIndex.Proofs.Artifact.Damage
import VectorIndex.Proofs.Artifact.Shape
import VectorIndex.Proofs.Custody.Lifecycle
import VectorIndex.Proofs.Job.Waiting
import VectorIndex.Proofs.Blob.Clients
import VectorIndex.Proofs.Blob.Confinement
