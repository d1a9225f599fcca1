import Quire.Config.Setting
import Quire.Main
import Quire.Failure.Described
import Quire.Value.Tagged
import Quire.Proofs.Machine.History
import Quire.Proofs.Machine.Course
import Quire.Proofs.Machine.Carried
import Quire.Proofs.Execution
import Quire.Proofs.Processing
import Quire.Proofs.Run
import Quire.Proofs.Schema.References
import Quire.Proofs.Schema.Rules
import Quire.Proofs.Contributions
import Quire.Proofs.Writing
import Quire.Proofs.Delivery
import Quire.Proofs.FileLimit
import Quire.Proofs.Bounds
import Quire.Proofs.Recovery
import Quire.Proofs.Batches
import Quire.Proofs.Partition
import Quire.Proofs.Config.Validation
import Quire.Proofs.Config.Loading
import Quire.Proofs.Schema.Sites
import Quire.Proofs.Schema.Loading
import Quire.Proofs.Profile
import Quire.Proofs.Modes
import Quire.Proofs.Output
import Quire.Proofs.Rerun
import Quire.Proofs.Serialization
import Quire.Proofs.Command.Planning
import Quire.Proofs.Command.Validating
import Quire.Proofs.Schema.Accessors
import Quire.Proofs.Schema.Ways
import Quire.Proofs.Schema.Pointers
import Quire.Proofs.Exploration
import Quire.Proofs.Fences
import Quire.Proofs.Attempts
import Quire.Proofs.Extraction
import Quire.Proofs.Filling
import Quire.Proofs.Lookalikes
import Quire.Proofs.Skipping
import Quire.Proofs.Fields
import Quire.Proofs.Increments
import Quire.Proofs.Flattening
import Quire.Proofs.Joining
import Quire.Proofs.Unknown
import Quire.Proofs.Config.Returning
import Quire.Proofs.Config.Layering
import Quire.Proofs.Files.Listing
