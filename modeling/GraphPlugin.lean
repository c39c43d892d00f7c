import GraphPlugin.Proofs.BagEquality
import GraphPlugin.Proofs.CauseChains
import GraphPlugin.Proofs.HexOrder
import GraphPlugin.Proofs.LastReference
import GraphPlugin.Proofs.Lifecycle
import GraphPlugin.Proofs.Messages
import GraphPlugin.Proofs.Opacity
import GraphPlugin.Proofs.Outliving
import GraphPlugin.Proofs.Refinement
import GraphPlugin.Proofs.Registrations
import GraphPlugin.Proofs.Unwrapping
import GraphPlugin.Proofs.VersionWords
