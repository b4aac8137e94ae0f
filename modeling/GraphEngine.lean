import GraphEngine.Client.Run
import GraphEngine.Main
import GraphEngine.Proofs.Area.Expectation
import GraphEngine.Proofs.Client.BodySize
import GraphEngine.Proofs.Client.Transparency
import GraphEngine.Proofs.Descriptor.Entries
import GraphEngine.Proofs.Engine.IdSets
import GraphEngine.Proofs.Engine.Misfits
import GraphEngine.Proofs.Engine.Recomputing
import GraphEngine.Proofs.Engine.Refusals
import GraphEngine.Proofs.Entity.Bounds
import GraphEngine.Proofs.Entity.JsonForm
import GraphEngine.Proofs.Entity.PrefixFree
import GraphEngine.Proofs.Entity.Slots
import GraphEngine.Proofs.Http.Admission
import GraphEngine.Proofs.Http.Agreement
import GraphEngine.Proofs.Operation.OneHotEncoder
import GraphEngine.Proofs.Operation.OutDegree
import GraphEngine.Proofs.Persistence.Draining
import GraphEngine.Proofs.Session.Importing
import GraphEngine.Proofs.Settings.Layers
import GraphEngine.Proofs.Store.Confinement
import GraphEngine.Shell.Run
