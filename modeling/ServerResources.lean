import ServerResources.Console
import ServerResources.Document
import ServerResources.Json.Reader
import ServerResources.Json.Writer
import ServerResources.Server
import ServerResources.Proofs.Registrar.Names
import ServerResources.Proofs.Deployment.Batch
import ServerResources.Proofs.Application.Members
import ServerResources.Proofs.Definitions.Install
import ServerResources.Proofs.Deployment.Adoption
import ServerResources.Proofs.OrderedMap
import ServerResources.Proofs.Server.Change
import ServerResources.Proofs.Server.Consistency
import ServerResources.Proofs.Server.Effect
import ServerResources.Proofs.Server.Reachable
import ServerResources.Proofs.Deployment.History
import ServerResources.Proofs.Schema.RoundTrip
import ServerResources.Proofs.Server.Restoration
import ServerResources.Proofs.Query.Redaction
import ServerResources.Proofs.Deployment.ResourceNames
import ServerResources.Proofs.Query.Confidentiality
import ServerResources.Proofs.Deployment.Disturbance
import ServerResources.Proofs.Deployment.Watched
import ServerResources.Proofs.Deployment.Direct
import ServerResources.Proofs.Application.Shape
import ServerResources.Proofs.Registrar.Share
import ServerResources.Proofs.Deployment.Share
import ServerResources.Proofs.Server.Share
import ServerResources.Proofs.Server.Isolation
import ServerResources.Proofs.Deployment.Commutation
import ServerResources.Proofs.Deployment.NameSpaces
import ServerResources.Proofs.Server.Faults
import ServerResources.Proofs.Bean.Matching
import ServerResources.Proofs.Query.Resolution
import ServerResources.Proofs.Lookup.Finding
import ServerResources.Proofs.Query.Agreement
import ServerResources.Proofs.Query.Arguments
import ServerResources.Proofs.Schema.Kinds
import ServerResources.Proofs.Server.Documents
import ServerResources.Proofs.Deployment.Warnings
import ServerResources.Proofs.Http.Route
import ServerResources.Proofs.Server.Redeployment
import ServerResources.Proofs.Server.Refusal
import ServerResources.Proofs.Server.Removal
import ServerResources.Proofs.Bean.Survival
import ServerResources.Proofs.Registrar.Remainder
import ServerResources.Proofs.Deployment.Cleanup
import ServerResources.Proofs.Deployment.Ownership
import ServerResources.Proofs.Naming.Qualification
import ServerResources.Proofs.PropertyBag
import ServerResources.Proofs.Bean.Visibility
import ServerResources.Proofs.Bean.Reading
import ServerResources.Proofs.Application.Positions
import ServerResources.Proofs.Application.Unvisited
import ServerResources.Proofs.Deployment.Twins
import ServerResources.Proofs.Lookup.Stability
import ServerResources.Proofs.Naming.Periods
import ServerResources.Proofs.Query.Consultations
import ServerResources.Proofs.Registrar.Payloads
import ServerResources.Proofs.Deployment.Visits
import ServerResources.Proofs.Deployment.Rounds
import ServerResources.Proofs.Deployment.Unvisited
import ServerResources.Proofs.MailResource
import ServerResources.Proofs.Text.CodePoint
