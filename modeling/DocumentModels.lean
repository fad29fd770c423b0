import DocumentModels.Proofs.Definition.Document
import DocumentModels.Main
import DocumentModels.Proofs.Emit.ModuleText
import DocumentModels.Proofs.Model.Lookup
import DocumentModels.Proofs.Model.Keys
import DocumentModels.Proofs.Model.Representation
import DocumentModels.Proofs.Model.Stored
import DocumentModels.Proofs.Model.Idempotence
import DocumentModels.Proofs.Emit.Validator
import DocumentModels.Proofs.Batch.Drift
import DocumentModels.Proofs.Definition.Outline
import DocumentModels.Proofs.Schema.Mirror
import DocumentModels.Proofs.Schema.Layers
import DocumentModels.Proofs.Model.Counter
import DocumentModels.Proofs.Files.Overwrite
import DocumentModels.Proofs.Batch.Current
import DocumentModels.Proofs.Batch.Rerun
import DocumentModels.Proofs.Model.Agreement
import DocumentModels.Proofs.Schema.Findings
import DocumentModels.Proofs.Batch.Building
import DocumentModels.Proofs.Model.Requests
import DocumentModels.Proofs.Model.OnePass
import DocumentModels.Proofs.Model.Locality
import DocumentModels.Proofs.Emit.Presence
import DocumentModels.Proofs.Model.Managed
import DocumentModels.Proofs.Model.Search
import DocumentModels.Proofs.Emit.Expression
import DocumentModels.Proofs.Model.Membership
import DocumentModels.Proofs.Schema.Limits
import DocumentModels.Proofs.Emit.Indexes
import DocumentModels.Proofs.Emit.Lists
import DocumentModels.Proofs.Batch.ByName
import DocumentModels.Proofs.Schema.Paths
import DocumentModels.Proofs.Model.Inference
import DocumentModels.Proofs.Model.Matching
import DocumentModels.Proofs.Settings.Layering
import DocumentModels.Proofs.Settings.Decision
import DocumentModels.Proofs.Settings.Loading
