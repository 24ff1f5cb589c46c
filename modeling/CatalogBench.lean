import CatalogBench.Engine.Adapters
import CatalogBench.Engine.StageProtocol
import CatalogBench.Flink.Refinement
import CatalogBench.Flink.Acceptance
import CatalogBench.Commit.Verdict
import CatalogBench.Conformance.CommitSoundness
import CatalogBench.Conformance.CommitProbe
import CatalogBench.Contract.Value
import CatalogBench.Contract.Scenario
import CatalogBench.Contract.Profile
import CatalogBench.Contract.Document
import CatalogBench.ContractTool.Admission
import CatalogBench.Library.Rotation
import CatalogBench.Commit.Policy
import CatalogBench.Library.Decimal
import CatalogBench.Commit.Schedule
import CatalogBench.Commit.Canonical
import CatalogBench.Commit.Fixture
import CatalogBench.Commit.Identity
import CatalogBench.Commit.FinalState
import CatalogBench.Commit.Ranking
import CatalogBench.ContractTool.MatrixOrder
import CatalogBench.Engine.Transcript
import CatalogBench.Common.Sanitization
import CatalogBench.FaultProxy.Gate
import CatalogBench.Infra.Convergence
import CatalogBench.Engine.TableObservers
import CatalogBench.ContractTool.Relabelling
import CatalogBench.Conformance.Listing
import CatalogBench.Conformance.RouteSegments
import CatalogBench.Conformance.SanitizeSecrets
import CatalogBench.Commit.Merge
import CatalogBench.Commit.ObjectAudit
import CatalogBench.Contract.Binding
import CatalogBench.ContractTool.Summaries
import CatalogBench.ContractTool.Timestamp
import CatalogBench.Engine.ArtifactOwners
import CatalogBench.Engine.TrinoProperties
import CatalogBench.Engine.TranscriptAdmission
import CatalogBench.FaultProxy.Target
import CatalogBench.Flink.ReadIdentity
import CatalogBench.Flink.SqlTokens
import CatalogBench.VolumeArchive.Reproduction
import CatalogBench.Conformance.ConfigProbe
import CatalogBench.PyIceberg.Soundness
import CatalogBench.ContractTool.EngineVerdict
import CatalogBench.ContractTool.MaterializedProfile
