import ScriptDeploy.Bundle
import ScriptDeploy.Config
import ScriptDeploy.Decimal.Read
import ScriptDeploy.Decimal.Scaled
import ScriptDeploy.Deploy
import ScriptDeploy.Discovery
import ScriptDeploy.Json.Read
import ScriptDeploy.Main
import ScriptDeploy.Metadata
import ScriptDeploy.Payload
import ScriptDeploy.Preparation
import ScriptDeploy.RemotePath
import ScriptDeploy.Report
import ScriptDeploy.Text.Utf8
import ScriptDeploy.Upload.Transport
import ScriptDeploy.Yaml.Emit
import ScriptDeploy.Proofs.InMemoryServer
import ScriptDeploy.Proofs.DeployRun
import ScriptDeploy.Proofs.Planning
import ScriptDeploy.Proofs.Redeploy
import ScriptDeploy.Proofs.PathNames
import ScriptDeploy.Proofs.Scan
import ScriptDeploy.Proofs.Segments
import ScriptDeploy.Proofs.RemoteLayout
import ScriptDeploy.Proofs.RemoteNames
import ScriptDeploy.Proofs.PercentEncoding
import ScriptDeploy.Proofs.Respelling
import ScriptDeploy.Proofs.Settings
import ScriptDeploy.Proofs.SidecarFields
import ScriptDeploy.Proofs.ConflictAnswer
import ScriptDeploy.Proofs.TreeWrites
import ScriptDeploy.Proofs.Bundles
import ScriptDeploy.Proofs.CanonicalParts
import ScriptDeploy.Proofs.WriteOutcomes
