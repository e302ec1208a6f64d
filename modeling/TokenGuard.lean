import TokenGuard.Disk
import TokenGuard.Drift.Decode
import TokenGuard.Main
import TokenGuard.Shipped.Manifest
import TokenGuard.Proofs.Drift.Agreement
import TokenGuard.Proofs.Migration.Origin
import TokenGuard.Proofs.Artifact.History
import TokenGuard.Proofs.Marker.Beside
import TokenGuard.Proofs.Artifact.Regeneration
import TokenGuard.Proofs.Artifact.Idempotence
import TokenGuard.Proofs.Migration.Stretch
import TokenGuard.Proofs.Migration.Substitution
import TokenGuard.Proofs.Json.MemberOrder
import TokenGuard.Proofs.Json.Quoted
import TokenGuard.Proofs.Json.Textual
import TokenGuard.Proofs.Table.Content
import TokenGuard.Proofs.Artifact.Acceptance
import TokenGuard.Proofs.Compliance.Strictness
import TokenGuard.Proofs.Migration.Listed
import TokenGuard.Proofs.Migration.Idempotence
import TokenGuard.Proofs.Text.Scan
import TokenGuard.Proofs.Migration.Rehearsal
import TokenGuard.Proofs.Document.RoundTrip
import TokenGuard.Proofs.Marker.Replacement
import TokenGuard.Proofs.Artifact.Commutation
import TokenGuard.Proofs.Residual.Shape
import TokenGuard.Proofs.Compliance.Language
import TokenGuard.Proofs.Residual.Report
import TokenGuard.Proofs.Table.Lines
import TokenGuard.Proofs.Compliance.Scan
import TokenGuard.Proofs.Json.Integer
import TokenGuard.Proofs.Marker.Duplicate
import TokenGuard.Proofs.Json.Readable
import TokenGuard.Proofs.Json.Canonical
import TokenGuard.Proofs.Drift.HashComment
import TokenGuard.Proofs.Table.TotalOrder
import TokenGuard.Proofs.Table.IndexOrder
import TokenGuard.Proofs.SourceTree.Collection
