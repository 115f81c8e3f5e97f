import ArtifactCatalog.Json.Reader
import ArtifactCatalog.Main
import ArtifactCatalog.Proofs.Expansion.Exactness
import ArtifactCatalog.Proofs.Version.Preorder
import ArtifactCatalog.Query.Lookups
import ArtifactCatalog.Proofs.Query.Visibility
import ArtifactCatalog.Proofs.Search.Grouping
import ArtifactCatalog.Proofs.Search.Matching
import ArtifactCatalog.Proofs.Query.QuickSearch
import ArtifactCatalog.Proofs.Query.VersionListing
import ArtifactCatalog.Proofs.Coordinate.RoundTrip
import ArtifactCatalog.Proofs.Sighting.Distinctness
import ArtifactCatalog.Proofs.Version.DashSuffix
import ArtifactCatalog.Proofs.Coordinate.Confinement
import ArtifactCatalog.Proofs.Query.Outage
import ArtifactCatalog.Proofs.Query.ListedReleases
import ArtifactCatalog.Proofs.Sighting.Scanning
import ArtifactCatalog.Proofs.Expansion.Deepening
import ArtifactCatalog.Proofs.Expansion.NodeAnswers
import ArtifactCatalog.Proofs.Expansion.Closure
import ArtifactCatalog.Proofs.Search.Occurrence
import ArtifactCatalog.Proofs.Query.ClassSearch
import ArtifactCatalog.Proofs.Holding.LatestRows
import ArtifactCatalog.Proofs.Json.DataModel
import ArtifactCatalog.Proofs.Version.NumericOrder
import ArtifactCatalog.Proofs.Version.SameForm
import ArtifactCatalog.Proofs.Url.Masking
import ArtifactCatalog.Proofs.Command.IndexLines
import ArtifactCatalog.Proofs.Version.Suffixes
import ArtifactCatalog.Proofs.Version.Respelling
import ArtifactCatalog.Proofs.Expansion.LoopBounds
import ArtifactCatalog.Proofs.Coordinate.PathGrammar
import ArtifactCatalog.Proofs.Search.Pages
import ArtifactCatalog.Proofs.Registry.History
import ArtifactCatalog.Proofs.Checksum.Matching
import ArtifactCatalog.Proofs.Query.ReferrerReports
import ArtifactCatalog.Proofs.Checksum.Digests
import ArtifactCatalog.Proofs.Sighting.Submitting
import ArtifactCatalog.Proofs.Version.ItemSpelling
import ArtifactCatalog.Proofs.Version.FloorlessReading
import ArtifactCatalog.Proofs.Expansion.BuiltTree
import ArtifactCatalog.Proofs.Settings.VariableText
