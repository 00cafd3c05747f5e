import DependencyEvidence.Main
import DependencyEvidence.Proofs.Analysis.BundledGems
import DependencyEvidence.Proofs.Analysis.Failures
import DependencyEvidence.Proofs.Analysis.Outcome
import DependencyEvidence.Proofs.Analysis.Preparation
import DependencyEvidence.Proofs.Analysis.Schedule
import DependencyEvidence.Proofs.Analysis.SecondRun
import DependencyEvidence.Proofs.Evidence.FiniteMap
import DependencyEvidence.Proofs.Hints.Duplications
import DependencyEvidence.Proofs.Hints.Format
import DependencyEvidence.Proofs.Hints.Loading
import DependencyEvidence.Proofs.Merge.Bracketing
import DependencyEvidence.Proofs.Merge.Conservation
import DependencyEvidence.Proofs.Merge.Effect
import DependencyEvidence.Proofs.Merge.Fold
import DependencyEvidence.Proofs.Merge.Order
import DependencyEvidence.Proofs.Merge.Provenance
import DependencyEvidence.Proofs.Merge.References
import DependencyEvidence.Proofs.Regex.Matching
import DependencyEvidence.Proofs.Report.RoundTrip
import DependencyEvidence.Proofs.Report.Terms
import DependencyEvidence.Proofs.Text.Terms
import DependencyEvidence.Proofs.Regex.Beside
import DependencyEvidence.Proofs.Regex.Flags
import DependencyEvidence.Proofs.Regex.Escapes
import DependencyEvidence.Proofs.Regex.Brackets
import DependencyEvidence.Proofs.Regex.Parts
import DependencyEvidence.Proofs.Hints.Patterns
import DependencyEvidence.Proofs.Text.Positions
import DependencyEvidence.Proofs.Text.Requests
import DependencyEvidence.Proofs.Text.Consumers
import DependencyEvidence.Proofs.Text.Fragments
import DependencyEvidence.Proofs.Hints.EmptyTags
import DependencyEvidence.Proofs.Hints.Namespaces
import DependencyEvidence.Proofs.Hints.OpenElements
import DependencyEvidence.Proofs.Hints.Conditions
import DependencyEvidence.Proofs.Analysis.PackageKinds
import DependencyEvidence.Proofs.Analysis.InstalledGems
import DependencyEvidence.Proofs.Text.Lowercase
import DependencyEvidence.Proofs.Evidence.Hashing
