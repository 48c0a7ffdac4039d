import QueryHeaders.Main
import QueryHeaders.Proofs.Agreement
import QueryHeaders.Proofs.Arguments
import QueryHeaders.Proofs.Artifact.LiveItems
import QueryHeaders.Proofs.Artifact.ReadBack
import QueryHeaders.Proofs.Artifact.Stopping
import QueryHeaders.Proofs.CommandLine.Diagnoses
import QueryHeaders.Proofs.CommandLine.DryRun
import QueryHeaders.Proofs.CommandLine.Verdict
import QueryHeaders.Proofs.Confinement
import QueryHeaders.Proofs.Contradiction
import QueryHeaders.Proofs.Discovery
import QueryHeaders.Proofs.Exclusion
import QueryHeaders.Proofs.Inventory
import QueryHeaders.Proofs.Messages
import QueryHeaders.Proofs.Query.Canonical
import QueryHeaders.Proofs.Query.Edits
import QueryHeaders.Proofs.Query.FirstOffence
import QueryHeaders.Proofs.Query.Grammar
import QueryHeaders.Proofs.Query.Invariant
import QueryHeaders.Proofs.Query.Names
import QueryHeaders.Proofs.Query.ParameterTexts
import QueryHeaders.Proofs.Query.Permission
import QueryHeaders.Proofs.Query.Shape
import QueryHeaders.Proofs.Regeneration
import QueryHeaders.Proofs.Schema.Location
import QueryHeaders.Proofs.SchemaPolicy
import QueryHeaders.Proofs.Separators
