import TildeFormat.Main
import TildeFormat.Proofs.Binary64.Shortest
import TildeFormat.Proofs.Field.Fixed
import TildeFormat.Proofs.Field.Grouping
import TildeFormat.Proofs.Field.Justification
import TildeFormat.Proofs.Field.Padding
import TildeFormat.Proofs.Formatter
import TildeFormat.Proofs.Render.Domain
import TildeFormat.Proofs.Render.Dropping
import TildeFormat.Proofs.Render.Escaping
import TildeFormat.Proofs.Render.Faults
import TildeFormat.Proofs.Render.Filling
import TildeFormat.Proofs.Render.Limiting
import TildeFormat.Proofs.Render.Places
import TildeFormat.Proofs.Render.Separating
import TildeFormat.Proofs.Render.Sublists
import TildeFormat.Proofs.Render.Termination
import TildeFormat.Proofs.Template.Brackets
import TildeFormat.Proofs.Template.Completeness
import TildeFormat.Proofs.Template.Finality
import TildeFormat.Proofs.Template.Registration
import TildeFormat.Proofs.Value.Repeating
import TildeFormat.Value.Equality
import TildeFormat.Proofs.Template.Bounds
import TildeFormat.Proofs.Template.Excerpt
import TildeFormat.Proofs.Template.Continuation
import TildeFormat.Proofs.CommandLine.Asking
import TildeFormat.Proofs.CommandLine.Rendering
import TildeFormat.Proofs.CommandLine.Delivery
import TildeFormat.Proofs.CommandLine.Source
import TildeFormat.Proofs.Highlight.Agreement
