import PatternSyntax.Parse
import PatternSyntax.Proofs.Slices
import PatternSyntax.Proofs.Printing.RoundTrip
import PatternSyntax.Proofs.Relabelling
import PatternSyntax.Proofs.NestingLimit
import PatternSyntax.Proofs.Prefixes.Expressions
import PatternSyntax.Proofs.Segmentation.Tokenize
import PatternSyntax.Proofs.Validity
import PatternSyntax.Proofs.Displacement.Sources
import PatternSyntax.Proofs.Quoting
import PatternSyntax.Proofs.Respacing
import PatternSyntax.Proofs.Composition.Parts
import PatternSyntax.Proofs.ClassMembers
import PatternSyntax.Proofs.TestCases
import PatternSyntax.Proofs.LineBreaks
import PatternSyntax.Proofs.Joining
import PatternSyntax.Proofs.Walking.Progress
