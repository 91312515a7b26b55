import SchemaGen.Diagnostic
import SchemaGen.Main
import SchemaGen.Proofs.Diagnostic.Agreement
import SchemaGen.Proofs.Document.Edits
import SchemaGen.Proofs.Document.Joining
import SchemaGen.Proofs.Document.Numbering
import SchemaGen.Proofs.Document.Provenance
import SchemaGen.Proofs.Go.Agreement
import SchemaGen.Proofs.Go.Arguments
import SchemaGen.Proofs.Go.Visibility
import SchemaGen.Proofs.Grammar.Contract
import SchemaGen.Proofs.Grammar.Furthest
import SchemaGen.Proofs.Grammar.Lookahead
import SchemaGen.Proofs.Grammar.RootCause
import SchemaGen.Proofs.Listing.Names
import SchemaGen.Proofs.Manifest.Decoding
import SchemaGen.Proofs.Node.Collect
import SchemaGen.Proofs.Node.TypeDefs
import SchemaGen.Proofs.Report.Colour
import SchemaGen.Proofs.Report.Underline
import SchemaGen.Proofs.Report.Window
import SchemaGen.Proofs.Run.Hint
import SchemaGen.Proofs.Run.Stages
import SchemaGen.Proofs.Token.Seam
