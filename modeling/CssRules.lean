import CssRules.Property
import CssRules.Publisher
import CssRules.Sheet.Scripted
import CssRules.Sheet.Writer
import CssRules.Proofs.Base36
import CssRules.Proofs.Content
import CssRules.Proofs.Graph
import CssRules.Proofs.ZeroFree
import CssRules.Proofs.Recursion
import CssRules.Proofs.Sealed
import CssRules.Proofs.Consistent
import CssRules.Proofs.Steps
import CssRules.Proofs.Run
import CssRules.Proofs.Document
import CssRules.Proofs.Deduplication
import CssRules.Proofs.Delivery
import CssRules.Proofs.Missing
import CssRules.Proofs.FeedRun
import CssRules.Proofs.WrittenBytes
import CssRules.Proofs.LiveSheet
import CssRules.Proofs.Structure
import CssRules.Proofs.Acyclic
import CssRules.Proofs.Termination
import CssRules.Proofs.Frozen
import CssRules.Proofs.StreamedSheet
import CssRules.Proofs.Retry
import CssRules.Proofs.Assembly
import CssRules.Proofs.Determinism
import CssRules.Proofs.Attachment
import CssRules.Proofs.Edges
import CssRules.Proofs.Replies
import CssRules.Proofs.Independence
import CssRules.Proofs.Registration
import CssRules.Proofs.Alike
import CssRules.Proofs.Interleaving
import CssRules.Proofs.Transparency
import CssRules.Proofs.SheetContacts
import CssRules.Proofs.Refusal
import CssRules.Proofs.Rebuilding
import CssRules.Proofs.RuleLists
import CssRules.Proofs.Formatting
import CssRules.Proofs.ClassMarkers
import CssRules.Proofs.MinifiedDocument
import CssRules.Proofs.NewHandles
import CssRules.Proofs.PropertyNames
import CssRules.Proofs.IdentifierForm
import CssRules.Proofs.Layers
