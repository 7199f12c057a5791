import ShapeSearch.Main
import ShapeSearch.Proofs.Coverage
import ShapeSearch.Proofs.Discovery.Additive
import ShapeSearch.Proofs.Discovery.Counts
import ShapeSearch.Proofs.Discovery.Exhaustion
import ShapeSearch.Proofs.Discovery.Safety
import ShapeSearch.Proofs.Feedback
import ShapeSearch.Proofs.Naming.QuickName
import ShapeSearch.Proofs.Outline.Blocks
import ShapeSearch.Proofs.Outline.Entries
import ShapeSearch.Proofs.Outline.Members
import ShapeSearch.Proofs.Reencoding
import ShapeSearch.Proofs.Settings.Merge
import ShapeSearch.Proofs.Settings.Ownership
import ShapeSearch.Proofs.Signature.Acceptance
import ShapeSearch.Proofs.Store.Recency
import ShapeSearch.Proofs.Store.Recovery
import ShapeSearch.Proofs.Aliases
import ShapeSearch.Proofs.Tolerant
