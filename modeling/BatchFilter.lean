import BatchFilter.Main
import BatchFilter.Session
import BatchFilter.Proofs.Framing
import BatchFilter.Proofs.Settling
import BatchFilter.Proofs.Workers
import BatchFilter.Proofs.Totals
import BatchFilter.Proofs.Losses
import BatchFilter.Proofs.Breakdown
import BatchFilter.Proofs.Encoding
import BatchFilter.Proofs.JsonText
import BatchFilter.Proofs.Wire
import BatchFilter.Proofs.Filtering
import BatchFilter.Proofs.Ordering
import BatchFilter.Proofs.Meaning
import BatchFilter.Proofs.Rules
import BatchFilter.Proofs.Construction
import BatchFilter.Proofs.References
import BatchFilter.Proofs.Acceptance
import BatchFilter.Proofs.Forgetting
import BatchFilter.Proofs.Documenting
import BatchFilter.Proofs.Sums
import BatchFilter.Proofs.Answers
import BatchFilter.Proofs.Leaves
import BatchFilter.Proofs.Visits
import BatchFilter.Proofs.Counting
import BatchFilter.Proofs.Tallies
import BatchFilter.Proofs.Balance
import BatchFilter.Proofs.Rereading
import BatchFilter.Proofs.Nesting
import BatchFilter.Proofs.Routes
import BatchFilter.Proofs.Separation
import BatchFilter.Proofs.Confluence
import BatchFilter.Proofs.Sessions
import BatchFilter.Proofs.Indifference
import BatchFilter.Proofs.Metering
import BatchFilter.Proofs.Casing
import BatchFilter.Proofs.Terminators
import BatchFilter.Proofs.Arrangement
import BatchFilter.Proofs.Sites
import BatchFilter.Proofs.Inventory
import BatchFilter.Proofs.Handling
import BatchFilter.Proofs.Leftovers
import BatchFilter.Proofs.Indexing
import BatchFilter.Proofs.Searching
import BatchFilter.Proofs.Integers
import BatchFilter.Proofs.Weights
import BatchFilter.Proofs.Shrinking
