import QuadGraph.Export
import QuadGraph.Proofs.Merging
import QuadGraph.Query.Execution
import QuadGraph.Sink
import QuadGraph.Store.Script
import QuadGraph.Proofs.Indexing
import QuadGraph.Proofs.Lookup
import QuadGraph.Proofs.Changes
import QuadGraph.Proofs.Reachable
import QuadGraph.Proofs.Evaluation
import QuadGraph.Proofs.Branches
import QuadGraph.Proofs.WorkQueue
import QuadGraph.Proofs.Unification
import QuadGraph.Proofs.Planning
import QuadGraph.Proofs.Solutions
import QuadGraph.Proofs.Answers
import QuadGraph.Proofs.Equality
import QuadGraph.Proofs.Ordering
import QuadGraph.Proofs.Events
import QuadGraph.Proofs.Representatives
import QuadGraph.Proofs.Parking
import QuadGraph.Proofs.Accounting
import QuadGraph.Proofs.Calls
import QuadGraph.Proofs.Growth
import QuadGraph.Proofs.Schedules
import QuadGraph.Proofs.Optionals
import QuadGraph.Proofs.Prospects
import QuadGraph.Proofs.Suspension
import QuadGraph.Proofs.Permutations
import QuadGraph.Proofs.Clashes
import QuadGraph.Proofs.Smushing
import QuadGraph.Proofs.Aliases
import QuadGraph.Proofs.Removal
import QuadGraph.Proofs.Registrations
import QuadGraph.Proofs.Halting
import QuadGraph.Proofs.Attending
import QuadGraph.Proofs.Typing
import QuadGraph.Proofs.Suppression
import QuadGraph.Proofs.Assertions
import QuadGraph.Proofs.Likeness
import QuadGraph.Proofs.Mirrors
import QuadGraph.Proofs.JsonText
import QuadGraph.Proofs.Results
import QuadGraph.Proofs.References
import QuadGraph.Proofs.Nesting
import QuadGraph.Proofs.Sessions
import QuadGraph.Proofs.Freshness
import QuadGraph.Proofs.Identity
import QuadGraph.Proofs.Lines
import QuadGraph.Proofs.Matching
import QuadGraph.Proofs.Limits
import QuadGraph.Proofs.Contexts
import QuadGraph.Proofs.BlankLabels
import QuadGraph.Proofs.Requests
import QuadGraph.Proofs.Applications
import QuadGraph.Proofs.Walks
import QuadGraph.Proofs.Roots
import QuadGraph.Proofs.Names
import QuadGraph.Proofs.Explanations
import QuadGraph.Proofs.Histories
