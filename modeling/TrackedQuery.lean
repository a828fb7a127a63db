import TrackedQuery.Database.Connection
import TrackedQuery.Document.Schema
import TrackedQuery.Document.Session
import TrackedQuery.Error.Outline
import TrackedQuery.Example
import TrackedQuery.Plan.Same
import TrackedQuery.Plan.Text
import TrackedQuery.Session
import TrackedQuery.Proofs.Result
import TrackedQuery.Proofs.Value.Alike
import TrackedQuery.Proofs.Value.Fits
import TrackedQuery.Proofs.Value.Reading
import TrackedQuery.Proofs.Value.Sameness
import TrackedQuery.Proofs.Value.Types
import TrackedQuery.Proofs.Plan.Alike
import TrackedQuery.Proofs.Plan.Connectives
import TrackedQuery.Proofs.Plan.Induction
import TrackedQuery.Proofs.Plan.Levels
import TrackedQuery.Proofs.Plan.Nodes
import TrackedQuery.Proofs.Plan.Pairs
import TrackedQuery.Proofs.Plan.Patterns
import TrackedQuery.Proofs.Plan.Reflexive
import TrackedQuery.Proofs.Plan.Same
import TrackedQuery.Proofs.Plan.Truth
import TrackedQuery.Proofs.Plan.Walk
import TrackedQuery.Proofs.Error.Context
import TrackedQuery.Proofs.Schema.Verification
import TrackedQuery.Proofs.Query.Aggregates
import TrackedQuery.Proofs.Query.Bindings
import TrackedQuery.Proofs.Query.Compatibility
import TrackedQuery.Proofs.Query.Compile
import TrackedQuery.Proofs.Query.Embedding
import TrackedQuery.Proofs.Query.First
import TrackedQuery.Proofs.Query.Grouping
import TrackedQuery.Proofs.Query.Growth
import TrackedQuery.Proofs.Query.Keys
import TrackedQuery.Proofs.Query.Layout
import TrackedQuery.Proofs.Query.Markers
import TrackedQuery.Proofs.Query.Meaning
import TrackedQuery.Proofs.Query.Navigation
import TrackedQuery.Proofs.Query.Order
import TrackedQuery.Proofs.Query.PagePlans
import TrackedQuery.Proofs.Query.Pages
import TrackedQuery.Proofs.Query.Recording
import TrackedQuery.Proofs.Query.Rooted
import TrackedQuery.Proofs.Query.Stacking
import TrackedQuery.Proofs.Query.Tables
import TrackedQuery.Proofs.Query.Verified
import TrackedQuery.Proofs.Query.Walks
import TrackedQuery.Proofs.Recording.Clause
import TrackedQuery.Proofs.Recording.Lawful
import TrackedQuery.Proofs.Recording.Ledger
import TrackedQuery.Proofs.Recording.Lookup
import TrackedQuery.Proofs.Recording.Move
import TrackedQuery.Proofs.Recording.Placeholders
import TrackedQuery.Proofs.Recording.Reach
import TrackedQuery.Proofs.Recording.Slots
import TrackedQuery.Proofs.Recording.Standing
import TrackedQuery.Proofs.Session.Clause
import TrackedQuery.Proofs.Session.Handle
import TrackedQuery.Proofs.Session.Keeps
import TrackedQuery.Proofs.Session.Projection
import TrackedQuery.Proofs.Session.Query
import TrackedQuery.Proofs.Session.Store
import TrackedQuery.Proofs.Session.Subquery
import TrackedQuery.Proofs.Session.Term
import TrackedQuery.Proofs.Session.Valid
import TrackedQuery.Proofs.Program.Answer
import TrackedQuery.Proofs.Program.Conditions
import TrackedQuery.Proofs.Program.Evaluate
import TrackedQuery.Proofs.Program.Fits
import TrackedQuery.Proofs.Program.Form
import TrackedQuery.Proofs.Program.Key
import TrackedQuery.Proofs.Program.Queried
import TrackedQuery.Proofs.Program.Scoping
import TrackedQuery.Proofs.Program.Step
import TrackedQuery.Proofs.Program.Text
import TrackedQuery.Proofs.Program.Written
import TrackedQuery.Proofs.Splitting.Clause
import TrackedQuery.Proofs.Splitting.Form
import TrackedQuery.Proofs.Splitting.InStep
import TrackedQuery.Proofs.Splitting.Minds
import TrackedQuery.Proofs.Splitting.Programs
import TrackedQuery.Proofs.Splitting.Query
import TrackedQuery.Proofs.Splitting.Recording
import TrackedQuery.Proofs.Splitting.Seam
import TrackedQuery.Proofs.Splitting.Term
import TrackedQuery.Proofs.Tracking.ChangeSet
import TrackedQuery.Proofs.Tracking.Closing
import TrackedQuery.Proofs.Tracking.Flow
import TrackedQuery.Proofs.Tracking.Guards
import TrackedQuery.Proofs.Tracking.HandleCall
import TrackedQuery.Proofs.Tracking.Identity
import TrackedQuery.Proofs.Tracking.Interleaving
import TrackedQuery.Proofs.Tracking.Interrupted
import TrackedQuery.Proofs.Tracking.Key
import TrackedQuery.Proofs.Tracking.Load
import TrackedQuery.Proofs.Tracking.Overtaking
import TrackedQuery.Proofs.Tracking.OwnRow
import TrackedQuery.Proofs.Tracking.Patch
import TrackedQuery.Proofs.Tracking.Repeatable
import TrackedQuery.Proofs.Tracking.Scope
import TrackedQuery.Proofs.Tracking.Seat
import TrackedQuery.Proofs.Tracking.Sight
import TrackedQuery.Proofs.Tracking.Task
import TrackedQuery.Proofs.Tracking.Threads
