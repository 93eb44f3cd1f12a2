import Joinery.Customers.AgentTools
import Joinery.Customers.Entities
import Joinery.Customers.Indexes
import Joinery.Customers.Operations
import Joinery.Customers.Rest
import Joinery.Customers.SampleData
import Joinery.Customers.Seeding
import Joinery.Customers.Tables
import Joinery.Database.Affinity
import Joinery.Database.Cell
import Joinery.Database.CellValue
import Joinery.Database.Engine
import Joinery.Database.Evaluation
import Joinery.Database.Fault
import Joinery.Database.Fetching
import Joinery.Database.Judgment
import Joinery.Database.Numbering
import Joinery.Database.Pattern
import Joinery.Database.RankingOrder
import Joinery.Database.Resolution
import Joinery.Database.Session
import Joinery.Database.Storage
import Joinery.Database.Table
import Joinery.Filter.Basic
import Joinery.Filter.Condition
import Joinery.Filter.Telling
import Joinery.Main
import Joinery.Number.Binary64
import Joinery.Number.Decimal
import Joinery.Number.Integer
import Joinery.Number.Shortest
import Joinery.Plan.Basic
import Joinery.Plan.Drafting
import Joinery.Plan.JoinOrder
import Joinery.Plan.Limits
import Joinery.Proofs.Customers.Completing
import Joinery.Proofs.Customers.SampleRows
import Joinery.Proofs.Customers.Seeding
import Joinery.Proofs.Customers.SettingUp
import Joinery.Proofs.Customers.Surfaces
import Joinery.Proofs.Database.Checking
import Joinery.Proofs.Database.Fitting
import Joinery.Proofs.Database.Inserting
import Joinery.Proofs.Database.Joining
import Joinery.Proofs.Database.Order
import Joinery.Proofs.Database.Ranking
import Joinery.Proofs.Database.Reaching
import Joinery.Proofs.Database.Rearranging
import Joinery.Proofs.Database.Reordering
import Joinery.Proofs.Database.Sessions
import Joinery.Proofs.Database.Sorting
import Joinery.Proofs.Database.Ties
import Joinery.Proofs.Filter.Admission
import Joinery.Proofs.Filter.Arrays
import Joinery.Proofs.Filter.Classifying
import Joinery.Proofs.Filter.KeyOrder
import Joinery.Proofs.Filter.Matching
import Joinery.Proofs.Filter.Pruning
import Joinery.Proofs.Filter.Reading
import Joinery.Proofs.Filter.Rephrasing
import Joinery.Proofs.Filter.Respelling
import Joinery.Proofs.Filter.Shape
import Joinery.Proofs.Filter.Telling
import Joinery.Proofs.Filter.Vanishing
import Joinery.Proofs.Number.Layout
import Joinery.Proofs.Number.Literals
import Joinery.Proofs.Number.Magnitude
import Joinery.Proofs.Number.RoundTrip
import Joinery.Proofs.Number.Rounding
import Joinery.Proofs.Number.Shortest
import Joinery.Proofs.Number.Spelling
import Joinery.Proofs.Outcome
import Joinery.Proofs.Plan.Agreement
import Joinery.Proofs.Plan.Binding
import Joinery.Proofs.Plan.Cap
import Joinery.Proofs.Plan.Capping
import Joinery.Proofs.Plan.Chains
import Joinery.Proofs.Plan.Columns
import Joinery.Proofs.Plan.Drafting
import Joinery.Proofs.Plan.Faults
import Joinery.Proofs.Plan.JoinKeys
import Joinery.Proofs.Plan.JoinOrder
import Joinery.Proofs.Plan.Keyed
import Joinery.Proofs.Plan.Layering
import Joinery.Proofs.Plan.Parts
import Joinery.Proofs.Plan.Permuting
import Joinery.Proofs.Plan.Placeholders
import Joinery.Proofs.Plan.Projecting
import Joinery.Proofs.Plan.Pruning
import Joinery.Proofs.Plan.Rearranging
import Joinery.Proofs.Plan.Rechecking
import Joinery.Proofs.Plan.Refiltering
import Joinery.Proofs.Plan.Rephrasing
import Joinery.Proofs.Plan.Replacing
import Joinery.Proofs.Plan.Respelling
import Joinery.Proofs.Plan.Shape
import Joinery.Proofs.Plan.Sorting
import Joinery.Proofs.Plan.Spelling
import Joinery.Proofs.Query.Building
import Joinery.Proofs.Query.Projecting
import Joinery.Proofs.Query.Retelling
import Joinery.Proofs.Query.Wording
import Joinery.Proofs.Result.Batches
import Joinery.Proofs.Result.Fetched
import Joinery.Proofs.Result.Gathering
import Joinery.Proofs.Result.Identifiers
import Joinery.Proofs.Result.Newcomers
import Joinery.Proofs.Result.Prefixes
import Joinery.Proofs.Result.Projecting
import Joinery.Proofs.Result.Records
import Joinery.Proofs.Result.Retelling
import Joinery.Proofs.Result.Separation
import Joinery.Proofs.Schema.Decimals
import Joinery.Proofs.Schema.Embedding
import Joinery.Proofs.Schema.Instants
import Joinery.Proofs.Schema.Labels
import Joinery.Proofs.Schema.Loading
import Joinery.Proofs.Schema.Naming
import Joinery.Proofs.Schema.Relationships
import Joinery.Proofs.Schema.WholeNumbers
import Joinery.Proofs.Service.Answering
import Joinery.Proofs.Service.Belonging
import Joinery.Proofs.Service.Branches
import Joinery.Proofs.Service.Cancelling
import Joinery.Proofs.Service.Capping
import Joinery.Proofs.Service.Execution
import Joinery.Proofs.Service.FirstRows
import Joinery.Proofs.Service.KeyOrder
import Joinery.Proofs.Service.LetterCase
import Joinery.Proofs.Service.ListOrder
import Joinery.Proofs.Service.OpenOrder
import Joinery.Proofs.Service.OtherBranches
import Joinery.Proofs.Service.PrimaryRecord
import Joinery.Proofs.Service.Projecting
import Joinery.Proofs.Service.ReachedRecords
import Joinery.Proofs.Service.RelatedRecords
import Joinery.Proofs.Service.RequestOrder
import Joinery.Proofs.Service.Reversal
import Joinery.Proofs.Service.RowOrder
import Joinery.Proofs.Service.Running
import Joinery.Proofs.Service.Selecting
import Joinery.Proofs.Service.Separation
import Joinery.Proofs.Service.Truncation
import Joinery.Proofs.Service.Unfiltered
import Joinery.Proofs.Service.Warnings
import Joinery.Proofs.Setup.Keeping
import Joinery.Proofs.Setup.Starting
import Joinery.Proofs.Statement.Pieces
import Joinery.Proofs.Statement.Placeholders
import Joinery.Proofs.Text.Digits
import Joinery.Proofs.Text.LetterCase
import Joinery.Proofs.Text.LowerCase
import Joinery.Proofs.Text.Trimming
import Joinery.Proofs.Time.Calendar
import Joinery.Proofs.Time.Instant
import Joinery.Proofs.Time.Reading
import Joinery.Proofs.Time.Seconds
import Joinery.Proofs.Value.Distinction
import Joinery.Proofs.Value.Entries
import Joinery.Proofs.Value.Equality
import Joinery.Proofs.Value.Identity
import Joinery.Proofs.Value.Showing
import Joinery.Query.Basic
import Joinery.Query.Fault
import Joinery.Query.Rejection
import Joinery.Result.Basic
import Joinery.Result.Gathering
import Joinery.Schema.Basic
import Joinery.Schema.Coercion
import Joinery.Schema.Document
import Joinery.Schema.Naming
import Joinery.Schema.SemanticType
import Joinery.Service
import Joinery.Setup.Address
import Joinery.Setup.Arguments
import Joinery.Setup.Command
import Joinery.Setup.Settings
import Joinery.Setup.Sharing
import Joinery.Statement.Basic
import Joinery.Statement.Dialect
import Joinery.Statement.Parameter
import Joinery.Statement.Rendering
import Joinery.Text.Blank
import Joinery.Text.DecimalDigit
import Joinery.Text.LowerCase
import Joinery.Text.Quoted
import Joinery.Text.Ranges
import Joinery.Time.Calendar
import Joinery.Time.Epoch
import Joinery.Time.Fault
import Joinery.Time.Iso
import Joinery.Time.Moment
import Joinery.Validation.Checked
import Joinery.Validation.Issue
import Joinery.Value.Basic
import Joinery.Value.Entries
import Joinery.Value.Identity
import Joinery.Value.Misuse
