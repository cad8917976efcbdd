import DocGuard.Access
import DocGuard.Application
import DocGuard.Calendar
import DocGuard.Character.Age
import DocGuard.Character.CaseOrbit
import DocGuard.Character.Category
import DocGuard.Character.Derived
import DocGuard.Character.Property
import DocGuard.Character.Rule
import DocGuard.Character.Script
import DocGuard.Character.ScriptSharing
import DocGuard.Character.Segment
import DocGuard.Character.Set
import DocGuard.Character.Trait
import DocGuard.CommandLine.Answer
import DocGuard.CommandLine.Arguments
import DocGuard.Condition.Check
import DocGuard.Condition.Leaf
import DocGuard.Condition.Operator
import DocGuard.Condition.Template
import DocGuard.Decimal.Decimal128
import DocGuard.Decimal.Notation
import DocGuard.Decimal.Numeral
import DocGuard.Decimal.Shortest
import DocGuard.Decision.Stage
import DocGuard.Decision.Step
import DocGuard.Document.Coercion
import DocGuard.Document.Display
import DocGuard.Document.Path
import DocGuard.Document.Value
import DocGuard.ExtendedJson.Answer
import DocGuard.ExtendedJson.Members
import DocGuard.ExtendedJson.Relaxed
import DocGuard.ExtendedJson.Special
import DocGuard.Fault
import DocGuard.Files.Config
import DocGuard.Files.Load
import DocGuard.Files.Tree
import DocGuard.Function.Call
import DocGuard.Function.External
import DocGuard.Function.Registry
import DocGuard.Guard.Basic
import DocGuard.Guard.Reading
import DocGuard.Guard.Watching
import DocGuard.Guard.Writing
import DocGuard.Json.Basic
import DocGuard.Json.Number
import DocGuard.Json.Printer
import DocGuard.Json.Reader
import DocGuard.Main
import DocGuard.Naming
import DocGuard.Pattern.Bracket
import DocGuard.Pattern.Cursor
import DocGuard.Pattern.Encoding
import DocGuard.Pattern.Escape
import DocGuard.Pattern.Form
import DocGuard.Pattern.Machine
import DocGuard.Pattern.Meaning
import DocGuard.Pattern.Reader
import DocGuard.Pattern.Regex
import DocGuard.Pattern.Size
import DocGuard.Proofs.Computation
import DocGuard.Query.Expression
import DocGuard.Query.Filter
import DocGuard.Query.Pipeline
import DocGuard.Query.Update
import DocGuard.Rules.Audit
import DocGuard.Rules.Basic
import DocGuard.Rules.Evaluation
import DocGuard.Rules.Notation
import DocGuard.Rules.Selection
import DocGuard.Shell.Run
import DocGuard.Shell.Script
import DocGuard.Store.Change
import DocGuard.Store.Collection
import DocGuard.Store.Stream
import DocGuard.Text.Blank
import DocGuard.Text.Bytes
import DocGuard.Text.Digits
import DocGuard.Text.Split
import DocGuard.Text.Units
import DocGuard.Toml.Basic
import DocGuard.Toml.Reader
import DocGuard.Proofs.Decision
import DocGuard.Proofs.Pipeline
import DocGuard.Proofs.Collection
import DocGuard.Proofs.GuardedUpdate
import DocGuard.Proofs.ConditionReading
import DocGuard.Proofs.Contents
import DocGuard.Proofs.Token
import DocGuard.Proofs.Path
import DocGuard.Proofs.RoleSelection
import DocGuard.Proofs.RowFilter
import DocGuard.Proofs.Template
import DocGuard.Proofs.AtomicUpdate
import DocGuard.Proofs.Redaction
import DocGuard.Proofs.FieldProtection
import DocGuard.Proofs.Watching
import DocGuard.Proofs.Insertion
import DocGuard.Proofs.GuardedDeletion
import DocGuard.Proofs.Deletion
import DocGuard.Proofs.AtomicDeletion
import DocGuard.Proofs.FilterReading
import DocGuard.Proofs.WatchedReading
import DocGuard.Proofs.ChangeLog
import DocGuard.Proofs.InterruptedUpdate
import DocGuard.Proofs.Identification
import DocGuard.Proofs.GuardedInsertion
import DocGuard.Proofs.GuardedReading
import DocGuard.Proofs.RefusedReading
import DocGuard.Proofs.WithoutRules
import DocGuard.Proofs.AccessOrder
import DocGuard.Proofs.AuditedConditions
import DocGuard.Proofs.AuditedFilters
import DocGuard.Proofs.SubstitutedText
import DocGuard.Proofs.Requirements
import DocGuard.Proofs.CommonConditions
import DocGuard.Proofs.NarrowedStream
import DocGuard.Proofs.SameValue
import DocGuard.Proofs.Place
import DocGuard.Proofs.Operand
import DocGuard.Proofs.SetAddition
import DocGuard.Proofs.RepeatedUpdate
import DocGuard.Proofs.Distribution
import DocGuard.Proofs.IdleUpdate
import DocGuard.Proofs.ReadingBeside
import DocGuard.Proofs.UpdateFrame
import DocGuard.Proofs.ReadingBack
import DocGuard.Proofs.IntegerSum
import DocGuard.Proofs.SimultaneousAssignment
import DocGuard.Proofs.Projection
import DocGuard.Proofs.Difference
import DocGuard.Proofs.Reordering
import DocGuard.Proofs.ReportedPaths
import DocGuard.Proofs.SingleExpansion
import DocGuard.Proofs.StageFault
import DocGuard.Proofs.StageRun
import DocGuard.Proofs.NumeralForm
import DocGuard.Proofs.LeadingNumber
import DocGuard.Proofs.NearestDouble
import DocGuard.Proofs.IntegerAsDouble
import DocGuard.Proofs.SameInteger
