import TaskAudit.Audit
import TaskAudit.Audit.File
import TaskAudit.Catalog
import TaskAudit.Check
import TaskAudit.Check.Category
import TaskAudit.Check.Content
import TaskAudit.Check.Dependencies
import TaskAudit.Check.ErrorHandling
import TaskAudit.Check.Identity
import TaskAudit.Check.Kpi
import TaskAudit.Check.Sections
import TaskAudit.Check.Status
import TaskAudit.Check.Subtasks
import TaskAudit.CommandLine.Argument
import TaskAudit.CommandLine.Command
import TaskAudit.CommandLine.Outcome
import TaskAudit.Document
import TaskAudit.Document.Field
import TaskAudit.Document.Reference
import TaskAudit.Document.Section
import TaskAudit.Document.Subtask
import TaskAudit.Document.Table
import TaskAudit.Failure
import TaskAudit.Folder
import TaskAudit.Graph
import TaskAudit.Issue
import TaskAudit.Issue.Shape
import TaskAudit.Main
import TaskAudit.Note
import TaskAudit.Number.Binary64
import TaskAudit.Number.Decimal
import TaskAudit.Number.Numeral
import TaskAudit.Number.Quantity
import TaskAudit.Pattern
import TaskAudit.Pattern.Compile
import TaskAudit.Pattern.Token
import TaskAudit.Pipeline
import TaskAudit.Policy
import TaskAudit.Policy.File
import TaskAudit.Policy.Shape
import TaskAudit.Policy.Standard
import TaskAudit.Progress
import TaskAudit.Shape
import TaskAudit.Task
import TaskAudit.Task.Id
import TaskAudit.Task.Shape
import TaskAudit.Template
import TaskAudit.Text.Blank
import TaskAudit.Text.Case
import TaskAudit.Text.CaseTable
import TaskAudit.Text.CharName
import TaskAudit.Text.CharNameTable
import TaskAudit.Text.Digit
import TaskAudit.Text.Fold
import TaskAudit.Text.Identifier
import TaskAudit.Text.Lines
import TaskAudit.Text.Printable
import TaskAudit.Text.Quoted
import TaskAudit.Text.Scan
import TaskAudit.Text.Word
import TaskAudit.Usage
import TaskAudit.Value
import TaskAudit.Value.Json
import TaskAudit.Value.Toml
import TaskAudit.Value.Toml.Quoted
import TaskAudit.Value.Toml.Scalar
import TaskAudit.Value.Toml.Tables
import TaskAudit.Verdict
import TaskAudit.Proofs.Cycle
import TaskAudit.Proofs.Dependencies
import TaskAudit.Proofs.Result
import TaskAudit.Proofs.Verdict
import TaskAudit.Proofs.Pipeline
import TaskAudit.Proofs.Kinds
import TaskAudit.Proofs.Audit
import TaskAudit.Proofs.Provenance
import TaskAudit.Proofs.Passing
import TaskAudit.Proofs.Quiet
import TaskAudit.Proofs.Closure
import TaskAudit.Proofs.Matching
import TaskAudit.Proofs.TaskNumber
import TaskAudit.Proofs.TaskLine
import TaskAudit.Proofs.IdShape
import TaskAudit.Proofs.Merge
import TaskAudit.Proofs.Extent
import TaskAudit.Proofs.Row
import TaskAudit.Proofs.Label
import TaskAudit.Proofs.Wording
import TaskAudit.Proofs.Entry
import TaskAudit.Proofs.Part
import TaskAudit.Proofs.Rendered
import TaskAudit.Proofs.CleanChecks
import TaskAudit.Proofs.CleanEntry
import TaskAudit.Proofs.Fault
import TaskAudit.Proofs.CycleCoverage
import TaskAudit.Proofs.CleanTemplate
import TaskAudit.Proofs.Soundness
import TaskAudit.Proofs.WellFormed
import TaskAudit.Proofs.Consistency
import TaskAudit.Proofs.Representation
import TaskAudit.Proofs.Duplicate
import TaskAudit.Proofs.Course
import TaskAudit.Proofs.Grouping
import TaskAudit.Proofs.Excess
import TaskAudit.Proofs.Folder
import TaskAudit.Proofs.PolicyFile
import TaskAudit.Proofs.ExitStatus
import TaskAudit.Proofs.Ownership
import TaskAudit.Proofs.Strictness
import TaskAudit.Proofs.Ceiling
import TaskAudit.Proofs.Declaration
import TaskAudit.Proofs.MarkedId
import TaskAudit.Proofs.Appended
import TaskAudit.Proofs.NumberedHeader
import TaskAudit.Proofs.CheckboxLine
import TaskAudit.Proofs.TaskTables
import TaskAudit.Proofs.CategorySections
import TaskAudit.Proofs.UndefinedName
import TaskAudit.Proofs.UsageCount
import TaskAudit.Proofs.Override
import TaskAudit.Proofs.ErrorHandling
import TaskAudit.Proofs.ListedIds
import TaskAudit.Proofs.MoreReferences
import TaskAudit.Proofs.ExactCeiling
import TaskAudit.Proofs.Bars
import TaskAudit.Proofs.Definitions
import TaskAudit.Proofs.LooserPolicy
import TaskAudit.Proofs.LineBreak
import TaskAudit.Proofs.CycleSearch
import TaskAudit.Proofs.ParentId
import TaskAudit.Proofs.SectionBlock
import TaskAudit.Proofs.MetricSource
