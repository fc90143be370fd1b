import RepoAudit.Agent.Audit
import RepoAudit.CodeQL.Container
import RepoAudit.Discovery.Project
import RepoAudit.Flow.Project
import RepoAudit.Flow.Record
import RepoAudit.Flow.Session
import RepoAudit.Main
import RepoAudit.Report.Context
import RepoAudit.Report.SecurityReport
import RepoAudit.Report.ThreatModel
import RepoAudit.Service.Scan
import RepoAudit.Snippet
import RepoAudit.Tool.Configuration
import RepoAudit.Tool.Dependencies
import RepoAudit.Tool.Manager
import RepoAudit.Tool.VectorStore
import RepoAudit.Triage.FalsePositive
import RepoAudit.Triage.Review
import RepoAudit.Workflow
import RepoAudit.Proofs.Flask.Events
import RepoAudit.Proofs.Syntax.WellFormed
import RepoAudit.Proofs.Syntax.Shown
import RepoAudit.Proofs.Flask.Notes
import RepoAudit.Proofs.Flask.Outcomes
import RepoAudit.Proofs.Flask.Run
import RepoAudit.Proofs.Flask.Routes
import RepoAudit.Proofs.Flask.CallFlows
import RepoAudit.Proofs.Flask.Effects
import RepoAudit.Proofs.Json.Display
import RepoAudit.Proofs.Flask.History
import RepoAudit.Proofs.Flask.RequestSources
import RepoAudit.Proofs.Triage.Scores
import RepoAudit.Proofs.CodeQL.Commands
import RepoAudit.Proofs.Flask.Actions
import RepoAudit.Proofs.Flask.Credits
import RepoAudit.Proofs.Flow.FileOrder
import RepoAudit.Proofs.Flow.Tracking
import RepoAudit.Proofs.Workflow
import RepoAudit.Proofs.Tool.VectorStore
import RepoAudit.Proofs.Json.Shape
import RepoAudit.Proofs.Triage.Sarif
import RepoAudit.Proofs.Triage.Review
import RepoAudit.Proofs.Text.Pattern
import RepoAudit.Proofs.Express.Document
import RepoAudit.Proofs.Discovery.Framework
import RepoAudit.Proofs.Discovery.Project
import RepoAudit.Proofs.Express.Visit
import RepoAudit.Proofs.Express.Routes
import RepoAudit.Proofs.Flow.CurrentFunction
import RepoAudit.Proofs.Service.Scan
import RepoAudit.Proofs.Workflow.Stages
import RepoAudit.Proofs.Text.Occurrences
import RepoAudit.Proofs.Express.Occurrences
import RepoAudit.Proofs.Express.Isolation
import RepoAudit.Proofs.Tool.Alignment
import RepoAudit.Proofs.CodeQL.Artefacts
import RepoAudit.Proofs.CodeQL.Language
import RepoAudit.Proofs.Discovery.ExpressFiles
import RepoAudit.Proofs.Discovery.Union
import RepoAudit.Proofs.Path.Relative
import RepoAudit.Proofs.Directory.Files
import RepoAudit.Proofs.Text.Case
import RepoAudit.Proofs.Discovery.FileTree
import RepoAudit.Proofs.Flow.PythonFiles
import RepoAudit.Proofs.Json.Strings
import RepoAudit.Proofs.Report.Finding
import RepoAudit.Proofs.Json.Scalars
import RepoAudit.Proofs.Json.Documents
import RepoAudit.Proofs.Triage.Context
import RepoAudit.Proofs.Triage.Confidence
import RepoAudit.Proofs.Record
import RepoAudit.Proofs.Triage.FalsePositive
import RepoAudit.Proofs.Report.Prompts
import RepoAudit.Proofs.Json.Arithmetic
import RepoAudit.Proofs.Slice
import RepoAudit.Proofs.Flask.Definitions
import RepoAudit.Proofs.Express.Chain
import RepoAudit.Proofs.Express.Assignments
import RepoAudit.Proofs.Snippet.Outline
