import DataRescue.Text.Occurrences
import DataRescue.Text.Pattern
import DataRescue.Text.Records
import DataRescue.Python.Decode
import DataRescue.Python.Json
import DataRescue.Python.Lines
import DataRescue.Python.Number
import DataRescue.Python.Paths
import DataRescue.Python.Raising
import DataRescue.Python.Sha256
import DataRescue.Python.Text
import DataRescue.Concurrency.Budget
import DataRescue.Concurrency.Execution
import DataRescue.Concurrency.Licence
import DataRescue.Concurrency.Locking
import DataRescue.Concurrency.Program
import DataRescue.Concurrency.RelyGuarantee
import DataRescue.Concurrency.Sequential
import DataRescue.Http.Client
import DataRescue.Http.Exceptions
import DataRescue.Http.Runs
import DataRescue.Sql.Relation
import DataRescue.Api.CaseEvents
import DataRescue.Api.CaseLog
import DataRescue.Api.Config
import DataRescue.Api.Guard
import DataRescue.Api.Models
import DataRescue.Api.Projection
import DataRescue.Api.SchemaEvent
import DataRescue.Api.StateMachine
import DataRescue.Api.Store
import DataRescue.Api.StoreIsolation
import DataRescue.Api.StoreLaws
import DataRescue.Api.StoreRuns
import DataRescue.Policy.Engine
import DataRescue.Evidence.CandidateSchema
import DataRescue.Evidence.DbtBuild
import DataRescue.Evidence.Reconciliation
import DataRescue.Remediation.Candidates
import DataRescue.Remediation.Cleanup
import DataRescue.Remediation.Commands
import DataRescue.Remediation.DraftProof
import DataRescue.Remediation.DraftRetries
import DataRescue.Remediation.GitHub
import DataRescue.Remediation.MalformedProposals
import DataRescue.Remediation.OriginUrl
import DataRescue.Remediation.Ownership
import DataRescue.Remediation.PatchLaws
import DataRescue.Remediation.ProposalContract
import DataRescue.Remediation.RemoteUrl
import DataRescue.Remediation.SqlGate
import DataRescue.Remediation.SqlSafety
import DataRescue.Datahub.Actions
import DataRescue.Datahub.DocumentReadback
import DataRescue.Datahub.EventStream
import DataRescue.Datahub.GraphQL
import DataRescue.Datahub.IncidentReadback
import DataRescue.Datahub.Lineage
import DataRescue.Datahub.Malformed
import DataRescue.Datahub.MalformedContext
import DataRescue.Datahub.MalformedIncidents
import DataRescue.Datahub.MalformedResults
import DataRescue.Datahub.Mcp
import DataRescue.Datahub.McpSession
import DataRescue.Datahub.Normalisers
import DataRescue.Datahub.Readback
import DataRescue.Datahub.SeedContext
import DataRescue.Datahub.SeedLaws
import DataRescue.Datahub.SeedMerge
import DataRescue.Workflow.Advance
import DataRescue.Workflow.CaseIds
import DataRescue.Workflow.Checkpoint
import DataRescue.Workflow.CircuitBreaker
import DataRescue.Workflow.Completion
import DataRescue.Workflow.Containment
import DataRescue.Workflow.Correctness
import DataRescue.Workflow.Database
import DataRescue.Workflow.Determinism
import DataRescue.Workflow.Exclusive
import DataRescue.Workflow.Execution
import DataRescue.Workflow.Footprint
import DataRescue.Workflow.Ingest
import DataRescue.Workflow.IngestRule
import DataRescue.Workflow.Ledger
import DataRescue.Workflow.LiveEvidence
import DataRescue.Workflow.OnceOnly
import DataRescue.Workflow.Operations
import DataRescue.Workflow.Reading
import DataRescue.Workflow.Recovery
import DataRescue.Workflow.Redelivery
import DataRescue.Workflow.Refinement
import DataRescue.Workflow.RepairGate
import DataRescue.Workflow.Resumption
import DataRescue.Workflow.Rules
import DataRescue.Workflow.Scopes
import DataRescue.Workflow.Script
import DataRescue.Workflow.Selection
import DataRescue.Workflow.Stages
import DataRescue.Workflow.Stranding
import DataRescue.Workflow.System
import DataRescue.Workflow.Verification
import DataRescue.Workflow.Verify
import DataRescue.Workflow.WorkerLock
