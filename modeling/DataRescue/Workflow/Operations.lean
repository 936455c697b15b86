import DataRescue.Api.Config
import DataRescue.Api.Store
import DataRescue.Concurrency.Program
import DataRescue.Remediation.Candidates

/-!
# Operations of the workflow

Everything a workflow program does outside its own values: transactions of the event store, the locks
and sets of its process, and calls of the adapters. Each one answers normally or raises. The adapters
live outside this model, so their operations carry exactly the arguments the service passes.
-/

namespace DataRescue

open Python Concurrency

/-! ### Exceptions -/

/-- The classes of foreign exceptions the service tells apart. -/
inductive ExternalKind where
  | osError | calledProcessError | timeoutExpired | subprocessError | other
  deriving DecidableEq, Repr

/-- An exception in flight. `exit` is a `BaseException` that is no `Exception`. -/
inductive Exn where
  | assetNotAllowed (message : String)
  | store (error : StoreError)
  | sqlSafety (error : SqlSafetyError)
  | valueError (message : String)
  | runtimeError (message : String)
  | stopIteration
  | external (kind : ExternalKind) (typeName : String)
  | exit (typeName : String)
  deriving DecidableEq, Repr

/-- `isinstance(error, Exception)` -/
def Exn.isException : Exn → Bool
  | .exit _ => false
  | _ => true

/-- `type(error).__name__` -/
def Exn.typeName : Exn → String
  | .assetNotAllowed _ => "AssetNotAllowedError"
  | .store (.caseNotFound _) => "CaseNotFoundError"
  | .store (.duplicateEvent _) => "DuplicateEventError"
  | .store (.eventConflict ..) => "EventConflictError"
  | .store (.invalidStateTransition _) => "InvalidStateTransition"
  | .store (.valueError _) | .valueError _ => "ValueError"
  | .store .integrityError => "IntegrityError"
  | .sqlSafety _ => "SQLSafetyError"
  | .runtimeError _ => "RuntimeError"
  | .stopIteration => "StopIteration"
  | .external _ typeName | .exit typeName => typeName

/-! ### The store -/

/-- A transaction of the event store. -/
inductive StoreOp where
  | findCaseForDedup (dedupKey : String)
  | findCaseForEventId (eventId caseId : String) (state : CaseState) (body : EventBody)
      (dedupKey : Option String)
  | getCase (caseId : String)
  | caseIdExists (caseId : String)
  | append (caseId : String) (state : CaseState) (body : EventBody) (dedupKey eventId : Option String)
  | reset (reason : String)
  deriving DecidableEq

abbrev StoreOp.Reply : StoreOp → Type
  | .findCaseForDedup _ => Option String
  | .findCaseForEventId .. => Option String
  | .getCase _ => CaseSnapshot
  | .caseIdExists _ => Bool
  | .append .. => CaseEvent
  | .reset _ => Nat

/-- Run a transaction, given the event id it may generate and the time. -/
def StoreOp.run (fresh : String) (now : Timestamp) : (op : StoreOp) → Store →
    Except StoreError op.Reply × Store
  | .findCaseForDedup dedupKey, store => (.ok (store.findCaseForDedup dedupKey), store)
  | .findCaseForEventId eventId caseId state body dedupKey, store =>
    (store.findCaseForEventId eventId caseId state body dedupKey, store)
  | .getCase caseId, store => (store.getCase caseId, store)
  | .caseIdExists caseId, store => (.ok (store.caseIdExists caseId), store)
  | .append caseId state body dedupKey eventId, store =>
    match store.append fresh now caseId state body dedupKey eventId with
    | .ok (event, written) => (.ok event, written)
    | .error error => (.error error, store)
  | .reset reason, store =>
    match store.reset fresh now reason with
    | .ok (sequence, written) => (.ok sequence, written)
    | .error error => (.error error, store)

/-! ### Process memory -/

/-- The worker lock and the two sets under `_active_cases_lock`. -/
inductive MemoryOp where
  | acquire
  | release
  /-- `_case_is_owned_by_process` -/
  | owned (caseId : String)
  | activate (caseId : String)
  | deactivate (caseId : String) (completed : Bool)
  deriving DecidableEq

abbrev MemoryOp.Reply : MemoryOp → Type
  | .owned _ => Bool
  | .acquire | .release | .activate _ | .deactivate .. => Unit

/-! ### Adapters -/

/-- The report `write_evidence_report` is given. -/
inductive Report where
  | safeRepairValidated (selectedCandidate : CandidateAssessment) (patchSha256 : String)
  | recovered (mergedCommitSha : String) (postDeployChecks : List PolicyCheck)
  | autoRepairRefused (reasons : List String)
  deriving DecidableEq

structure McpContextResult where
  integration : IntegrationResult
  context : List (String × Json) := []
  deriving DecidableEq

structure CandidateExecution where
  semanticVerdict : SemanticVerdict
  evidenceRefs : List String
  reconciliation : ReconciliationMetrics
  build : BuildResult
  deriving DecidableEq

/-- The configured evidence executor, or its clone bound to a checkout. -/
inductive ExecutorRef where
  | configured
  | boundTo (checkoutRoot : String)
  deriving DecidableEq, Repr

/-- A call that leaves the service and its store. -/
inductive AdapterOp where
  | raiseIncident (assetUrn caseId description : String)
  | resolveIncident (incidentUrn : String)
  | fetchContext (assetUrn : String)
  | writeEvidenceReport (assetUrn caseId : String) (report : Report) (degraded : Bool)
  | propose (event : SchemaChangeEvent) (context : ContextBundle)
  | execute (executor : ExecutorRef) (caseId : String) (proposal : CandidateProposal)
      (context : ContextBundle)
  | createDraft (caseId : String) (patch : PatchArtifact)
  /-- `(repo_root / patch_path).read_text(encoding="utf-8")` -/
  | readText (repoRoot patchPath : String)
  /-- `getattr(executor, "produces_live_evidence", False) is True` -/
  | producesLiveEvidence (executor : ExecutorRef)
  | resolvePath (path : String)
  | makeDirectory (path : String)
  | makeTemporaryDirectory (parent namePrefix : String)
  | removeTemporaryDirectory (path : String)
  /-- `subprocess.run(["git", *arguments], cwd=repo, check=check, timeout=timeout)`, its output -/
  | git (repo : String) (arguments : List String) (check : Bool) (timeout : Nat)
  /-- `callable(getattr(self.executor, "bind_to_checkout", None))` -/
  | canBindToCheckout
  | bindToCheckout (checkoutRoot repositoryRoot : String)
  deriving DecidableEq

abbrev AdapterOp.Reply : AdapterOp → Type
  | .raiseIncident .. | .resolveIncident _ | .writeEvidenceReport .. => IntegrationResult
  | .fetchContext _ => McpContextResult
  | .propose .. => CandidateGenerationResult
  | .execute .. => CandidateExecution
  | .createDraft .. => PullRequestArtifact
  | .readText .. | .resolvePath _ | .makeTemporaryDirectory .. => String
  | .producesLiveEvidence _ | .canBindToCheckout => Bool
  | .git .. => List UInt8
  | .makeDirectory _ | .removeTemporaryDirectory _ | .bindToCheckout .. => Unit

/-! ### Operations -/

inductive Op where
  | store (op : StoreOp)
  | memory (op : MemoryOp)
  | adapter (op : AdapterOp)
  deriving DecidableEq

abbrev Op.Reply : Op → Type
  | .store op => op.Reply
  | .memory op => op.Reply
  | .adapter op => op.Reply

/-- A program of the service. -/
abbrev Flow := Program Op Op.Reply Exn

namespace Flow

def store (op : StoreOp) : Flow op.Reply := .call (.store op) .done

def memory (op : MemoryOp) : Flow op.Reply := .call (.memory op) .done

def adapter (op : AdapterOp) : Flow op.Reply := .call (.adapter op) .done

/-- `except Exception as error: handler` -/
def exceptException {α : Type} (program : Flow α) (handler : Exn → Flow α) : Flow α :=
  program.tryCatch fun error => if error.isException then handler error else .throw error

end Flow

end DataRescue
