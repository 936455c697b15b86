import DataRescue.Remediation.RemoteUrl
import DataRescue.Workflow.Ingest

/-!
# Verifying a deployment

`verify_deployment` of `apps/api/workflow.py`. In postgres mode the evidence is recomputed by
`livePostDeployEvidence` from the commit at the tip of the fetched base branch; in every other mode it
is the caller's, and a live incident is refused. The calls after the deployment record are not
guarded.
-/

namespace DataRescue

open Python Concurrency

/-- The evidence a verification decides on. -/
structure DeploymentEvidence where
  semanticVerdict : SemanticVerdict
  reconciliation : ReconciliationMetrics
  build : BuildResult
  lineageCurrent : Bool
  verifiedCommit : String
  evidenceMode : String
  deriving DecidableEq

/-- The exceptions of `subprocess.run` that the git helper turns into a `ValueError`. -/
def Exn.gitFailure : Exn → Bool
  | .external .osError _ | .external .calledProcessError _ | .external .timeoutExpired _ => true
  | _ => false

/-- `except (OSError, subprocess.SubprocessError)` -/
def Exn.cleanupFailure : Exn → Bool
  | .external .osError _ | .external .calledProcessError _ | .external .timeoutExpired _ |
    .external .subprocessError _ => true
  | _ => false

/-- The git helper of `_live_post_deploy_evidence`. -/
def git (repo : String) (arguments : List String) (timeout : Nat) : Flow (List UInt8) :=
  (Flow.adapter (.git repo arguments true timeout)).tryCatch fun error =>
    .throw (if error.gitFailure then
      .valueError s!"Merged commit verification failed: {error.typeName}" else error)

/-- One command of `_cleanup_worktree`, whose failure is ignored. -/
def cleanupCommand (repo : String) (arguments : List String) : Flow Unit :=
  (do let _ ← Flow.adapter (.git repo arguments false 30); pure ()).tryCatch fun error =>
    if error.cleanupFailure then pure () else .throw error

/-- `_cleanup_worktree` -/
def cleanupWorktree (repo checkout : String) : Flow Unit := do
  cleanupCommand repo ["worktree", "remove", "--force", checkout]
  cleanupCommand repo ["worktree", "prune"]

/-- `if condition: raise ValueError(message)` -/
def refuseIf (condition : Bool) (message : String) : Flow Unit :=
  if condition then .throw (.valueError message) else pure ()

/-- `bytes.decode(...)`, its failure turned into a `ValueError`. -/
def decoded (text : Option String) (message : String) : Flow String :=
  match text with
  | some text => pure text
  | none => .throw (.valueError message)

/-- A full commit id. -/
def canonicalCommit (commit : String) : Bool :=
  (commit.length = 40 || commit.length = 64) && commit.toList.all isHexDigit

/-- The incident of the case was raised for real. -/
def CaseSnapshot.liveIncident (case : CaseSnapshot) : Bool :=
  case.incidentIntegration.any (·.status = .succeeded)

namespace Service

variable (service : Service)

/-- The patch paths are relative, free of `..` and equal. -/
def checkPatchPaths (storedPath : String) : Flow Unit := do
  let configured := PosixPath.parse service.settings.githubPatchPath
  let stored := PosixPath.parse storedPath
  refuseIf (configured.isAbsolute || configured.parts.contains ".." || stored.isAbsolute ||
    stored.parts.contains "..") "Configured patch path is not repository-relative"
  refuseIf (stored ≠ configured) "Stored patch path does not match the configured repository path"

/-- The origin is the configured repository. -/
def checkOrigin (repo : String) : Flow Unit := do
  let output ← git repo ["remote", "get-url", "origin"] 30
  let originUrl ← decoded (decodeUtf8 output) "Git origin fetch URL is not valid UTF-8"
  match githubRepositoryFromRemoteUrl (strip originUrl) with
  | none => .throw (.external .other "ValueError")
  | some originRepository =>
    refuseIf (originRepository.map casefold ≠
        some (casefold (strip service.settings.githubRepository)))
      "Git origin fetch URL does not match the configured GitHub repository"

def trustedBaseRef : String := s!"refs/remotes/origin/{service.settings.githubBaseBranch}"

/-- Resolve a revision to the commit id git prints. -/
def revParse (repo revision : String) : Flow String := do
  let output ← git repo ["rev-parse", "--verify", revision ++ "^\x7bcommit\x7d"] 30
  let text ← decoded (decodeAscii output) "Verified commit id is not valid ASCII"
  pure (strip text)

/-- The commit at the tip of the freshly fetched base branch, which must be the requested one. -/
def verifiedBaseTip (repo mergedCommitSha : String) : Flow String := do
  let baseBranch := service.settings.githubBaseBranch
  let _ ← git repo ["check-ref-format", "--branch", baseBranch] 30
  service.checkOrigin repo
  let _ ← git repo ["fetch", "--quiet", "--no-tags", "origin",
    s!"+refs/heads/{baseBranch}:{service.trustedBaseRef}"] 60
  let _ ← git repo ["cat-file", "-e", service.trustedBaseRef ++ "^\x7bcommit\x7d"] 30
  let trustedBaseTip ← revParse repo service.trustedBaseRef
  let requestedCommit ← revParse repo mergedCommitSha
  refuseIf (!canonicalCommit trustedBaseTip || !canonicalCommit requestedCommit)
    "Git did not return a canonical full commit id"
  refuseIf (casefold requestedCommit ≠ casefold trustedBaseTip)
    "Merged commit must exactly match the fetched origin/base tip"
  pure trustedBaseTip

/-- The commit holds the stored patch, byte for byte. -/
def checkMergedPatch (repo verifiedCommit : String) (patch : PatchArtifact) : Flow Unit := do
  let storedPatch := encode patch.content
  refuseIf (service.sha256 storedPatch ≠ casefold patch.sha256)
    "Stored patch artifact hash does not match its content"
  let mergedPatch ← git repo
    ["show", s!"{verifiedCommit}:{(PosixPath.parse patch.path).asPosix}"] 30
  refuseIf (service.sha256 mergedPatch ≠ casefold patch.sha256 || mergedPatch ≠ storedPatch)
    "Merged commit does not contain the exact validated patch artifact"

/-- Execute the selected proposal in an executor bound to the checkout. -/
def executeVerified (repo checkout caseId : String) (proposal : CandidateProposal)
    (context : ContextBundle) : Flow CandidateExecution := do
  let binder : Bool ← Flow.adapter .canBindToCheckout
  refuseIf (!binder) "Live evidence executor cannot bind to a verified git checkout"
  Flow.adapter (.bindToCheckout checkout repo)
  let live : Bool ← Flow.adapter (.producesLiveEvidence (.boundTo checkout))
  refuseIf (!live) "Verified-checkout executor does not produce live evidence"
  Flow.exceptException (Flow.adapter (.execute (.boundTo checkout) caseId proposal context))
    fun error => .throw (.valueError
      s!"Post-deploy live evidence execution failed: {error.typeName}")

/-- Execute in a temporary worktree of the verified commit. -/
def executeInCheckout (repo caseId verifiedCommit : String) (proposal : CandidateProposal)
    (context : ContextBundle) : Flow CandidateExecution := do
  Flow.adapter (.makeDirectory service.settings.runtimeDir)
  let temporaryRoot : String ← Flow.adapter (.makeTemporaryDirectory service.settings.runtimeDir
    s!"verify-{casefold caseId}-")
  let checkout := temporaryRoot ++ "/checkout"
  Program.tryFinally
    (do
      let _ ← git repo ["worktree", "add", "--detach", checkout, verifiedCommit] 60
      (executeVerified repo checkout caseId proposal context).tryFinally
        fun _ => cleanupWorktree repo checkout)
    fun _ => Flow.adapter (.removeTemporaryDirectory temporaryRoot)

/-- `_live_post_deploy_evidence` -/
def livePostDeployEvidence (case : CaseSnapshot) (mergedCommitSha : String) :
    Flow DeploymentEvidence := do
  match case.selectedCandidate, case.patch with
  | none, _ => .throw (.valueError "Case has no selected candidate")
  | some _, none => .throw (.valueError "Case has no stored patch artifact to verify")
  | some selected, some patch =>
    let repo : String ← Flow.adapter (.resolvePath service.settings.githubRepoRoot)
    service.checkPatchPaths patch.path
    let verifiedCommit ← service.verifiedBaseTip repo mergedCommitSha
    service.checkMergedPatch repo verifiedCommit patch
    let context ← service.context case.assetUrn
    refuseIf (context.source ≠ "DATAHUB_MCP" || context.integration.status ≠ .succeeded)
      "Fresh live DataHub context is required for post-deploy verification"
    let proposal : CandidateProposal :=
      { id := selected.id
        sourceField := selected.sourceField
        targetAlias := selected.targetAlias
        rationale := selected.rationale
        semanticEvidence := selected.evidenceRefs }
    let execution ← service.executeInCheckout repo case.id verifiedCommit proposal context
    pure
      { semanticVerdict := execution.semanticVerdict
        reconciliation := execution.reconciliation
        build := execution.build
        lineageCurrent := context.lineageCurrent
        verifiedCommit
        evidenceMode := "LIVE_RECOMPUTED" }

/-- The evidence for a deployment, by execution mode. -/
def deploymentEvidence (case : CaseSnapshot) (request : VerifyDeploymentRequest) :
    Flow DeploymentEvidence := do
  if service.settings.postgres then
    let live : Bool ← Flow.adapter (.producesLiveEvidence .configured)
    refuseIf (!live)
      "Post-deploy verification requires an executor that explicitly produces live evidence"
    service.livePostDeployEvidence case request.mergedCommitSha
  else
    refuseIf case.liveIncident
      "Resolving a live incident requires postgres execution mode to recompute post-deploy evidence"
    pure
      { semanticVerdict := request.semanticVerdict
        reconciliation := request.reconciliation
        build := request.build
        lineageCurrent := request.lineageCurrent
        verifiedCommit := request.mergedCommitSha
        evidenceMode := "RECORDED_REPLAY_INPUT" }

/-- Fail the case on an integration that did not succeed. -/
def failDeployment (caseId message : String) (integration : IntegrationResult) :
    Flow CaseSnapshot := do
  let _ ← Flow.store (.append caseId .failed (.failed none message (some integration)) none none)
  Flow.store (.getCase caseId)

/-- Resolve the incident of a verified case. -/
def resolveDeployment (case : CaseSnapshot) (caseId : String) : Flow CaseSnapshot := do
  let resolution : IntegrationResult ← Flow.adapter (.resolveIncident case.incidentUrn)
  if case.liveIncident && resolution.status ≠ .succeeded then
    failDeployment caseId "Data recovered, but the remote incident could not be resolved" resolution
  else
    let _ ← Flow.store (.append caseId .resolved (.incidentResolved resolution) none none)
    Flow.store (.getCase caseId)

/-- The part after the evidence is at hand. -/
def settleDeployment (case : CaseSnapshot) (caseId : String) (evidence : DeploymentEvidence) :
    Flow CaseSnapshot := do
  let _ ← Flow.store (.append caseId .deployed
    (.deploymentRecorded evidence.verifiedCommit evidence.evidenceMode) none none)
  let decision := PolicyEngine.evaluate service.policy evidence.semanticVerdict
    evidence.reconciliation evidence.build evidence.lineageCurrent
  if !decision.accepted then
    contain caseId case.assetUrn decision.reasons
    Flow.store (.getCase caseId)
  else
    let _ ← Flow.store (.append caseId .postDeployVerified
      (.postDeployVerified evidence.verifiedCommit evidence.evidenceMode evidence.reconciliation
        evidence.build decision.checks) none none)
    let finalWriteback : IntegrationResult ← Flow.adapter
      (.writeEvidenceReport case.assetUrn caseId
        (.recovered evidence.verifiedCommit decision.checks) false)
    if case.liveIncident && finalWriteback.status ≠ .succeeded then
      failDeployment caseId
        ("Post-deploy data passed, but final DataHub evidence write-back failed; incident remains " ++
          "active") finalWriteback
    else resolveDeployment case caseId

/-- `_verify_deployment_locked` -/
def verifyDeploymentLocked (caseId : String) (request : VerifyDeploymentRequest) :
    Flow CaseSnapshot := do
  let case : CaseSnapshot ← Flow.store (.getCase caseId)
  refuseIf (case.state ≠ .prOpen) "Post-deploy verification requires a real draft PR in PR_OPEN"
  refuseIf (case.selectedCandidate = none) "Case has no selected candidate"
  let evidence ← service.deploymentEvidence case request
  service.settleDeployment case caseId evidence

/-- `verify_deployment` -/
def verifyDeployment (caseId : String) (request : VerifyDeploymentRequest) : Flow CaseSnapshot :=
  withWorkerLock (service.verifyDeploymentLocked caseId request)

end Service

end DataRescue
