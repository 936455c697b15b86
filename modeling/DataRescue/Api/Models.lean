import DataRescue.Python.Json

/-!
# API models

The records of `apps/api/models.py`. Bounds that pydantic checks are fields of the records, so an
out-of-range schema event or deployment request cannot be built. A timestamp is a number of
microseconds. The payload of a case event is typed by its event type: `EventBody` has one constructor
for every shape the service writes.
-/

namespace DataRescue

open Python

abbrev Timestamp := Nat

inductive CaseState where
  | detected | contextGathered | candidatesReady | validating | patchReady | prOpen | deployed
  | postDeployVerified | resolved | contained | failed
  deriving DecidableEq, Repr

/-- The value of the string enumeration. -/
def CaseState.value : CaseState → String
  | .detected => "DETECTED"
  | .contextGathered => "CONTEXT_GATHERED"
  | .candidatesReady => "CANDIDATES_READY"
  | .validating => "VALIDATING"
  | .patchReady => "PATCH_READY"
  | .prOpen => "PR_OPEN"
  | .deployed => "DEPLOYED"
  | .postDeployVerified => "POST_DEPLOY_VERIFIED"
  | .resolved => "RESOLVED"
  | .contained => "CONTAINED"
  | .failed => "FAILED"

inductive EventType where
  | systemReset | schemaChangeDetected | incidentRaised | contextGathered | candidatesReady
  | validationStarted | candidateAssessed | patchReady | evidenceWritten | prAttempted | prOpened
  | deploymentRecorded | postDeployVerified | incidentResolved | contained | failed
  deriving DecidableEq, Repr

inductive IntegrationStatus where
  | succeeded | recordedReplay | notConfigured | notRun | failed
  deriving DecidableEq, Repr

def IntegrationStatus.value : IntegrationStatus → String
  | .succeeded => "SUCCEEDED"
  | .recordedReplay => "RECORDED_REPLAY"
  | .notConfigured => "NOT_CONFIGURED"
  | .notRun => "NOT_RUN"
  | .failed => "FAILED"

/-- What an external integration reports about one operation. -/
structure IntegrationResult where
  status : IntegrationStatus
  operation : String
  message : String
  resourceId : Option String := none
  evidenceRefs : List String := []
  details : List (String × Json) := []
  deriving DecidableEq

structure SchemaField where
  name : String
  dataType : String := "unknown"
  nullable : Bool := true
  name_length : 1 ≤ name.length ∧ name.length ≤ 255
  dataType_length : dataType.length ≤ 128
  deriving DecidableEq

/-- A schema transition of one dataset, as the metadata log reports it. -/
structure SchemaChangeEvent where
  eventId : Option String := none
  entityUrn : String
  beforeFields : List SchemaField
  afterFields : List SchemaField
  observedAt : Timestamp
  source : String := "DATAHUB_MCL"
  entityUrn_length : 1 ≤ entityUrn.length ∧ entityUrn.length ≤ 2048
  source_length : source.length ≤ 64
  deriving DecidableEq

structure CandidateProposal where
  id : String
  sourceField : String
  targetAlias : String := "revenue"
  rationale : String
  semanticEvidence : List String := []
  deriving DecidableEq

inductive SemanticVerdict where
  | «match» | conflict | missing
  deriving DecidableEq, Repr

def SemanticVerdict.value : SemanticVerdict → String
  | .match => "MATCH"
  | .conflict => "CONFLICT"
  | .missing => "MISSING"

inductive CandidateOutcome where
  | rejected | eligible | selected
  deriving DecidableEq, Repr

structure ReconciliationMetrics where
  totalVariancePct : PyFloat
  rowCountVariancePct : PyFloat
  primaryKeyOverlapPct : PyFloat
  nullRateDeltaPercentagePoints : PyFloat
  currentRowCount : Option Int := none
  baselineRowCount : Option Int := none
  evidenceRefs : List String := []
  deriving DecidableEq

structure BuildResult where
  passed : Bool
  passedChecks : Int := 0
  totalChecks : Int := 0
  command : String := "dbt build"
  evidenceRefs : List String := []
  summary : String := ""
  deriving DecidableEq

structure PolicyCheck where
  name : String
  passed : Bool
  observed : String
  requirement : String
  deriving DecidableEq

structure CandidateAssessment where
  id : String
  sourceField : String
  targetAlias : String
  rationale : String
  semanticVerdict : SemanticVerdict
  evidenceRefs : List String
  reconciliation : ReconciliationMetrics
  build : BuildResult
  policyChecks : List PolicyCheck := []
  outcome : CandidateOutcome := .rejected
  deriving DecidableEq

structure ContextBundle where
  assetUrn : String
  glossaryDefinition : Option String := none
  owner : Option String := none
  lineageUrns : List String := []
  contextDocuments : List String := []
  lineageCurrent : Bool := false
  source : String
  integration : IntegrationResult
  deriving DecidableEq

structure PatchArtifact where
  path : String
  content : String
  sha256 : String
  deriving DecidableEq

structure PullRequestArtifact where
  integration : IntegrationResult
  branch : Option String := none
  url : Option String := none
  bundlePath : Option String := none
  deriving DecidableEq

/-! ### Case events -/

/-- The payload of a case event. -/
inductive EventBody where
  | systemReset (reason : String)
  | schemaChangeDetected (schemaChange : SchemaChangeEvent) (incidentUrn : String)
  | incidentRaised (integration : IntegrationResult)
  | contextGathered (context : ContextBundle)
  | candidatesReady (candidates : List CandidateProposal) (generationIntegration : IntegrationResult)
  | validationStarted (candidateCount : Nat) (executionMode : String)
  | candidateAssessed (assessment : CandidateAssessment)
  | patchReady (selectedCandidate : CandidateAssessment) (patch : PatchArtifact)
  | evidenceWritten (integration : IntegrationResult)
  | prAttempted (pullRequest : PullRequestArtifact)
  | prOpened (pullRequest : PullRequestArtifact)
  | deploymentRecorded (mergedCommitSha evidenceMode : String)
  | postDeployVerified (mergedCommitSha evidenceMode : String)
      (reconciliation : ReconciliationMetrics) (build : BuildResult) (checks : List PolicyCheck)
  | incidentResolved (integration : IntegrationResult)
  | contained (reasons : List String) (evidenceWriteback : IntegrationResult) (guardExitCode : Nat)
  | failed (errorType : Option String) (message : String) (integration : Option IntegrationResult)
  deriving DecidableEq

def EventBody.eventType : EventBody → EventType
  | .systemReset .. => .systemReset
  | .schemaChangeDetected .. => .schemaChangeDetected
  | .incidentRaised .. => .incidentRaised
  | .contextGathered .. => .contextGathered
  | .candidatesReady .. => .candidatesReady
  | .validationStarted .. => .validationStarted
  | .candidateAssessed .. => .candidateAssessed
  | .patchReady .. => .patchReady
  | .evidenceWritten .. => .evidenceWritten
  | .prAttempted .. => .prAttempted
  | .prOpened .. => .prOpened
  | .deploymentRecorded .. => .deploymentRecorded
  | .postDeployVerified .. => .postDeployVerified
  | .incidentResolved .. => .incidentResolved
  | .contained .. => .contained
  | .failed .. => .failed

structure CaseEvent where
  sequence : Nat
  eventId : String
  caseId : String
  state : Option CaseState
  body : EventBody
  createdAt : Timestamp
  deriving DecidableEq

def CaseEvent.eventType (event : CaseEvent) : EventType := event.body.eventType

inductive IncidentStatus where
  | active | resolved
  deriving DecidableEq, Repr

/-- The read model of a case, rebuilt from its events at every read. -/
structure CaseSnapshot where
  id : String
  assetUrn : String
  state : CaseState
  createdAt : Timestamp
  updatedAt : Timestamp
  schemaChange : SchemaChangeEvent
  incidentUrn : String
  incidentStatus : IncidentStatus := .active
  incidentIntegration : Option IntegrationResult := none
  context : Option ContextBundle := none
  candidateGeneration : Option IntegrationResult := none
  candidateProposals : List CandidateProposal := []
  candidates : List CandidateAssessment := []
  selectedCandidate : Option CandidateAssessment := none
  patch : Option PatchArtifact := none
  evidenceWriteback : Option IntegrationResult := none
  pullRequest : Option PullRequestArtifact := none
  containmentReasons : List String := []
  deploymentCommit : Option String := none
  events : List CaseEvent := []
  deriving DecidableEq

structure SchemaChangeResponse where
  case : CaseSnapshot
  deduplicated : Bool
  deriving DecidableEq

/-- The thresholds are the decimals the source writes. The two that binary64 does not hold, `0.1` and
`99.9`, are compared there as their nearest doubles, within one part in `2 ^ 53` of these. -/
structure PolicyConfig where
  semanticEvidenceRequired : Bool := true
  maxTotalVariancePct : PyFloat := .finite (1 / 2)
  maxRowCountVariancePct : PyFloat := .finite (1 / 10)
  minPrimaryKeyOverlapPct : PyFloat := .finite (999 / 10)
  maxNullRateDeltaPercentagePoints : PyFloat := .finite (1 / 2)
  dbtBuildRequired : Bool := true
  lineageMustBeCurrent : Bool := true
  deriving DecidableEq

/-- `^[0-9a-fA-F]{7,64}$` -/
def commitShaPattern (sha : String) : Prop :=
  7 ≤ sha.length ∧ sha.length ≤ 64 ∧
    ∀ c ∈ sha.toList, ('0' ≤ c ∧ c ≤ '9') ∨ ('a' ≤ c ∧ c ≤ 'f') ∨ ('A' ≤ c ∧ c ≤ 'F')

instance (sha : String) : Decidable (commitShaPattern sha) := by
  unfold commitShaPattern
  exact @instDecidableAnd _ _ _ (@instDecidableAnd _ _ _ (List.decidableBAll _ sha.toList))

structure VerifyDeploymentRequest where
  mergedCommitSha : String
  reconciliation : ReconciliationMetrics
  build : BuildResult
  semanticVerdict : SemanticVerdict := .match
  lineageCurrent : Bool := true
  mergedCommitSha_pattern : commitShaPattern mergedCommitSha
  build_checks : build.passed = true → build.passedChecks ≤ build.totalChecks
  deriving DecidableEq

end DataRescue
