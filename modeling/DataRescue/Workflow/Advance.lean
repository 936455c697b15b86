import DataRescue.Policy.Engine
import DataRescue.Workflow.Operations

/-!
# Advancing a case

`_advance` of `apps/api/workflow.py` and what it calls. Each stage reads the case again, reuses the
checkpoint its log holds, or computes and appends it; a stage that ends the advance returns nothing.
-/

namespace DataRescue

open Python Concurrency

/-- What a `WorkflowService` is configured with: its settings, the configuration of its policy engine
and `sha256(data).hexdigest()`. -/
structure Service where
  settings : Settings := {}
  policy : PolicyConfig := {}
  sha256 : List UInt8 → String

/-- `_INGEST_RESUMABLE_STATES` -/
def CaseState.ingestResumable : CaseState → Bool
  | .detected | .contextGathered | .candidatesReady | .validating | .patchReady => true
  | _ => false

/-! ### Values -/

/-- `_string_value` -/
def stringValue : Option Json → Option String
  | some (.str value) => some value
  | _ => none

/-- `_owner_value` -/
def ownerValue : Option Json → Option String
  | some (.str value) => some value
  | some (.obj fields) => ["name", "urn", "id"].findSome? fun key => stringValue (getField fields key)
  | _ => none

/-- `_string_list` -/
def stringList : Option Json → List String
  | some (.arr items) => items.filterMap fun item => stringValue (some item)
  | _ => []

/-- `_failed_execution` -/
def failedExecution (errorType : String) : CandidateExecution where
  semanticVerdict := .missing
  evidenceRefs := []
  reconciliation :=
    { totalVariancePct := .finite 1000000000
      rowCountVariancePct := .finite 1000000000
      primaryKeyOverlapPct := .finite 0
      nullRateDeltaPercentagePoints := .finite 1000000000 }
  build :=
    { passed := false
      summary := s!"Candidate execution failed ({errorType}); no success was claimed" }

/-- `assessments_by_id.get(id)`: a later assessment replaces an earlier one. -/
def assessmentById (assessments : List CandidateAssessment) (id : String) :
    Option CandidateAssessment :=
  (assessments.filter (·.id = id)).getLast?

/-- The reasons an existing assessment contributes. -/
def failedChecks (sourceField : String) (assessment : CandidateAssessment) : List String :=
  (assessment.policyChecks.filter fun check => !check.passed).map fun check =>
    s!"{sourceField}: {check.name}"

/-- The lexicographic order of the selection keys
`(abs(total_variance_pct), abs(row_count_variance_pct), source_field)`. -/
def selectionLt (first second : CandidateAssessment) : Bool :=
  let total := first.reconciliation.totalVariancePct.abs
  let total' := second.reconciliation.totalVariancePct.abs
  let rows := first.reconciliation.rowCountVariancePct.abs
  let rows' := second.reconciliation.rowCountVariancePct.abs
  if !total.eq total' then total.lt total'
  else if !rows.eq rows' then rows.lt rows'
  else decide (first.sourceField < second.sourceField)

/-- `min(items, key=…)`: the first of the smallest items. -/
def selectMin : List CandidateAssessment → Option CandidateAssessment
  | [] => none
  | first :: rest =>
    some (rest.foldl (fun best item => if selectionLt item best then item else best) first)

def CandidateOutcome.repairable : CandidateOutcome → Bool
  | .eligible | .selected => true
  | .rejected => false

def ContextBundle.complete (context : ContextBundle) : Bool :=
  context.glossaryDefinition ≠ none && context.glossaryDefinition ≠ some "" && context.lineageCurrent

namespace Service

variable (service : Service)

/-! ### Shared steps -/

/-- The context a successful or a recorded answer stands for. -/
def contextBundle (assetUrn : String) (result : McpContextResult) : ContextBundle :=
  let raw := result.context
  if result.integration.status = .succeeded then
    { assetUrn
      glossaryDefinition := stringValue (getField raw "glossary_definition")
      owner := ownerValue (getField raw "owner")
      lineageUrns := stringList (getField raw "lineage_urns")
      contextDocuments := stringList (getField raw "context_documents")
      lineageCurrent := ((getField raw "lineage_current").map Json.truthy).getD false
      source := "DATAHUB_MCP"
      integration := result.integration }
  else if service.settings.replayMode then
    { assetUrn
      glossaryDefinition :=
        some "Recognized revenue is the net settled amount after processing fees."
      owner := some "Finance Data (demo fixture)"
      lineageUrns :=
        [assetUrn,
         "urn:li:dataset:(urn:li:dataPlatform:dbt,datarescue.analytics.stg_payments,PROD)",
         "urn:li:dataset:(urn:li:dataPlatform:dbt,datarescue.analytics.fct_revenue,PROD)"]
      contextDocuments :=
        ["urn:li:glossaryTerm:NetRevenue", "artifact://replay/artifacts/context-bundle.json"]
      lineageCurrent := true
      source := "RECORDED_REPLAY"
      integration :=
        { result.integration with
          details := setField (setField result.integration.details "fallback"
            (.str "RECORDED_REPLAY")) "live_status" (.str result.integration.status.value) } }
  else { assetUrn, source := "UNAVAILABLE", integration := result.integration }

/-- `_context` -/
def context (assetUrn : String) : Flow ContextBundle := do
  let result ← Flow.adapter (.fetchContext assetUrn)
  pure (service.contextBundle assetUrn result)

/-- `_contain` -/
def contain (caseId assetUrn : String) (reasons : List String) : Flow Unit := do
  let concise := if reasons.take 20 = [] then ["No candidate satisfies recovery policy"]
    else reasons.take 20
  let writeback ← Flow.adapter
    (.writeEvidenceReport assetUrn caseId (.autoRepairRefused concise) true)
  let _ ← Flow.store (.append caseId .contained (.contained concise writeback 75) none none)
  pure ()

/-- `_connected_integration_ready` -/
def connectedIntegrationReady (caseId : String) (integration : IntegrationResult) (label : String) :
    Flow Bool := do
  if service.settings.replayMode || integration.status = .succeeded then pure true
  else
    let _ ← Flow.store (.append caseId .failed
      (.failed none s!"{label} is required in connected mode" (some integration)) none none)
    pure false

/-! ### Stages -/

/-- The incident of the case. -/
def incidentStage (caseId : String) (event : SchemaChangeEvent) (case : CaseSnapshot) :
    Flow IntegrationResult := do
  match case.incidentIntegration with
  | some integration => pure integration
  | none =>
    let integration ← Flow.adapter (.raiseIncident event.entityUrn caseId
      "Schema drift detected. DataRescue is gathering evidence; no repair has shipped.")
    let _ ← Flow.store (.append caseId .detected (.incidentRaised integration) none none)
    pure integration

/-- The context of the case, unless it is incomplete and the case is contained. -/
def contextStage (caseId : String) (event : SchemaChangeEvent) : Flow (Option ContextBundle) := do
  let case ← Flow.store (.getCase caseId)
  match case.context with
  | none =>
    let context ← service.context event.entityUrn
    if !context.complete then
      contain caseId event.entityUrn
        ["Required semantic context or current lineage is unavailable"]
      pure none
    else
      let _ ← Flow.store (.append caseId .contextGathered (.contextGathered context) none none)
      pure (some context)
  | some context =>
    if !context.complete then
      contain caseId event.entityUrn ["Persisted semantic context or lineage is incomplete"]
      pure none
    else pure (some context)

/-- The proposals of the case. -/
def proposalStage (caseId : String) (event : SchemaChangeEvent) (context : ContextBundle) :
    Flow (Option (List CandidateProposal)) := do
  let case ← Flow.store (.getCase caseId)
  match case.candidateGeneration, case.candidateProposals with
  | some integration, first :: rest =>
    let ready ← service.connectedIntegrationReady caseId integration "OpenAI candidate generation"
    pure (if ready then some (first :: rest) else none)
  | _, _ =>
    let generated ← Flow.adapter (.propose event context)
    let ready ← service.connectedIntegrationReady caseId generated.integration
      "OpenAI candidate generation"
    if !ready then pure none
    else if generated.candidates = [] then
      contain caseId event.entityUrn ["No schema-compatible candidate exists"]
      pure none
    else
      let _ ← Flow.store (.append caseId .candidatesReady
        (.candidatesReady generated.candidates generated.integration) none none)
      pure (some generated.candidates)

/-- Refuse repeated proposal ids, and record that validation starts. -/
def validationStage (caseId : String) (proposals : List CandidateProposal) : Flow Unit := do
  if ¬(proposals.map CandidateProposal.id).Nodup then
    Program.throw (.valueError "Candidate proposal ids must be unique")
  else
    let case ← Flow.store (.getCase caseId)
    if case.state = .candidatesReady then
      let _ ← Flow.store (.append caseId .validating
        (.validationStarted proposals.length service.settings.executionMode) none none)
      pure ()
    else pure ()

/-- The assessment of one execution. -/
def assess (proposal : CandidateProposal) (context : ContextBundle) (execution : CandidateExecution) :
    CandidateAssessment × PolicyDecision :=
  let decision := PolicyEngine.evaluate service.policy execution.semanticVerdict
    execution.reconciliation execution.build context.lineageCurrent
  ({ id := proposal.id
     sourceField := proposal.sourceField
     targetAlias := proposal.targetAlias
     rationale := proposal.rationale
     semanticVerdict := execution.semanticVerdict
     evidenceRefs := execution.evidenceRefs
     reconciliation := execution.reconciliation
     build := execution.build
     policyChecks := decision.checks
     outcome := PolicyEngine.outcome decision }, decision)

/-- The loop over the proposals; `known` are the assessments so far. -/
def assessmentLoop (caseId : String) (context : ContextBundle) :
    List CandidateProposal → List CandidateAssessment → List String →
    Flow (List CandidateAssessment × List String)
  | [], known, reasons => pure (known, reasons)
  | proposal :: proposals, known, reasons =>
    match assessmentById known proposal.id with
    | some existing =>
      assessmentLoop caseId context proposals known
        (reasons ++ failedChecks proposal.sourceField existing)
    | none => do
      let execution ← Flow.exceptException
        (Flow.adapter (.execute .configured caseId proposal context))
        fun error => pure (failedExecution error.typeName)
      let (assessment, decision) := service.assess proposal context execution
      let _ ← Flow.store (.append caseId .validating (.candidateAssessed assessment) none none)
      assessmentLoop caseId context proposals (known ++ [assessment])
        (reasons ++ decision.reasons.map fun reason => s!"{proposal.sourceField}: {reason}")

/-- The assessments in the order of the proposals, and the reasons for the rejections. -/
def assessmentStage (caseId : String) (context : ContextBundle) (proposals : List CandidateProposal) :
    Flow (List CandidateAssessment × List String) := do
  let case ← Flow.store (.getCase caseId)
  let (known, reasons) ← service.assessmentLoop caseId context proposals case.candidates []
  pure (proposals.filterMap fun proposal => assessmentById known proposal.id, reasons)

/-- The repair of a selected proposal. -/
def patchOf (proposal : CandidateProposal) (existingSql : String) :
    Except SqlSafetyError PatchArtifact := do
  let content ← renderDbtPatch proposal existingSql
  pure { path := service.settings.githubPatchPath, content, sha256 := service.sha256 (encode content) }

/-- The selected candidate and its patch. -/
def patchStage (caseId : String) (proposals : List CandidateProposal)
    (eligible : List CandidateAssessment) : Flow (CandidateAssessment × PatchArtifact) := do
  let case ← Flow.store (.getCase caseId)
  match case.selectedCandidate, case.patch with
  | some selected, some patch => pure (selected, patch)
  | _, _ =>
    match selectMin eligible with
    | none => Program.throw (.valueError "min() arg is an empty sequence")
    | some best =>
      let selected := { best with outcome := .selected }
      match proposals.find? (·.id = selected.id) with
      | none => Program.throw .stopIteration
      | some proposal =>
        let existingSql ← Flow.adapter
          (.readText service.settings.githubRepoRoot service.settings.githubPatchPath)
        match service.patchOf proposal existingSql with
        | .error error => Program.throw (.sqlSafety error)
        | .ok patch =>
          let _ ← Flow.store (.append caseId .patchReady (.patchReady selected patch) none none)
          pure (selected, patch)

/-- The evidence write-back of the case. -/
def writebackStage (caseId : String) (event : SchemaChangeEvent) (selected : CandidateAssessment)
    (patch : PatchArtifact) : Flow IntegrationResult := do
  let case ← Flow.store (.getCase caseId)
  match case.evidenceWriteback with
  | some integration => pure integration
  | none =>
    let integration ← Flow.adapter (.writeEvidenceReport event.entityUrn caseId
      (.safeRepairValidated selected patch.sha256) false)
    let _ ← Flow.store (.append caseId .patchReady (.evidenceWritten integration) none none)
    pure integration

/-- Record a draft pull request that was opened. -/
def recordOpened (caseId : String) (pullRequest : PullRequestArtifact) : Flow Unit := do
  let _ ← Flow.store (.append caseId .prOpen (.prOpened pullRequest) none none)
  pure ()

/-- Open the draft, unless the case already holds an open one. -/
def pullRequestStage (caseId : String) (patch : PatchArtifact) : Flow Unit := do
  let case ← Flow.store (.getCase caseId)
  match case.pullRequest.filter (·.integration.status = .succeeded) with
  | some pullRequest =>
    if case.state = .patchReady then recordOpened caseId pullRequest else pure ()
  | none =>
    let pullRequest ← Flow.adapter (.createDraft caseId patch)
    if pullRequest.integration.status = .succeeded then recordOpened caseId pullRequest
    else
      let _ ← Flow.store (.append caseId .patchReady (.prAttempted pullRequest) none none)
      pure ()

/-- From the assessed proposals to the pull request. -/
def repair (caseId : String) (event : SchemaChangeEvent) (context : ContextBundle)
    (proposals : List CandidateProposal) : Flow Unit := do
  let (assessments, rejectionReasons) ← service.assessmentStage caseId context proposals
  let eligible := assessments.filter (·.outcome.repairable)
  if eligible = [] then contain caseId event.entityUrn rejectionReasons
  else
    let (selected, patch) ← service.patchStage caseId proposals eligible
    let writeback ← writebackStage caseId event selected patch
    let ready ← service.connectedIntegrationReady caseId writeback
      "DataHub patch evidence write-back"
    if !ready then pure () else pullRequestStage caseId patch

/-- From the incident to the assessed proposals. -/
def gather (caseId : String) (event : SchemaChangeEvent) : Flow Unit := do
  match ← service.contextStage caseId event with
  | none => pure ()
  | some context =>
    match ← service.proposalStage caseId event context with
    | none => pure ()
    | some proposals =>
      service.validationStage caseId proposals
      service.repair caseId event context proposals

/-- `_advance` -/
def advance (caseId : String) (event : SchemaChangeEvent) : Flow Unit := do
  let case ← Flow.store (.getCase caseId)
  if !case.state.ingestResumable then pure ()
  else
    let incident ← incidentStage caseId event case
    let ready ← service.connectedIntegrationReady caseId incident "DataHub incident creation"
    if !ready then pure () else service.gather caseId event

end Service

end DataRescue
