import DataRescue.Api.StateMachine

/-!
# Case projection

`project_case` of `apps/api/store.py`: a case snapshot is a left fold of `CaseSnapshot.apply` over the
events of the case, so one more event is one more step (`projectCase_snoc`). Only the state, the time
and the event list change at every event; each other field changes at the event types that carry it.
-/

namespace DataRescue

/-- `_replace_assessment` -/
def replaceAssessment (assessments : List CandidateAssessment) (selected : CandidateAssessment) :
    List CandidateAssessment :=
  assessments.map fun assessment => if assessment.id = selected.id then selected else assessment

namespace CaseSnapshot

/-- The effect of a payload on a snapshot. -/
def applyBody (snapshot : CaseSnapshot) : EventBody → CaseSnapshot
  | .incidentRaised integration =>
    { snapshot with
      incidentIntegration := some integration
      incidentUrn := match integration.resourceId with
        | some resourceId => if resourceId ≠ "" then resourceId else snapshot.incidentUrn
        | none => snapshot.incidentUrn }
  | .contextGathered context => { snapshot with context := some context }
  | .candidatesReady candidates generationIntegration =>
    { snapshot with
      candidateGeneration := some generationIntegration
      candidateProposals := candidates }
  | .candidateAssessed assessment =>
    { snapshot with candidates := snapshot.candidates ++ [assessment] }
  | .patchReady selectedCandidate patch =>
    { snapshot with
      selectedCandidate := some selectedCandidate
      candidates := replaceAssessment snapshot.candidates selectedCandidate
      patch := some patch }
  | .evidenceWritten integration => { snapshot with evidenceWriteback := some integration }
  | .prAttempted pullRequest | .prOpened pullRequest =>
    { snapshot with pullRequest := some pullRequest }
  | .deploymentRecorded mergedCommitSha _ =>
    { snapshot with deploymentCommit := some mergedCommitSha }
  | .incidentResolved _ => { snapshot with incidentStatus := .resolved }
  | .contained reasons evidenceWriteback _ =>
    { snapshot with
      incidentStatus := .active
      containmentReasons := reasons
      evidenceWriteback := some evidenceWriteback }
  | .systemReset _ | .schemaChangeDetected .. | .validationStarted .. | .postDeployVerified .. |
    .failed .. => snapshot

/-- One turn of the projection loop. -/
def apply (snapshot : CaseSnapshot) (event : CaseEvent) : CaseSnapshot :=
  { snapshot with
    state := event.state.getD snapshot.state
    updatedAt := event.createdAt
    events := snapshot.events ++ [event] }.applyBody event.body

/-- The snapshot the loop starts from. -/
def start (first : CaseEvent) (schemaChange : SchemaChangeEvent) (incidentUrn : String) :
    CaseSnapshot where
  id := first.caseId
  assetUrn := schemaChange.entityUrn
  state := .detected
  createdAt := first.createdAt
  updatedAt := first.createdAt
  schemaChange := schemaChange
  incidentUrn := incidentUrn

section

variable (snapshot : CaseSnapshot) (body : EventBody) (event : CaseEvent)

@[simp] theorem applyBody_id : (snapshot.applyBody body).id = snapshot.id := by cases body <;> rfl

@[simp] theorem applyBody_assetUrn : (snapshot.applyBody body).assetUrn = snapshot.assetUrn := by
  cases body <;> rfl

@[simp] theorem applyBody_state : (snapshot.applyBody body).state = snapshot.state := by
  cases body <;> rfl

@[simp] theorem applyBody_schemaChange :
    (snapshot.applyBody body).schemaChange = snapshot.schemaChange := by cases body <;> rfl

@[simp] theorem apply_id : (snapshot.apply event).id = snapshot.id := by simp [apply]

@[simp] theorem apply_assetUrn : (snapshot.apply event).assetUrn = snapshot.assetUrn := by
  simp [apply]

@[simp] theorem apply_state : (snapshot.apply event).state = event.state.getD snapshot.state := by
  simp [apply]

@[simp] theorem apply_schemaChange : (snapshot.apply event).schemaChange = snapshot.schemaChange := by
  simp [apply]

end

end CaseSnapshot

/-- `project_case`; `none` is its `ValueError`. -/
def projectCase : List CaseEvent → Option CaseSnapshot
  | [] => none
  | first :: rest =>
    match first.body with
    | .schemaChangeDetected schemaChange incidentUrn =>
      some ((first :: rest).foldl .apply (.start first schemaChange incidentUrn))
    | _ => none

theorem projectCase_isSome {events : List CaseEvent} :
    (projectCase events).isSome = true ↔
      ∃ first rest, events = first :: rest ∧ first.eventType = .schemaChangeDetected := by
  cases events with
  | nil => simp [projectCase]
  | cons first rest =>
    cases hbody : first.body <;> simp [projectCase, hbody, CaseEvent.eventType, EventBody.eventType]

theorem projectCase_snoc {events : List CaseEvent} {snapshot : CaseSnapshot}
    (h : projectCase events = some snapshot) (event : CaseEvent) :
    projectCase (events ++ [event]) = some (snapshot.apply event) := by
  cases events with
  | nil => simp [projectCase] at h
  | cons first rest =>
    cases hbody : first.body <;>
      simp only [projectCase, hbody, reduceCtorEq, Option.some.injEq, List.cons_append] at h ⊢
    rw [← List.cons_append, List.foldl_append, List.foldl_cons, List.foldl_nil, h]

theorem projectCase_singleton {event : CaseEvent} {schemaChange : SchemaChangeEvent}
    {incidentUrn : String} (h : event.body = .schemaChangeDetected schemaChange incidentUrn) :
    projectCase [event] =
      some ((CaseSnapshot.start event schemaChange incidentUrn).apply event) := by
  simp [projectCase, h]

end DataRescue
