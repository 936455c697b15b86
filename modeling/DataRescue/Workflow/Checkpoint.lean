import DataRescue.Workflow.Advance

/-!
# The checkpoint machine

What `_advance` is for, as a machine over case snapshots: `advanceStep` reads nothing but the snapshot,
asks the adapters at most one question and names the one event to append. A fresh process that finds a
snapshot continues exactly there, so a crash between two appends cannot matter. `Consistent` is the
invariant of the snapshots that arise; it makes every step of the machine a permitted transition
(`advanceStep_transition`).
-/

namespace DataRescue

open Python Concurrency

/-- The event an advance appends next. A containment lists reasons that depend on what the running
advance has itself computed, so they are left open. -/
inductive Emission where
  | append (body : EventBody) (state : CaseState)
  | contain
  deriving DecidableEq

/-- The event is the one the machine names. -/
inductive Emission.Records : Emission → EventBody → CaseState → Prop
  | append (body : EventBody) (state : CaseState) : Records (.append body state) body state
  | contain (reasons : List String) (writeback : IntegrationResult) :
      Records .contain (.contained reasons writeback 75) .contained

/-- The state an emission leads to. -/
def Emission.state : Emission → CaseState
  | .append _ state => state
  | .contain => .contained

theorem Emission.Records.state_eq {emission : Emission} {body : EventBody} {state : CaseState}
    (h : emission.Records body state) : state = emission.state := by cases h <;> rfl

/-- A step of the machine: questions to the adapters, then at most one event. -/
abbrev Decision := Program AdapterOp AdapterOp.Reply Exn (Option Emission)

namespace Decision

def ask (op : AdapterOp) : Program AdapterOp AdapterOp.Reply Exn op.Reply := .call op .done

def halt : Decision := .done (.ok none)

def emit (body : EventBody) (state : CaseState) : Decision := .done (.ok (some (.append body state)))

def contain : Decision := .done (.ok (some .contain))

def refuse (label : String) (integration : IntegrationResult) : Decision :=
  emit (.failed none s!"{label} is required in connected mode" (some integration)) .failed

end Decision

open Decision

namespace CaseSnapshot

/-- The first proposal without an assessment. -/
def nextUnassessed (snapshot : CaseSnapshot) : Option CandidateProposal :=
  snapshot.candidateProposals.find? fun proposal =>
    (assessmentById snapshot.candidates proposal.id).isNone

/-- The repairable assessments, in the order of the proposals. -/
def eligible (snapshot : CaseSnapshot) : List CandidateAssessment :=
  (snapshot.candidateProposals.filterMap fun proposal =>
    assessmentById snapshot.candidates proposal.id).filter (·.outcome.repairable)

end CaseSnapshot

namespace Service

variable (service : Service) (caseId : String) (event : SchemaChangeEvent)

/-- The integration lets the case go on. -/
def ready (integration : IntegrationResult) : Bool :=
  service.settings.replayMode || integration.status = .succeeded

def decideIncident : Decision := do
  let integration ← ask (.raiseIncident event.entityUrn caseId
    "Schema drift detected. DataRescue is gathering evidence; no repair has shipped.")
  emit (.incidentRaised integration) .detected

def decideContext : Decision := do
  let result ← ask (.fetchContext event.entityUrn)
  let context := service.contextBundle event.entityUrn result
  if !context.complete then Decision.contain
  else emit (.contextGathered context) .contextGathered

def decideProposals (context : ContextBundle) : Decision := do
  let generated ← ask (.propose event context)
  if !service.ready generated.integration then
    refuse "OpenAI candidate generation" generated.integration
  else if generated.candidates = [] then Decision.contain
  else emit (.candidatesReady generated.candidates generated.integration) .candidatesReady

def decideAssessment (context : ContextBundle) (proposal : CandidateProposal) : Decision := do
  let execution ← (ask (.execute .configured caseId proposal context)).tryCatch fun error =>
    if error.isException then pure (failedExecution error.typeName) else .throw error
  emit (.candidateAssessed (service.assess proposal context execution).1) .validating

def decidePatch (proposals : List CandidateProposal) (eligible : List CandidateAssessment) :
    Decision :=
  match selectMin eligible with
  | none => .throw (.valueError "min() arg is an empty sequence")
  | some best =>
    let selected := { best with outcome := .selected }
    match proposals.find? (·.id = selected.id) with
    | none => .throw .stopIteration
    | some proposal => do
      let existingSql ← ask
        (.readText service.settings.githubRepoRoot service.settings.githubPatchPath)
      match service.patchOf proposal existingSql with
      | .error error => .throw (.sqlSafety error)
      | .ok patch => emit (.patchReady selected patch) .patchReady

def decideWriteback (selected : CandidateAssessment) (patch : PatchArtifact) : Decision := do
  let integration ← ask (.writeEvidenceReport event.entityUrn caseId
    (.safeRepairValidated selected patch.sha256) false)
  emit (.evidenceWritten integration) .patchReady

def decideDraft (patch : PatchArtifact) : Decision := do
  let pullRequest ← ask (.createDraft caseId patch)
  if pullRequest.integration.status = .succeeded then emit (.prOpened pullRequest) .prOpen
  else emit (.prAttempted pullRequest) .patchReady

def decidePullRequest (snapshot : CaseSnapshot) (patch : PatchArtifact) : Decision :=
  match snapshot.pullRequest.filter (·.integration.status = .succeeded) with
  | some pullRequest =>
    if snapshot.state = .patchReady then emit (.prOpened pullRequest) .prOpen else halt
  | none => decideDraft caseId patch

def decideRepair (snapshot : CaseSnapshot) : Decision :=
  if snapshot.eligible = [] then Decision.contain
  else
    match snapshot.selectedCandidate, snapshot.patch with
    | some selected, some patch =>
      match snapshot.evidenceWriteback with
      | none => decideWriteback caseId event selected patch
      | some integration =>
        if !service.ready integration then
          refuse "DataHub patch evidence write-back" integration
        else decidePullRequest caseId snapshot patch
    | _, _ => service.decidePatch snapshot.candidateProposals snapshot.eligible

def decideValidated (snapshot : CaseSnapshot) (context : ContextBundle) : Decision :=
  if ¬(snapshot.candidateProposals.map CandidateProposal.id).Nodup then
    .throw (.valueError "Candidate proposal ids must be unique")
  else if snapshot.state = .candidatesReady then
    emit (.validationStarted snapshot.candidateProposals.length service.settings.executionMode)
      .validating
  else
    match snapshot.nextUnassessed with
    | some proposal => service.decideAssessment caseId context proposal
    | none => service.decideRepair caseId event snapshot

def decideContextual (snapshot : CaseSnapshot) (context : ContextBundle) : Decision :=
  if !context.complete then Decision.contain
  else
    match snapshot.candidateGeneration, snapshot.candidateProposals with
    | some integration, _ :: _ =>
      if !service.ready integration then refuse "OpenAI candidate generation" integration
      else service.decideValidated caseId event snapshot context
    | _, _ => service.decideProposals event context

/-- The checkpoint machine. -/
def advanceStep (snapshot : CaseSnapshot) : Decision :=
  if !snapshot.state.ingestResumable then halt
  else
    match snapshot.incidentIntegration with
    | none => decideIncident caseId event
    | some incident =>
      if !service.ready incident then refuse "DataHub incident creation" incident
      else
        match snapshot.context with
        | none => service.decideContext event
        | some context => service.decideContextual caseId event snapshot context

end Service

/-! ### What a step does -/

section

variable (service : Service) (caseId : String) (event : SchemaChangeEvent)
  (answers : (op : AdapterOp) → Except Exn op.Reply → Prop) (snapshot : CaseSnapshot)

/-- The case has a usable incident and a complete context. -/
structure Contextual (context : ContextBundle) : Prop where
  resumable : snapshot.state.ingestResumable = true
  incident : ∃ integration, snapshot.incidentIntegration = some integration ∧
    service.ready integration = true
  present : snapshot.context = some context
  complete : context.complete = true

/-- The case also has usable proposals with distinct ids. -/
structure Proposed (context : ContextBundle) : Prop
    extends Contextual service snapshot context where
  generation : ∃ integration, snapshot.candidateGeneration = some integration ∧
    service.ready integration = true
  nonempty : snapshot.candidateProposals ≠ []
  nodup : (snapshot.candidateProposals.map CandidateProposal.id).Nodup

/-- Every proposal of the case is assessed, and some are repairable. -/
structure Assessed (context : ContextBundle) : Prop
    extends Proposed service snapshot context where
  validating : snapshot.state ≠ .candidatesReady
  assessed : snapshot.nextUnassessed = none
  eligible : snapshot.eligible ≠ []

/-- The case has a patch and a usable evidence write-back. -/
structure Repaired (context : ContextBundle) (patch : PatchArtifact) : Prop
    extends Assessed service snapshot context where
  selected : snapshot.selectedCandidate ≠ none
  patch : snapshot.patch = some patch
  writeback : ∃ integration, snapshot.evidenceWriteback = some integration ∧
    service.ready integration = true

/-- The events the machine can name, with what it has checked and asked. -/
inductive Steps : Emission → Prop
  | incident (integration : IntegrationResult) (hstate : snapshot.state.ingestResumable = true)
      (hincident : snapshot.incidentIntegration = none)
      (hanswer : answers (.raiseIncident event.entityUrn caseId
        "Schema drift detected. DataRescue is gathering evidence; no repair has shipped.")
        (.ok integration)) :
      Steps (.append (.incidentRaised integration) .detected)
  | refused (message : String) (integration : IntegrationResult)
      (hstate : snapshot.state.ingestResumable = true) (hready : service.ready integration = false) :
      Steps (.append (.failed none message (some integration)) .failed)
  | contained (hstate : snapshot.state.ingestResumable = true) : Steps .contain
  | context (result : McpContextResult) (hstate : snapshot.state.ingestResumable = true)
      (hincident : ∃ integration, snapshot.incidentIntegration = some integration ∧
        service.ready integration = true)
      (hcontext : snapshot.context = none)
      (hcomplete : (service.contextBundle event.entityUrn result).complete = true)
      (hanswer : answers (.fetchContext event.entityUrn) (.ok result)) :
      Steps (.append (.contextGathered (service.contextBundle event.entityUrn result))
        .contextGathered)
  | proposals (context : ContextBundle) (generated : CandidateGenerationResult)
      (hcontext : Contextual service snapshot context)
      (hmissing : snapshot.candidateGeneration = none ∨ snapshot.candidateProposals = [])
      (hready : service.ready generated.integration = true) (hnonempty : generated.candidates ≠ [])
      (hanswer : answers (.propose event context) (.ok generated)) :
      Steps (.append (.candidatesReady generated.candidates generated.integration) .candidatesReady)
  | validation (context : ContextBundle) (hproposed : Proposed service snapshot context)
      (hstate : snapshot.state = .candidatesReady) :
      Steps (.append (.validationStarted snapshot.candidateProposals.length
        service.settings.executionMode) .validating)
  | assessment (context : ContextBundle) (proposal : CandidateProposal)
      (execution : CandidateExecution) (hproposed : Proposed service snapshot context)
      (hstate : snapshot.state ≠ .candidatesReady)
      (hnext : snapshot.nextUnassessed = some proposal)
      (hanswer : answers (.execute .configured caseId proposal context) (.ok execution) ∨
        ∃ error : Exn, answers (.execute .configured caseId proposal context) (.error error) ∧
          execution = failedExecution error.typeName) :
      Steps (.append (.candidateAssessed (service.assess proposal context execution).1) .validating)
  | patch (context : ContextBundle) (best : CandidateAssessment) (proposal : CandidateProposal)
      (existingSql : String) (patch : PatchArtifact) (hassessed : Assessed service snapshot context)
      (hmissing : snapshot.selectedCandidate = none ∨ snapshot.patch = none)
      (hbest : selectMin snapshot.eligible = some best)
      (hproposal : snapshot.candidateProposals.find? (·.id = best.id) = some proposal)
      (hpatch : service.patchOf proposal existingSql = .ok patch)
      (hanswer : answers (.readText service.settings.githubRepoRoot service.settings.githubPatchPath)
        (.ok existingSql)) :
      Steps (.append (.patchReady { best with outcome := .selected } patch) .patchReady)
  | writeback (context : ContextBundle) (selected : CandidateAssessment) (patch : PatchArtifact)
      (integration : IntegrationResult) (hassessed : Assessed service snapshot context)
      (hselected : snapshot.selectedCandidate = some selected) (hpatch : snapshot.patch = some patch)
      (hwriteback : snapshot.evidenceWriteback = none)
      (hanswer : answers (.writeEvidenceReport event.entityUrn caseId
        (.safeRepairValidated selected patch.sha256) false) (.ok integration)) :
      Steps (.append (.evidenceWritten integration) .patchReady)
  | opened (context : ContextBundle) (patch : PatchArtifact) (pullRequest : PullRequestArtifact)
      (hrepaired : Repaired service snapshot context patch)
      (hsucceeded : pullRequest.integration.status = .succeeded)
      (hopen : (snapshot.pullRequest = some pullRequest ∧ snapshot.state = .patchReady) ∨
        snapshot.pullRequest.filter (·.integration.status = .succeeded) = none ∧
          answers (.createDraft caseId patch) (.ok pullRequest)) :
      Steps (.append (.prOpened pullRequest) .prOpen)
  | attempted (context : ContextBundle) (patch : PatchArtifact) (pullRequest : PullRequestArtifact)
      (hrepaired : Repaired service snapshot context patch)
      (hsucceeded : pullRequest.integration.status ≠ .succeeded)
      (hopen : snapshot.pullRequest.filter (·.integration.status = .succeeded) = none)
      (hanswer : answers (.createDraft caseId patch) (.ok pullRequest)) :
      Steps (.append (.prAttempted pullRequest) .patchReady)

end

section

variable {service : Service} {caseId : String} {event : SchemaChangeEvent}
  {answers : (op : AdapterOp) → Except Exn op.Reply → Prop} {snapshot : CaseSnapshot}
  {emission : Emission} {context : ContextBundle} {patch : PatchArtifact}

theorem outcome_emit {body : EventBody} {state : CaseState}
    (h : (emit body state).Outcome answers (.ok (some emission))) : emission = .append body state :=
  Option.some.inj (Except.ok.inj h)

theorem outcome_contain (h : Decision.contain.Outcome answers (.ok (some emission))) :
    emission = .contain := Option.some.inj (Except.ok.inj h)

theorem outcome_halt {p : Prop} (h : halt.Outcome answers (.ok (some emission))) : p :=
  nomatch (Except.ok.inj h)

theorem outcome_throw {p : Prop} {error : Exn}
    (h : (Program.throw error : Decision).Outcome answers (.ok (some emission))) : p := nomatch h

theorem outcome_ask {op : AdapterOp} {next : op.Reply → Decision}
    (h : (ask op >>= next).Outcome answers (.ok (some emission))) :
    ∃ reply, answers op (.ok reply) ∧ (next reply).Outcome answers (.ok (some emission)) := by
  obtain ⟨answer, hanswer, h⟩ := h
  cases answer with
  | error error => cases h
  | ok reply => exact ⟨reply, hanswer, h⟩

theorem decideProposals_inv (hcontext : Contextual service snapshot context)
    (hmissing : snapshot.candidateGeneration = none ∨ snapshot.candidateProposals = [])
    (h : (service.decideProposals event context).Outcome answers (.ok (some emission))) :
    Steps service caseId event answers snapshot emission := by
  obtain ⟨generated, hanswer, h⟩ := outcome_ask h
  split_ifs at h with hready hempty
  · rw [outcome_emit h]
    exact .refused _ _ hcontext.resumable (by simpa using hready)
  · rw [outcome_contain h]
    exact .contained hcontext.resumable
  · rw [outcome_emit h]
    exact .proposals context generated hcontext hmissing (by simpa using hready) hempty hanswer

theorem decideAssessment_inv {proposal : CandidateProposal}
    (hproposed : Proposed service snapshot context) (hstate : snapshot.state ≠ .candidatesReady)
    (hnext : snapshot.nextUnassessed = some proposal)
    (h : (service.decideAssessment caseId context proposal).Outcome answers (.ok (some emission))) :
    Steps service caseId event answers snapshot emission := by
  obtain ⟨answer, hanswer, h⟩ := h
  cases answer with
  | ok execution =>
    rw [outcome_emit h]
    exact .assessment context proposal execution hproposed hstate hnext (.inl hanswer)
  | error error =>
    dsimp only [Program.andThen] at h
    split_ifs at h
    · rw [outcome_emit h]
      exact .assessment context proposal _ hproposed hstate hnext (.inr ⟨error, hanswer, rfl⟩)
    · cases h

theorem decidePatch_inv (hassessed : Assessed service snapshot context)
    (hmissing : snapshot.selectedCandidate = none ∨ snapshot.patch = none)
    (h : (service.decidePatch snapshot.candidateProposals snapshot.eligible).Outcome answers
      (.ok (some emission))) : Steps service caseId event answers snapshot emission := by
  unfold Service.decidePatch at h
  split at h
  · exact outcome_throw h
  next best hbest =>
    dsimp only at h
    split at h
    · exact outcome_throw h
    next proposal hproposal =>
      obtain ⟨existingSql, hanswer, h⟩ := outcome_ask h
      split at h
      · exact outcome_throw h
      next patch hpatch =>
        rw [outcome_emit h]
        exact .patch context best proposal existingSql patch hassessed hmissing hbest hproposal
          hpatch hanswer

theorem decidePullRequest_inv (hrepaired : Repaired service snapshot context patch)
    (h : (Service.decidePullRequest caseId snapshot patch).Outcome answers (.ok (some emission))) :
    Steps service caseId event answers snapshot emission := by
  unfold Service.decidePullRequest at h
  split at h
  next pullRequest hpullRequest =>
    split_ifs at h with hstate
    · rw [outcome_emit h]
      obtain ⟨hsome, hsucceeded⟩ := Option.filter_eq_some_iff.1 hpullRequest
      exact .opened context patch pullRequest hrepaired (of_decide_eq_true hsucceeded)
        (.inl ⟨hsome, hstate⟩)
    · exact outcome_halt h
  next hnone =>
    obtain ⟨pullRequest, hanswer, h⟩ := outcome_ask h
    split_ifs at h with hsucceeded
    · rw [outcome_emit h]
      exact .opened context patch pullRequest hrepaired hsucceeded (.inr ⟨hnone, hanswer⟩)
    · rw [outcome_emit h]
      exact .attempted context patch pullRequest hrepaired hsucceeded hnone hanswer

theorem decideRepair_inv (hproposed : Proposed service snapshot context)
    (hstate : snapshot.state ≠ .candidatesReady) (hnext : snapshot.nextUnassessed = none)
    (h : (service.decideRepair caseId event snapshot).Outcome answers (.ok (some emission))) :
    Steps service caseId event answers snapshot emission := by
  unfold Service.decideRepair at h
  split_ifs at h with heligible
  · rw [outcome_contain h]
    exact .contained hproposed.resumable
  have hassessed : Assessed service snapshot context := ⟨hproposed, hstate, hnext, heligible⟩
  split at h
  next selected patch hselected hpatch =>
    split at h
    next hwriteback =>
      obtain ⟨integration, hanswer, h⟩ := outcome_ask h
      rw [outcome_emit h]
      exact .writeback context selected patch integration hassessed hselected hpatch hwriteback
        hanswer
    next integration hwriteback =>
      split_ifs at h with hready
      · rw [outcome_emit h]
        exact .refused _ _ hproposed.resumable (by simpa using hready)
      · exact decidePullRequest_inv ⟨hassessed, by simp [hselected], hpatch, integration, hwriteback,
          by simpa using hready⟩ h
  next hnone =>
    refine decidePatch_inv hassessed ?_ h
    cases hselected : snapshot.selectedCandidate with
    | none => exact .inl rfl
    | some selected =>
      cases hpatch : snapshot.patch with
      | none => exact .inr rfl
      | some patch => exact (hnone selected patch hselected hpatch).elim

theorem decideValidated_inv (hproposed : Contextual service snapshot context)
    (hgeneration : ∃ integration, snapshot.candidateGeneration = some integration ∧
      service.ready integration = true) (hnonempty : snapshot.candidateProposals ≠ [])
    (h : (service.decideValidated caseId event snapshot context).Outcome answers
      (.ok (some emission))) : Steps service caseId event answers snapshot emission := by
  unfold Service.decideValidated at h
  split_ifs at h with hnodup hstate
  · rw [outcome_emit h]
    exact .validation context ⟨hproposed, hgeneration, hnonempty, hnodup⟩ hstate
  · have hproposed : Proposed service snapshot context :=
      ⟨hproposed, hgeneration, hnonempty, hnodup⟩
    split at h
    next proposal hnext => exact decideAssessment_inv hproposed hstate hnext h
    next hnext => exact decideRepair_inv hproposed hstate hnext h
  · exact outcome_throw h

/-- Every event the machine names, with the checks behind it. -/
theorem advanceStep_inv
    (h : (service.advanceStep caseId event snapshot).Outcome answers (.ok (some emission))) :
    Steps service caseId event answers snapshot emission := by
  unfold Service.advanceStep at h
  split_ifs at h with hstate
  · exact outcome_halt h
  have hstate : snapshot.state.ingestResumable = true := by simpa using hstate
  split at h
  next hincident =>
    obtain ⟨integration, hanswer, h⟩ := outcome_ask h
    rw [outcome_emit h]
    exact .incident integration hstate hincident hanswer
  next incident hincident =>
    split_ifs at h with hready
    · rw [outcome_emit h]
      exact .refused _ _ hstate (by simpa using hready)
    have hincident : ∃ integration, snapshot.incidentIntegration = some integration ∧
      service.ready integration = true := ⟨incident, hincident, by simpa using hready⟩
    split at h
    next hnone =>
      obtain ⟨result, hanswer, h⟩ := outcome_ask h
      dsimp only at h
      split_ifs at h with hcomplete
      · rw [outcome_contain h]
        exact .contained hstate
      · rw [outcome_emit h]
        exact .context result hstate hincident hnone (by simpa using hcomplete) hanswer
    next context hcontext =>
      unfold Service.decideContextual at h
      split_ifs at h with hcomplete
      · rw [outcome_contain h]
        exact .contained hstate
      have hcontextual : Contextual service snapshot context :=
        ⟨hstate, hincident, hcontext, by simpa using hcomplete⟩
      split at h
      next integration first rest hgeneration hproposals =>
        split_ifs at h with hready
        · rw [outcome_emit h]
          exact .refused _ _ hstate (by simpa using hready)
        · exact decideValidated_inv hcontextual
            ⟨integration, hgeneration, by simpa using hready⟩ (by simp [hproposals]) h
      next hnone =>
        refine decideProposals_inv hcontextual ?_ h
        cases hgeneration : snapshot.candidateGeneration with
        | none => exact .inl rfl
        | some integration =>
          cases hproposals : snapshot.candidateProposals with
          | nil => exact .inr rfl
          | cons first rest => exact (hnone integration first rest hgeneration hproposals).elim

end

/-! ### Consistent snapshots -/

/-- What a snapshot holds in each state, up to the opening of the pull request. -/
def Consistent (snapshot : CaseSnapshot) : Prop :=
  match snapshot.state with
  | .detected =>
    snapshot.context = none ∧ snapshot.candidateProposals = [] ∧ snapshot.patch = none
  | .contextGathered =>
    snapshot.incidentIntegration ≠ none ∧ snapshot.context ≠ none ∧
      snapshot.candidateProposals = [] ∧ snapshot.patch = none
  | .candidatesReady | .validating =>
    snapshot.incidentIntegration ≠ none ∧ snapshot.context ≠ none ∧
      snapshot.candidateGeneration ≠ none ∧ snapshot.candidateProposals ≠ [] ∧
      snapshot.patch = none
  | .patchReady =>
    snapshot.incidentIntegration ≠ none ∧ snapshot.context ≠ none ∧
      snapshot.candidateGeneration ≠ none ∧ snapshot.candidateProposals ≠ [] ∧
      snapshot.nextUnassessed = none ∧ snapshot.selectedCandidate ≠ none ∧ snapshot.patch ≠ none
  | _ => True

section

variable {service : Service} {caseId : String} {event : SchemaChangeEvent}
  {answers : (op : AdapterOp) → Except Exn op.Reply → Prop} {snapshot : CaseSnapshot}
  {emission : Emission} {context : ContextBundle} {patch : PatchArtifact}

theorem resumable_open {state : CaseState} (h : state.ingestResumable = true) : ¬state.closed := by
  cases state <;> simp_all [CaseState.ingestResumable, CaseState.closed]

/-- The state a case is in when the machine names an event. -/
def Emission.Source (state : CaseState) : Emission → Prop
  | .append (.incidentRaised _) _ | .append (.contextGathered _) _ => state = .detected
  | .append (.candidatesReady ..) _ => state = .contextGathered
  | .append (.validationStarted ..) _ => state = .candidatesReady
  | .append (.candidateAssessed _) _ | .append (.patchReady ..) _ => state = .validating
  | .append (.evidenceWritten _) _ | .append (.prOpened _) _ | .append (.prAttempted _) _ =>
    state = .patchReady
  | _ => state.ingestResumable = true

theorem Steps.source (h : Steps service caseId event answers snapshot emission)
    (hconsistent : Consistent snapshot) : emission.Source snapshot.state := by
  have hcases : ∀ state : CaseState, state.ingestResumable = true →
      state = .detected ∨ state = .contextGathered ∨ state = .candidatesReady ∨
        state = .validating ∨ state = .patchReady := by
    intro state; cases state <;> simp [CaseState.ingestResumable]
  cases h with
  | incident integration hstate hincident =>
    rcases hcases _ hstate with h | h | h | h | h <;> simp_all [Consistent, Emission.Source]
  | refused _ _ hstate => exact hstate
  | contained hstate => exact hstate
  | context result hstate hincident hcontext =>
    rcases hcases _ hstate with h | h | h | h | h <;> simp_all [Consistent, Emission.Source]
  | proposals context generated hcontext hmissing =>
    have hpresent := hcontext.present
    rcases hmissing with hmissing | hmissing <;>
      rcases hcases _ hcontext.resumable with h | h | h | h | h <;> simp_all [Consistent, Emission.Source]
  | validation context hproposed hstate => exact hstate
  | assessment context proposal execution hproposed hstate hnext =>
    have hnonempty := hproposed.nonempty
    rcases hcases _ hproposed.resumable with h | h | h | h | h <;> simp_all [Consistent, Emission.Source]
  | patch context best proposal existingSql patch hassessed hmissing =>
    have hnonempty := hassessed.nonempty
    have hvalidating := hassessed.validating
    rcases hmissing with hmissing | hmissing <;>
      rcases hcases _ hassessed.resumable with h | h | h | h | h <;> simp_all [Consistent, Emission.Source]
  | writeback context selected patch integration hassessed hselected hpatch =>
    rcases hcases _ hassessed.resumable with h | h | h | h | h <;> simp_all [Consistent, Emission.Source]
  | opened context patch pullRequest hrepaired =>
    have hpatch := hrepaired.patch
    rcases hcases _ hrepaired.resumable with h | h | h | h | h <;> simp_all [Consistent, Emission.Source]
  | attempted context patch pullRequest hrepaired =>
    have hpatch := hrepaired.patch
    rcases hcases _ hrepaired.resumable with h | h | h | h | h <;> simp_all [Consistent, Emission.Source]

theorem Steps.transition (h : Steps service caseId event answers snapshot emission)
    (hconsistent : Consistent snapshot) : Transition (some snapshot.state) emission.state := by
  have hsource := h.source hconsistent
  cases h with
  | refused _ _ hstate => exact .inr (CaseState.contained_failed_mem (resumable_open hstate)).2
  | contained hstate => exact .inr (CaseState.contained_failed_mem (resumable_open hstate)).1
  | _ =>
    dsimp only [Emission.Source] at hsource
    rw [hsource]
    first
      | exact .inl rfl
      | exact .inr (by simp [Emission.state, CaseState.allowedTransitions])

theorem assessmentById_isSome {assessments : List CandidateAssessment} {id : String} :
    (assessmentById assessments id).isSome = true ↔ ∃ item ∈ assessments, item.id = id := by
  simp [assessmentById]

theorem replaceAssessment_id (assessments : List CandidateAssessment)
    (selected : CandidateAssessment) :
    (replaceAssessment assessments selected).map CandidateAssessment.id =
      assessments.map CandidateAssessment.id := by
  simp only [replaceAssessment, List.map_map]
  refine List.map_congr_left fun item _ => ?_
  dsimp only [Function.comp]
  split_ifs with h
  · exact h.symm
  · rfl

theorem assessmentById_replace {assessments : List CandidateAssessment}
    {selected : CandidateAssessment} {id : String} :
    (assessmentById (replaceAssessment assessments selected) id).isSome =
      (assessmentById assessments id).isSome := by
  have hmem : ∀ items : List CandidateAssessment,
      (∃ item ∈ items, item.id = id) ↔ id ∈ items.map CandidateAssessment.id := by simp
  rw [Bool.eq_iff_iff, assessmentById_isSome, assessmentById_isSome, hmem, hmem,
    replaceAssessment_id]

theorem Steps.consistent (h : Steps service caseId event answers snapshot emission)
    (hconsistent : Consistent snapshot) {body : EventBody} {state : CaseState}
    (hrecords : emission.Records body state) {recorded : CaseEvent} (hbody : recorded.body = body)
    (hstate : recorded.state = some state) : Consistent (snapshot.apply recorded) := by
  have hsource := h.source hconsistent
  have happly : snapshot.apply recorded =
      { snapshot with
        state
        updatedAt := recorded.createdAt
        events := snapshot.events ++ [recorded] }.applyBody body := by
    simp [CaseSnapshot.apply, hbody, hstate]
  rw [happly]
  cases h with
  | patch context best proposal existingSql patch hassessed hmissing hbest hproposal hpatch =>
    dsimp only [Emission.Source] at hsource
    simp only [Consistent, hsource] at hconsistent
    cases hrecords
    have hnext : ∀ assessments : List CandidateAssessment,
        (∀ id, (assessmentById assessments id).isNone =
          (assessmentById snapshot.candidates id).isNone) →
        (snapshot.candidateProposals.find? fun proposal =>
          (assessmentById assessments proposal.id).isNone) = none := by
      intro assessments hsame
      simp only [hsame]
      exact hassessed.assessed
    have hreplaced := hnext
      (replaceAssessment snapshot.candidates { best with outcome := .selected }) fun id => by
        rw [← Option.not_isSome, ← Option.not_isSome, assessmentById_replace]
    simp_all [Consistent, CaseSnapshot.applyBody, CaseSnapshot.nextUnassessed]
  | refused | contained | opened => cases hrecords; simp [Consistent, CaseSnapshot.applyBody]
  | context result hstate hincident =>
    obtain ⟨integration, hincident, -⟩ := hincident
    dsimp only [Emission.Source] at hsource
    simp only [Consistent, hsource] at hconsistent
    cases hrecords
    simp [Consistent, CaseSnapshot.applyBody, hincident, hconsistent]
  | _ =>
    dsimp only [Emission.Source] at hsource
    simp only [Consistent, hsource] at hconsistent
    cases hrecords
    simp_all [Consistent, CaseSnapshot.applyBody, CaseSnapshot.nextUnassessed]

end

end DataRescue
